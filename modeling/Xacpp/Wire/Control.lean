import Xacpp.Wire.Frame
/-!
# Control-frame payloads

The byte layouts of the control payloads (big-endian throughout), each
with its encoder and its strict decoder. The `ACK` payload and the
`RESUME` declaration share one layout and differ in the entry counts they
admit; the three transaction control frames share another.
-/

namespace Xacpp

/-- Control payload byte cap: 16 KiB. -/
def controlPayloadCap : ℕ := 16 * 1024

/-- Transaction copy expired on the holder side. -/
def transactionExpired : UInt16 := 0x0002

/-- Control payload codec error. -/
inductive ControlError
  | countOutOfRange (count min max : ℕ)
  | lengthMismatch (expected actual : ℕ)
  | missingSeqOverflow (len max : ℕ)
  | payloadTooLarge (actual cap : ℕ)
  | unknownResumeStatus (value : UInt8)
  | invalidUtf8
  | heartbeatLength (actual : ℕ)
deriving DecidableEq, Repr

/-- One progress entry: all frames `0..=highestContiguousSeq` received, and
how many distinct frames were. -/
structure AckEntry where
  transactionId : TxId
  highestContiguousSeq : UInt32
  receivedFrames : UInt32
deriving DecidableEq

/-- One transaction's missing-frame list. -/
structure NackEntry where
  transactionId : TxId
  missingSeqs : List UInt32
deriving DecidableEq

/-- The receiver's verdict on one declared transaction. -/
inductive ResumeStatus
  | resumed
  | rejected
  | unknown
deriving DecidableEq, Repr

/-- One verdict of a `RESUME_RESPONSE`. -/
structure ResumeStatusEntry where
  transactionId : TxId
  status : ResumeStatus
deriving DecidableEq

/-! ## Shared pieces -/

/-- Shared post-encode bound check. -/
def finish (out : Bytes) : Except ControlError Bytes :=
  if out.length > controlPayloadCap then
    .error (.payloadTooLarge out.length controlPayloadCap)
  else .ok out

/-- Reads a fixed-width field out of a payload slice. -/
def fixedField (n : ℕ) (bytes : Bytes) : Except ControlError (List.Vector UInt8 n) :=
  if h : bytes.length = n then .ok ⟨bytes, h⟩ else .error (.lengthMismatch n bytes.length)

/-- Entry-count range check used by both encode and decode. -/
def checkCount (count min max : ℕ) : Except ControlError Unit :=
  if count < min ∨ count > max then .error (.countOutOfRange count min max) else .ok ()

/-- A big-endian `u32` field. -/
def readU32 (bytes : Bytes) : Except ControlError UInt32 := do
  let field ← fixedField 4 bytes
  return UInt32.ofNat (fromBE field.toList)

/-! ## `ACK` and `RESUME`: a count byte and 24-byte entries -/

def ackEntryLen : ℕ := 24

/-- One entry on the wire: the id, then the two counters. -/
def writeAckEntry (entry : AckEntry) : Bytes :=
  entry.transactionId.toList ++
    (toBE 4 entry.highestContiguousSeq.toNat ++ toBE 4 entry.receivedFrames.toNat)

def readAckEntry (chunk : Bytes) : Except ControlError AckEntry := do
  let transactionId ← fixedField 16 (chunk.take 16)
  let highestContiguousSeq ← readU32 ((chunk.drop 16).take 4)
  let receivedFrames ← readU32 ((chunk.drop 20).take 4)
  return ⟨transactionId, highestContiguousSeq, receivedFrames⟩

/-- Parse exactly `count` entries. -/
def readAckEntries (bytes : Bytes) (count : ℕ) : Except ControlError (List AckEntry) :=
  ((chunksExact ackEntryLen bytes).take count).mapM readAckEntry

/-- The entry list with a count byte, for `min..=255` entries. -/
def encodeAckEntries (min : ℕ) (entries : List AckEntry) : Except ControlError Bytes := do
  checkCount entries.length min 255
  finish (UInt8.ofNat entries.length :: entries.flatMap writeAckEntry)

/-- Rejects counts below `min`, truncated payloads and trailing bytes. -/
def decodeAckEntries (min : ℕ) : Bytes → Except ControlError (List AckEntry)
  | [] => .error (.lengthMismatch 1 0)
  | countByte :: rest => do
    let count := countByte.toNat
    checkCount count min 255
    let expected := count * ackEntryLen
    if rest.length ≠ expected then .error (.lengthMismatch expected rest.length)
    else readAckEntries rest count

/-- `ACK`: 1 to 255 progress entries. -/
def encodeAckPayload : List AckEntry → Except ControlError Bytes := encodeAckEntries 1

def decodeAckPayload : Bytes → Except ControlError (List AckEntry) := decodeAckEntries 1

/-- `RESUME`: the declaration, 0 to 255 entries. -/
def encodeResumeRequest : List AckEntry → Except ControlError Bytes := encodeAckEntries 0

def decodeResumeRequest : Bytes → Except ControlError (List AckEntry) := decodeAckEntries 0

/-! ## `NACK` -/

def writeNackEntry (entry : NackEntry) : Bytes :=
  entry.transactionId.toList ++
    (toBE 2 entry.missingSeqs.length ++ entry.missingSeqs.flatMap fun seq => toBE 4 seq.toNat)

/-- The entries' bytes; a gap list past `u16::MAX` is refused. -/
def writeNackEntries : List NackEntry → Except ControlError Bytes
  | [] => .ok []
  | entry :: rest =>
    if entry.missingSeqs.length > 65535 then
      .error (.missingSeqOverflow entry.missingSeqs.length 65535)
    else do
      let tail ← writeNackEntries rest
      return writeNackEntry entry ++ tail

def encodeNackPayload (entries : List NackEntry) : Except ControlError Bytes := do
  checkCount entries.length 1 255
  let body ← writeNackEntries entries
  finish (UInt8.ofNat entries.length :: body)

/-- `count` entries off the front, and what is left. -/
def readNackEntries : ℕ → Bytes → Except ControlError (List NackEntry × Bytes)
  | 0, rest => .ok ([], rest)
  | count + 1, rest =>
    if rest.length < 18 then .error (.lengthMismatch 18 rest.length)
    else do
      let transactionId ← fixedField 16 (rest.take 16)
      let missingCount := fromBE ((rest.drop 16).take 2)
      let rest := rest.drop 18
      let expected := missingCount * 4
      if rest.length < expected then .error (.lengthMismatch expected rest.length)
      else do
        let missingSeqs ← (chunksExact 4 (rest.take expected)).mapM readU32
        let (entries, rest) ← readNackEntries count (rest.drop expected)
        return (⟨transactionId, missingSeqs⟩ :: entries, rest)

def decodeNackPayload : Bytes → Except ControlError (List NackEntry)
  | [] => .error (.lengthMismatch 1 0)
  | countByte :: rest => do
    checkCount countByte.toNat 1 255
    let (entries, rest) ← readNackEntries countByte.toNat rest
    if rest ≠ [] then .error (.lengthMismatch 0 rest.length)
    else return entries

/-! ## `RESUME_RESPONSE` -/

def resumeStatusEntryLen : ℕ := 17

/-- Wire u8 value. -/
def ResumeStatus.toU8 : ResumeStatus → UInt8
  | resumed => 0x01
  | rejected => 0x02
  | unknown => 0x03

/-- Classify a wire u8 value. -/
def ResumeStatus.fromU8 (value : UInt8) : Except ControlError ResumeStatus :=
  if value = 0x01 then .ok resumed
  else if value = 0x02 then .ok rejected
  else if value = 0x03 then .ok unknown
  else .error (.unknownResumeStatus value)

def writeResumeStatusEntry (entry : ResumeStatusEntry) : Bytes :=
  entry.transactionId.toList ++ [entry.status.toU8]

def readResumeStatusEntry (chunk : Bytes) : Except ControlError ResumeStatusEntry := do
  let transactionId ← fixedField 16 (chunk.take 16)
  let status ← ResumeStatus.fromU8 (chunk.getD 16 0)
  return ⟨transactionId, status⟩

def encodeResumeResponse (entries : List ResumeStatusEntry) : Except ControlError Bytes := do
  checkCount entries.length 0 255
  finish (UInt8.ofNat entries.length :: entries.flatMap writeResumeStatusEntry)

def decodeResumeResponse : Bytes → Except ControlError (List ResumeStatusEntry)
  | [] => .error (.lengthMismatch 1 0)
  | countByte :: rest => do
    let count := countByte.toNat
    checkCount count 0 255
    let expected := count * resumeStatusEntryLen
    if rest.length ≠ expected then .error (.lengthMismatch expected rest.length)
    else (chunksExact resumeStatusEntryLen rest).mapM readResumeStatusEntry

/-! ## The transaction control frames: a bare transaction id -/

def encodeTransactionId (transactionId : TxId) : Except ControlError Bytes :=
  finish transactionId.toList

def decodeTransactionId (bytes : Bytes) : Except ControlError TxId :=
  if bytes.length ≠ 16 then .error (.lengthMismatch 16 bytes.length) else fixedField 16 bytes

/-- `TRANSACTION_PAUSE`. -/
def encodeTransactionPause : TxId → Except ControlError Bytes := encodeTransactionId

def decodeTransactionPause : Bytes → Except ControlError TxId := decodeTransactionId

/-- `TRANSACTION_ABORT`. -/
def encodeTransactionAbort : TxId → Except ControlError Bytes := encodeTransactionId

def decodeTransactionAbort : Bytes → Except ControlError TxId := decodeTransactionId

/-- `TRANSACTION_COMPLETED`. -/
def encodeTransactionCompleted : TxId → Except ControlError Bytes := encodeTransactionId

def decodeTransactionCompleted : Bytes → Except ControlError TxId := decodeTransactionId

/-! ## `HEARTBEAT` and `ERROR` -/

/-- Unidirectional liveness probe. -/
structure HeartbeatPayload where
  monotonicSeq : UInt32
  senderEpochMs : UInt64
deriving DecidableEq

def encodeHeartbeat (payload : HeartbeatPayload) : Except ControlError Bytes :=
  finish (toBE 4 payload.monotonicSeq.toNat ++ toBE 8 payload.senderEpochMs.toNat)

/-- Rejects payloads that are not exactly 12 bytes. -/
def decodeHeartbeat (bytes : Bytes) : Except ControlError HeartbeatPayload :=
  if bytes.length ≠ 12 then .error (.heartbeatLength bytes.length)
  else do
    let monotonicSeq ← readU32 (bytes.take 4)
    let senderEpochMs ← fixedField 8 ((bytes.drop 4).take 8)
    return ⟨monotonicSeq, UInt64.ofNat (fromBE senderEpochMs.toList)⟩

/-- Protocol-level error: a registry code and a UTF-8 message. -/
structure ErrorPayload where
  code : UInt16
  message : String
deriving DecidableEq

def encodeError (payload : ErrorPayload) : Except ControlError Bytes :=
  finish (toBE 2 payload.code.toNat ++ payload.message.toUTF8.data.toList)

/-- The message must be valid UTF-8 (may be empty). -/
def decodeError (bytes : Bytes) : Except ControlError ErrorPayload :=
  if bytes.length < 2 then .error (.lengthMismatch 2 bytes.length)
  else
    match String.fromUTF8? ⟨(bytes.drop 2).toArray⟩ with
    | none => .error .invalidUtf8
    | some message => .ok ⟨UInt16.ofNat (fromBE (bytes.take 2)), message⟩

end Xacpp
