import Xacpp.Common.Table
import Xacpp.Wire.Control
import Std.Data.TreeMap.Lemmas
/-!
# The reassembler

`TransactionReassembler` keeps one slot per transaction: the frames as they
arrived, keyed by `seq`, with the byte count and the contiguous prefix kept
beside them. A slot is opened by frame 0 alone, and it is gone once its
payload is handed out or it is discarded: no trace of it remains.
-/

namespace Xacpp

namespace Reliability

/-- Reassembly error: one frame rejected, the reassembler stays usable. -/
inductive ReassemblyError
  | totalLenConflict (first got : UInt32)
  | frameLenMismatch (declared actual : ℕ)
  | emptyTotalLen
  | totalLenExceeded (total : UInt32)
deriving DecidableEq, Repr

/-- Outcome of feeding one frame. -/
inductive ReceiveOutcome
  /-- Frame stored. `emitted` carries the frames newly covered by the
  contiguous prefix where the caller asked for them. -/
  | accepted (complete : Bool) (emitted : List (ℕ × Bytes))
  /-- Same-`seq` frame already stored. -/
  | duplicate
  /-- A frame with `seq > 0` for an id without a slot. -/
  | slotlessDropped
deriving DecidableEq, Repr

/-- Per-transaction slot state. The counters and seqs are natural numbers,
those of the code machine words: the two agree as long as fewer than `2 ^ 32`
frames are stored. -/
structure Slot where
  totalLen : UInt32
  /-- `seq → payload`, iterated in `seq` order. -/
  frames : Std.TreeMap ℕ Bytes
  /-- Distinct frames stored. -/
  receivedFrames : ℕ
  /-- Sum of stored payload lengths. -/
  receivedBytes : ℕ
  /-- Highest `seq` such that all frames `0..=seq` are stored. -/
  contiguousPrefix : Option ℕ

namespace Slot

/-- A slot with nothing stored. -/
def opened (totalLen : UInt32) : Slot where
  totalLen := totalLen
  frames := ∅
  receivedFrames := 0
  receivedBytes := 0
  contiguousPrefix := none

/-- The first seq past the contiguous prefix. -/
def prefixEnd (slot : Slot) : ℕ := slot.contiguousPrefix.elim 0 (· + 1)

/-- The scan of `advance_contiguous`: from `next`, as far as stored seqs
reach. A stored seq is passed in each round, so their number is fuel
enough. -/
def scan (frames : Std.TreeMap ℕ Bytes) : ℕ → ℕ → Option ℕ → Option ℕ
  | 0, _, reached => reached
  | fuel + 1, next, reached =>
    if frames.contains next then scan frames fuel (next + 1) (some next) else reached

/-- Advance the contiguous prefix over newly-filled holes. -/
def advanceContiguous (slot : Slot) : Slot :=
  { slot with
    contiguousPrefix := scan slot.frames slot.frames.size slot.prefixEnd slot.contiguousPrefix }

/-- The stored byte count equals the declared total, and there is a
contiguous prefix. -/
def isComplete (slot : Slot) : Bool :=
  slot.contiguousPrefix.isSome && decide (slot.receivedBytes = slot.totalLen.toNat)

/-- Store one frame and advance the prefix. -/
def store (slot : Slot) (seq : ℕ) (payload : Bytes) : Slot :=
  advanceContiguous { slot with
    frames := slot.frames.insert seq payload
    receivedFrames := slot.receivedFrames + 1
    receivedBytes := slot.receivedBytes + payload.length }

/-- The stored frames with `seq` in `start..stop`. -/
def covered (slot : Slot) (start stop : ℕ) : List (ℕ × Bytes) :=
  (List.range' start (stop - start)).filterMap fun seq =>
    slot.frames[seq]?.map fun bytes => (seq, bytes)

/-- The concatenation of the stored payloads in `seq` order. -/
def assembled (slot : Slot) : Bytes := (slot.frames.toList.map Prod.snd).flatten

end Slot

/-- Receive-side transaction reassembler. -/
structure TransactionReassembler where
  slots : Table TxId Slot

namespace TransactionReassembler

/-- A reassembler without slots. -/
def new : TransactionReassembler where
  slots := ∅

variable (r : TransactionReassembler)

/-- Feed one frame into its transaction slot. -/
def receiveFrame (transactionId : TxId) (seq totalLen : UInt32) (frameLen : ℕ) (payload : Bytes)
    (emit : Bool) : Except ReassemblyError ReceiveOutcome × TransactionReassembler :=
  if frameLen ≠ payload.length then
    (.error (.frameLenMismatch frameLen payload.length), r)
  else if totalLen = 0 then (.error .emptyTotalLen, r)
  else if seq > 0 ∧ r.slots.contains transactionId = false then (.ok .slotlessDropped, r)
  else
    let previousPrefixEnd := ((r.slots.get? transactionId).map Slot.prefixEnd).getD 0
    let slot := (r.slots.get? transactionId).getD (Slot.opened totalLen)
    -- the entry is inserted before the checks below, and stays where they fail
    let r := if r.slots.contains transactionId then r
      else { r with slots := r.slots.insert transactionId slot }
    if slot.totalLen ≠ totalLen then (.error (.totalLenConflict slot.totalLen totalLen), r)
    else if slot.frames.contains seq.toNat then (.ok .duplicate, r)
    else if slot.receivedBytes + payload.length > totalLen.toNat then
      (.error (.totalLenExceeded totalLen), r)
    else
      let slot := slot.store seq.toNat payload
      let newPrefixEnd := slot.contiguousPrefix.elim (previousPrefixEnd - 1) (· + 1)
      let emitted := if emit then slot.covered previousPrefixEnd newPrefixEnd else []
      (.ok (.accepted slot.isComplete emitted),
        { r with slots := r.slots.insert transactionId slot })

/-- Whether the transaction has an open or completed, undelivered slot. -/
def containsTransaction (transactionId : TxId) : Bool := r.slots.contains transactionId

/-- Whether the completion criteria hold for the transaction. -/
def isComplete (transactionId : TxId) : Bool :=
  (r.slots.get? transactionId).any Slot.isComplete

/-- The bytes stored so far and the declared total. -/
def byteProgress (transactionId : TxId) : Option (ℕ × UInt32) :=
  (r.slots.get? transactionId).map fun slot => (slot.receivedBytes, slot.totalLen)

/-- Hand out the assembled payload and release the slot; `none`, and the
slot stays, unless the transaction is complete. -/
def takeCompleted (transactionId : TxId) : Option Bytes × TransactionReassembler :=
  match r.slots.get? transactionId with
  | none => (none, r)
  | some slot =>
    if slot.isComplete then
      (some slot.assembled, { r with slots := r.slots.erase transactionId })
    else (none, r)

/-- The ACK progress entry of a transaction; none without a prefix. -/
def ackEntry (transactionId : TxId) : Option AckEntry :=
  (r.slots.get? transactionId).bind fun slot =>
    slot.contiguousPrefix.map fun highest =>
      { transactionId := transactionId
        highestContiguousSeq := UInt32.ofNat highest
        receivedFrames := UInt32.ofNat slot.receivedFrames }

/-- Missing seqs between the contiguous prefix and the highest stored seq,
ascending, at most `maxEntries` of them. -/
def missingSeqs (transactionId : TxId) (maxEntries : ℕ) : List ℕ :=
  match r.slots.get? transactionId with
  | none => []
  | some slot =>
    match slot.frames.maxKey? with
    | none => []
    | some highestStored =>
      ((List.range' slot.prefixEnd (highestStored - slot.prefixEnd)).filter
        fun seq => !slot.frames.contains seq).take maxEntries

/-- Ids of all transaction slots, open or completed-undelivered. -/
def openTransactions : List TxId := r.slots.keys

/-- Drop the slot, if present. -/
def discard (transactionId : TxId) : Bool × TransactionReassembler :=
  (r.slots.contains transactionId, { r with slots := r.slots.erase transactionId })

end TransactionReassembler

/-- Upper bound for a NACK missing-seq list so one entry still fits the
control payload. -/
def maxNackMissingEntries : ℕ := (controlPayloadCap - 19) / 4

end Reliability

end Xacpp
