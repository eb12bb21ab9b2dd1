import Xacpp.Common.Table
import Xacpp.Wire.Control
/-!
# The copy holder

`TransactionSender` splits payloads into `DATA_BINARY` working frames,
keeps a copy of each until it is acknowledged, and computes what to send
again. Every operation takes the current instant; none reads a clock. An
operation that mutates and can fail returns its result beside the state it
leaves, because `finish_transaction` fails after it has framed the tail.

Counters are naturals. The casts the code makes (`as u32`) are the
reductions written `asU32` and `UInt32.ofNat`.
-/

namespace Xacpp

namespace Reliability

/-- Sender tunables. -/
structure SenderConfig where
  /-- Working-frame payload size; values below 1 are clamped to 1 at
  construction. -/
  frameSize : ℕ := 1024 * 1024
  /-- Initial retransmission timeout. -/
  rtoInitialMs : ℕ := 2000
  /-- Retransmission timeout ceiling. -/
  rtoMaxMs : ℕ := 30000
  /-- Cap on the sum of unacknowledged transaction bytes. -/
  backpressureCapBytes : ℕ := 64 * 1024 * 1024
deriving DecidableEq, Repr

/-- Failure of the framing operations. -/
inductive BeginError
  | backpressured (unackedBytes incomingBytes capBytes : ℕ)
  | emptyPayload
  | payloadTooLarge (len max : ℕ)
  | duplicateTransaction
  | unknownTransaction
  | totalLenExceeded (total : UInt32)
  | incompletePayload (written : ℕ) (declared : UInt32)
deriving DecidableEq, Repr

/-- The cast `as u32`. -/
def asU32 (n : ℕ) : ℕ := n % 2 ^ 32

/-- Retransmission timeout of a frame with `attempts` failed sends: the
initial one doubled per attempt, saturating at `u64::MAX`, capped. -/
def currentRto (rtoInitialMs rtoMaxMs attempts : ℕ) : ℕ :=
  min (min (rtoInitialMs * 2 ^ min attempts 62) (2 ^ 64 - 1)) rtoMaxMs

/-- Per-frame send bookkeeping. -/
structure FrameState where
  confirmed : Bool
  lastSentMs : ℕ
  attempts : ℕ
deriving DecidableEq, Repr

/-- One held transaction copy. -/
structure PendingTxn where
  /-- Declared total payload size. -/
  totalLen : UInt32
  /-- Working frames; `none` once the frame's copy was released. -/
  frames : List (Option Frame)
  states : List FrameState
  /-- Sub-frame tail of a streaming transaction. -/
  partialBytes : Bytes
  /-- Total bytes appended so far, the tail included. -/
  written : ℕ
  /-- Unacknowledged bytes still held. -/
  bytes : ℕ
  paused : Bool
  /-- Reconnect gate: set by a declaration, lifted by the verdict. -/
  awaitingResume : Bool
  /-- Instant the declaration was last sent. -/
  declaredMs : Option ℕ
  /-- Highest contiguous progress the peer reported. -/
  ackedContiguous : Option ℕ
  /-- Highest received-frames count the peer reported. -/
  ackedReceived : ℕ
  lastProgressMs : ℕ
deriving DecidableEq

namespace PendingTxn

def frameCount (txn : PendingTxn) : ℕ := asU32 txn.frames.length

/-- Every declared byte is framed. -/
def isFullySent (txn : PendingTxn) : Bool :=
  decide (txn.written = txn.totalLen.toNat) && txn.partialBytes.isEmpty

/-- Fully sent, and the peer's contiguous progress covers the final frame
with no sparse residue. -/
def isFullyAcked (txn : PendingTxn) : Bool :=
  txn.isFullySent &&
    match txn.frameCount with
    | 0 => false
    | last + 1 => decide (txn.ackedContiguous = some last) && decide (txn.ackedReceived ≥ last + 1)

/-- A copy after bytes were appended to its tail buffer. -/
def taken (txn : PendingTxn) (chunk : Bytes) : PendingTxn :=
  { txn with
    partialBytes := txn.partialBytes ++ chunk
    written := txn.written + chunk.length
    bytes := txn.bytes + chunk.length }

/-- Move `payload` out of the tail buffer into a new working frame, marked
sent now. The bytes stay held: the frame copy is the retained payload. -/
def pushFrame (txn : PendingTxn) (transactionId : TxId) (payload rest : Bytes) (now : ℕ) :
    PendingTxn × Frame :=
  let frame : Frame := {
    frameType := .dataBinary
    transactionId := transactionId
    totalLen := txn.totalLen
    seq := UInt32.ofNat txn.frames.length
    payload := payload }
  ({ txn with
      partialBytes := rest
      frames := txn.frames ++ [some frame]
      states := txn.states ++ [{ confirmed := false, lastSentMs := now, attempts := 0 }] }, frame)

/-- The framing loop: cut full working frames off the tail buffer. Each
round takes at least one byte, so the buffer's length is fuel enough. -/
def frameLoop (frameSize : ℕ) (transactionId : TxId) (now : ℕ) :
    ℕ → PendingTxn → List Frame → PendingTxn × List Frame
  | 0, txn, out => (txn, out)
  | fuel + 1, txn, out =>
    if frameSize ≤ txn.partialBytes.length then
      let (txn', frame) := txn.pushFrame transactionId (txn.partialBytes.take frameSize)
        (txn.partialBytes.drop frameSize) now
      frameLoop frameSize transactionId now fuel txn' (out ++ [frame])
    else (txn, out)

end PendingTxn

/-- Outcome of applying the receiver's resume verdicts. -/
structure ResumeVerdicts where
  /-- Frames to retransmit. -/
  retransmit : List Frame
  /-- Transactions closed confirmed by holder-side adjudication. -/
  confirmed : List TxId
  /-- Transactions closed failed. -/
  failed : List TxId
deriving DecidableEq

/-- Send-side transaction manager. The clamp at construction is a field:
no sender frames zero bytes at a time. -/
structure TransactionSender where
  config : SenderConfig
  pending : Table TxId PendingTxn
  frameSize_pos : 0 < config.frameSize

namespace TransactionSender

/-- Create a sender with the given configuration. -/
def new (config : SenderConfig) : TransactionSender where
  config := { config with frameSize := max config.frameSize 1 }
  pending := ∅
  frameSize_pos := Nat.lt_of_lt_of_le Nat.one_pos (Nat.le_max_right _ _)

variable (s : TransactionSender)

/-- The sender with another pending table. -/
def withPending (pending : Table TxId PendingTxn) : TransactionSender :=
  { s with pending := pending }

/-- Whether the transaction has an open slot. -/
def containsTransaction (transactionId : TxId) : Bool := s.pending.contains transactionId

/-- Sum of unacknowledged transaction bytes still held. -/
def unackedBytes : ℕ := (s.pending.values.map PendingTxn.bytes).sum

/-- Backpressure state. -/
def isPaused : Bool := decide (s.unackedBytes ≥ s.config.backpressureCapBytes)

/-- Open a streaming transaction slot. -/
def openTransaction (transactionId : TxId) (totalLen : UInt32) (now : ℕ) :
    Except BeginError Unit × TransactionSender :=
  if s.pending.contains transactionId then (.error .duplicateTransaction, s)
  else if totalLen = 0 then (.error .emptyPayload, s)
  else
    (.ok (), s.withPending (s.pending.insert transactionId {
      totalLen := totalLen
      frames := []
      states := []
      partialBytes := []
      written := 0
      bytes := 0
      paused := false
      awaitingResume := false
      declaredMs := none
      ackedContiguous := none
      ackedReceived := 0
      lastProgressMs := now }))

/-- Append streaming bytes; returns the complete working frames. -/
def appendChunk (transactionId : TxId) (chunk : Bytes) (now : ℕ) :
    Except BeginError (List Frame) × TransactionSender :=
  match s.pending.get? transactionId with
  | none => (.error .unknownTransaction, s)
  | some txn =>
    if s.unackedBytes + chunk.length > s.config.backpressureCapBytes then
      (.error (.backpressured s.unackedBytes chunk.length s.config.backpressureCapBytes), s)
    else if txn.written + chunk.length > txn.totalLen.toNat then
      (.error (.totalLenExceeded txn.totalLen), s)
    else
      let (txn', out) := (txn.taken chunk).frameLoop s.config.frameSize transactionId now
        (txn.taken chunk).partialBytes.length []
      (.ok out, s.withPending (s.pending.insert transactionId txn'))

/-- Flush the tail buffer as the tail frame and check that the declared
total was written. The flush stands even where the check then fails. -/
def finishTransaction (transactionId : TxId) (now : ℕ) :
    Except BeginError (List Frame) × TransactionSender :=
  match s.pending.get? transactionId with
  | none => (.error .unknownTransaction, s)
  | some txn =>
    let (txn', out) :=
      if txn.partialBytes.isEmpty then (txn, [])
      else
        let (txn', frame) := txn.pushFrame transactionId txn.partialBytes [] now
        (txn', [frame])
    let s' := s.withPending (s.pending.insert transactionId txn')
    if txn.written ≠ txn.totalLen.toNat then
      (.error (.incompletePayload txn.written txn.totalLen), s')
    else (.ok out, s')

/-- Whole-payload form: open, append, finish. -/
def beginTransaction (transactionId : TxId) (payload : Bytes) (now : ℕ) :
    Except BeginError (List Frame) × TransactionSender :=
  if s.unackedBytes + payload.length > s.config.backpressureCapBytes then
    (.error (.backpressured s.unackedBytes payload.length s.config.backpressureCapBytes), s)
  else
    match s.openTransaction transactionId (UInt32.ofNat payload.length) now with
    | (.error e, s₁) => (.error e, s₁)
    | (.ok (), s₁) =>
      match s₁.appendChunk transactionId payload now with
      | (.error e, s₂) => (.error e, s₂)
      | (.ok frames, s₂) =>
        match s₂.finishTransaction transactionId now with
        | (.error e, s₃) => (.error e, s₃)
        | (.ok tail, s₃) => (.ok (frames ++ tail), s₃)

/-- Pause or unpause; unpausing restarts the retransmission clock of every
unconfirmed frame. -/
def setPaused (transactionId : TxId) (paused : Bool) (now : ℕ) : Bool × TransactionSender :=
  match s.pending.get? transactionId with
  | none => (false, s)
  | some txn =>
    let states :=
      if paused then txn.states
      else txn.states.map fun state =>
        if state.confirmed then state else { state with lastSentMs := now }
    (true, s.withPending
      (s.pending.insert transactionId { txn with paused := paused, states := states }))

/-- Release the retained copy; returns whether it existed. -/
def abortTransaction (transactionId : TxId) : Bool × TransactionSender :=
  (s.pending.contains transactionId, s.withPending (s.pending.erase transactionId))

/-- Whether the transaction is paused; unknown transactions read as not. -/
def isTransactionPaused (transactionId : TxId) : Bool :=
  (s.pending.get? transactionId).any PendingTxn.paused

/-- Whether the transaction awaits the receiver's resume verdict. -/
def isAwaitingResume (transactionId : TxId) : Bool :=
  ((s.pending.get? transactionId).map PendingTxn.awaitingResume).getD false

end TransactionSender

/-! ## Acknowledgements -/

/-- The contiguous progress after one more report, before clamping. -/
def PendingTxn.merged (txn : PendingTxn) (entry : AckEntry) : ℕ :=
  match txn.ackedContiguous with
  | none => entry.highestContiguousSeq.toNat
  | some h => max h entry.highestContiguousSeq.toNat

/-- What one cumulative ACK entry does to a held copy: the peer's numbers
are merged and clamped to the real frame range, the contiguous prefix is
confirmed, and the copies in it are released. -/
def PendingTxn.acked (txn : PendingTxn) (entry : AckEntry) (now : ℕ) : PendingTxn :=
  let clamped := min (txn.merged entry) (txn.frameCount - 1)
  let confirmedUpTo := min (clamped + 1) txn.states.length
  let released := (txn.frames.take confirmedUpTo).reduceOption
  { txn with
    ackedContiguous := some clamped
    ackedReceived := max txn.ackedReceived entry.receivedFrames.toNat
    lastProgressMs := now
    states := txn.states.mapIdx fun i state =>
      if i < confirmedUpTo then { state with confirmed := true } else state
    frames := txn.frames.mapIdx fun i frame => if i < confirmedUpTo then none else frame
    bytes := released.foldl (fun held frame => held - frame.payload.length) txn.bytes }

namespace TransactionSender

variable (s : TransactionSender)

/-- Apply one cumulative ACK entry; `true` when it completes the
transaction and its copy was released. -/
def handleAck (entry : AckEntry) (now : ℕ) : Bool × TransactionSender :=
  match s.pending.get? entry.transactionId with
  | none => (false, s)
  | some txn =>
    let txn' := txn.acked entry now
    if txn'.isFullyAcked then (true, s.withPending (s.pending.erase entry.transactionId))
    else (false, s.withPending (s.pending.insert entry.transactionId txn'))

end TransactionSender

/-! ## Retransmission -/

/-- The listed frames of a copy, their clocks restarted: out-of-range and
confirmed seqs are skipped. -/
def PendingTxn.nacked (txn : PendingTxn) (now : ℕ) :
    List UInt32 → List FrameState × List Frame → List FrameState × List Frame
  | [], acc => acc
  | seq :: rest, (states, out) =>
    match states[seq.toNat]? with
    | none => txn.nacked now rest (states, out)
    | some state =>
      if state.confirmed then txn.nacked now rest (states, out)
      else
        let states := states.set seq.toNat { state with lastSentMs := now }
        match txn.frames[seq.toNat]?.join with
        | none => txn.nacked now rest (states, out)
        | some frame => txn.nacked now rest (states, out ++ [frame])

/-- Whether an unconfirmed frame's retransmission timeout has elapsed. -/
def FrameState.isDue (state : FrameState) (config : SenderConfig) (now : ℕ) : Bool :=
  !state.confirmed &&
    decide (now - state.lastSentMs ≥ currentRto config.rtoInitialMs config.rtoMaxMs state.attempts)

/-- The clock of a frame sent again: restarted, one more attempt. -/
def FrameState.resent (state : FrameState) (now : ℕ) : FrameState :=
  { state with lastSentMs := now, attempts := state.attempts + 1 }

/-- Send again every frame of the copy the predicate picks. -/
def PendingTxn.resend (txn : PendingTxn) (pick : FrameState → Bool) (now : ℕ) :
    PendingTxn × List Frame :=
  ({ txn with
      states := txn.states.mapIdx fun i state =>
        if i < txn.frames.length ∧ pick state then state.resent now else state },
    (txn.states.zip txn.frames).filterMap fun (state, frame) =>
      if pick state then frame else none)

/-- The overdue frames of one copy; a paused or gated copy sends nothing. -/
def PendingTxn.dueRetransmissions (txn : PendingTxn) (config : SenderConfig) (now : ℕ) :
    PendingTxn × List Frame :=
  if txn.paused || txn.awaitingResume then (txn, [])
  else txn.resend (fun state => state.isDue config now) now

namespace TransactionSender

variable (s : TransactionSender)

/-- Apply a NACK: the listed frames, for immediate retransmission. A paused
transaction answers none. -/
def handleNack (transactionId : TxId) (missingSeqs : List UInt32) (now : ℕ) :
    List Frame × TransactionSender :=
  match s.pending.get? transactionId with
  | none => ([], s)
  | some txn =>
    let txn := { txn with lastProgressMs := now }
    if txn.paused then ([], s.withPending (s.pending.insert transactionId txn))
    else
      let (states, out) := txn.nacked now missingSeqs (txn.states, [])
      (out, s.withPending (s.pending.insert transactionId { txn with states := states }))

/-- Frames whose retransmission timeout elapsed, over every transaction. -/
def dueRetransmissions (now : ℕ) : List Frame × TransactionSender :=
  (s.pending.toList.flatMap fun e => (e.2.dueRetransmissions s.config now).2,
    s.withPending (s.pending.mapValues fun _ txn => (txn.dueRetransmissions s.config now).1))

end TransactionSender

/-! ## The recovery handshake -/

/-- The holder's written progress, as a declaration carries it. -/
def PendingTxn.declaration (txn : PendingTxn) (transactionId : TxId) : AckEntry where
  transactionId := transactionId
  highestContiguousSeq := UInt32.ofNat (txn.frameCount - 1)
  receivedFrames := UInt32.ofNat txn.frameCount

/-- Arm the reconnect gate, the declaration sent now. -/
def PendingTxn.gate (txn : PendingTxn) (now : ℕ) : PendingTxn :=
  { txn with awaitingResume := true, declaredMs := some now }

/-- Lift the reconnect gate. -/
def PendingTxn.ungate (txn : PendingTxn) (now : ℕ) : PendingTxn :=
  { txn with awaitingResume := false, declaredMs := none, lastProgressMs := now }

/-- Whether the declaration of a gated copy has stayed unanswered. -/
def PendingTxn.timedOut (txn : PendingTxn) (now timeoutMs : ℕ) : Bool :=
  txn.awaitingResume &&
    match txn.declaredMs with
    | none => false
    | some declared => !decide (now - declared < timeoutMs)

namespace TransactionSender

variable (s : TransactionSender)

/-- Declare every pending send and arm the reconnect gate on each. -/
def declarePending (now : ℕ) : List AckEntry × TransactionSender :=
  (s.pending.toList.map fun e => e.2.declaration e.1,
    s.withPending (s.pending.mapValues fun _ txn => txn.gate now))

/-- Declare again only the transactions whose declaration has stayed
unanswered past the timeout, re-anchoring their clocks. -/
def timedOutDeclarations (now timeoutMs : ℕ) : List AckEntry × TransactionSender :=
  ((s.pending.toList.filter fun e => e.2.timedOut now timeoutMs).map fun e => e.2.declaration e.1,
    s.withPending (s.pending.mapValues fun _ txn =>
      if txn.timedOut now timeoutMs then { txn with declaredMs := some now } else txn))

/-- Apply one verdict. `resumed` lifts the gate and sends every unconfirmed
frame again, unless paused; `unknown` and `rejected` release the copy, and
the holder adjudicates it from its own knowledge. -/
def applyVerdict (entry : ResumeStatusEntry) (now : ℕ) (out : ResumeVerdicts) :
    ResumeVerdicts × TransactionSender :=
  match s.pending.get? entry.transactionId with
  | none => (out, s)
  | some txn =>
    match entry.status with
    | .resumed =>
      if txn.paused then
        (out, s.withPending (s.pending.insert entry.transactionId (txn.ungate now)))
      else
        let (txn', frames) := (txn.ungate now).resend (fun state => !state.confirmed) now
        ({ out with retransmit := out.retransmit ++ frames },
          s.withPending (s.pending.insert entry.transactionId txn'))
    | .unknown | .rejected =>
      let s' := s.withPending (s.pending.erase entry.transactionId)
      if txn.isFullySent then
        ({ out with confirmed := out.confirmed ++ [entry.transactionId] }, s')
      else ({ out with failed := out.failed ++ [entry.transactionId] }, s')

/-- Apply the verdicts in order. -/
def applyVerdictsFrom (now : ℕ) :
    List ResumeStatusEntry → ResumeVerdicts → TransactionSender → ResumeVerdicts × TransactionSender
  | [], out, s => (out, s)
  | entry :: rest, out, s =>
    let (out', s') := s.applyVerdict entry now out
    applyVerdictsFrom now rest out' s'

/-- Apply the receiver's per-transaction resume verdicts. -/
def applyResumeVerdicts (entries : List ResumeStatusEntry) (now : ℕ) :
    ResumeVerdicts × TransactionSender :=
  applyVerdictsFrom now entries ⟨[], [], []⟩ s

end TransactionSender

end Reliability

end Xacpp
