import Xacpp.Wire.Control
/-!
# Receive-side streams

A stream object is shared between the session's stream table and the
consumer; its state is a few atomic cells, written here as a record. The
table entry owns the channel the chunks go through, so that removing the
entry closes it. The transaction control frames are built here too: an id
is sixteen bytes, so their encoders never meet the payload cap.
-/

namespace Xacpp

namespace Reliability

/-- Stored lifecycle of a stream. -/
inductive StreamState
  | active
  | paused
  | complete
  | cancelled
  | stalled
  | incomplete
deriving DecidableEq, Repr

/-- Terminal states: no further chunks. -/
def StreamState.isTerminal : StreamState → Bool
  | complete | cancelled | incomplete => true
  | active | paused | stalled => false

/-- The shared object behind a `BinaryStream`. -/
structure StreamInner where
  txid : TxId
  totalLen : UInt32
  state : StreamState
  /-- Flow stall marker, orthogonal to the stored state. -/
  stalled : Bool
  /-- Chunks sent into the channel, in order. -/
  chunks : List (ℕ × Bytes)
  incompleteReceived : ℕ
  incompleteExpected : UInt32
deriving DecidableEq

namespace StreamInner

def new (txid : TxId) (totalLen : UInt32) : StreamInner where
  txid := txid
  totalLen := totalLen
  state := .active
  stalled := false
  chunks := []
  incompleteReceived := 0
  incompleteExpected := 0

variable (inner : StreamInner)

/-- Store a terminal state. -/
def finish (state : StreamState) : StreamInner := { inner with state := state }

/-- The sender declared completion with bytes missing. -/
def finishIncomplete (received : ℕ) (expected : UInt32) : StreamInner :=
  { inner with incompleteReceived := received, incompleteExpected := expected }.finish .incomplete

/-- Active → Paused; a terminal state is left alone. -/
def setPaused : StreamInner :=
  if inner.state = .active then { inner with state := .paused } else inner

/-- Paused → Active. -/
def clearPaused : StreamInner :=
  if inner.state = .paused then { inner with state := .active } else inner

/-- Mark the flow stalled, unless terminal. -/
def setStalled : StreamInner :=
  if inner.state.isTerminal then inner else { inner with stalled := true }

def clearStalled : StreamInner := { inner with stalled := false }

/-- Send chunks into the channel. -/
def send (chunks : List (ℕ × Bytes)) : StreamInner :=
  { inner with chunks := inner.chunks ++ chunks }

end StreamInner

/-- A transaction control frame; its payload is the bare id. -/
def transactionControlFrame (frameType : FrameType) (txid : TxId) : Frame :=
  controlFrame frameType txid.toList

/-- `TRANSACTION_PAUSE`. -/
def pauseFrame : TxId → Frame := transactionControlFrame .transactionPause

/-- `TRANSACTION_ABORT`. -/
def abortFrame : TxId → Frame := transactionControlFrame .transactionAbort

/-- `TRANSACTION_COMPLETED`. -/
def completedFrame : TxId → Frame := transactionControlFrame .transactionCompleted

end Reliability

end Xacpp
