import Mathlib.Data.Finset.Basic
import Xacpp.Reliability.Model.Reassembler
import Xacpp.Reliability.Model.Sender
import Xacpp.Reliability.Model.Stream
/-!
# Session state

What the session keeps behind its state lock, and the write surface a
locked section has. A transport write may fail, so a section is given the
outcomes of the writes it will make (`Port.outcomes`; past the end of the
list writes succeed) and leaves the record of the attempts.

Stream objects live in `objects` and the stream table holds their indices,
because the consumer keeps its handle after the table entry is gone.
A completion callback is named by the task whose call passed it; what it
does is the caller's business.
-/

namespace Xacpp

namespace Transfer

open Reliability

/-- Tunables of the transfer integration. -/
structure TransferConfig where
  sender : SenderConfig := {}
  heartbeatIntervalMs : ℕ := 30000
  silentTimeoutMs : ℕ := 90000
  ackBatchFrames : ℕ := 64
  ackBatchIntervalMs : ℕ := 500
  nackFeedbackIntervalMs : ℕ := 500
  resumeVerdictTimeoutMs : ℕ := 2000
deriving DecidableEq, Repr

/-- Terminal outcome of a send, handed to its completion callback. -/
structure BinarySendResult where
  transactionId : TxId
  confirmed : Bool
deriving DecidableEq

/-- A registered completion callback. -/
inductive Callback
  /-- The callback passed to the `send_binary` call a task runs. -/
  | user (task : ℕ)
  /-- The oneshot a `sink_finish` task waits on. -/
  | finish (task : ℕ)
deriving DecidableEq, Repr

/-- How a held copy came to be released. -/
inductive Settlement
  /-- `handle_ack` returned true. -/
  | acked
  /-- A verdict adjudicated it confirmed. -/
  | confirmed
  /-- A verdict adjudicated it failed. -/
  | failed
  | aborted
deriving DecidableEq, Repr

/-- Mutable session state: components plus clock bookkeeping. -/
structure SessionState where
  sender : TransactionSender
  reassembler : TransactionReassembler
  completions : Table TxId Callback
  /-- Receive-side streaming transactions, by stream object. -/
  streams : Table TxId ℕ
  /-- Transactions that belong to the stream surface. -/
  streamOwned : Finset TxId
  /-- Newly received frames per transaction since the last ACK export. -/
  pendingAckFrames : Table TxId ℕ
  lastAckMs : ℕ
  lastNackMs : ℕ
  heartbeatSeq : UInt32
  lastHeartbeatMs : ℕ
  lastPeerActivityMs : ℕ
  /-- Every stream object built so far. -/
  objects : List StreamInner

namespace SessionState

/-- The state of a new session. -/
def new (config : TransferConfig) (now : ℕ) : SessionState where
  sender := .new config.sender
  reassembler := .new
  completions := ∅
  streams := ∅
  streamOwned := ∅
  pendingAckFrames := ∅
  lastAckMs := now
  lastNackMs := now
  heartbeatSeq := 0
  lastHeartbeatMs := now
  lastPeerActivityMs := now
  objects := []

variable (st : SessionState)

def withSender (sender : TransactionSender) : SessionState := { st with sender := sender }

def withReassembler (reassembler : TransactionReassembler) : SessionState :=
  { st with reassembler := reassembler }

def withCompletions (completions : Table TxId Callback) : SessionState :=
  { st with completions := completions }

def withPendingAckFrames (frames : Table TxId ℕ) : SessionState :=
  { st with pendingAckFrames := frames }

/-- The peer was heard from. -/
def touch (now : ℕ) : SessionState := { st with lastPeerActivityMs := now }

/-- Take a transaction out of the stream surface. -/
def disown (txid : TxId) : SessionState := { st with streamOwned := st.streamOwned.erase txid }

/-- Take the transaction's stream out of the table, if it has one, and store
its terminal state. -/
def endStream (txid : TxId) (terminal : StreamInner → StreamInner) : SessionState :=
  match st.streams.get? txid with
  | none => st
  | some object =>
    { st with
      streams := st.streams.erase txid
      objects := st.objects.modify object terminal }

/-- Update the transaction's stream object, if it has one. -/
def onStream (txid : TxId) (update : StreamInner → StreamInner) : SessionState :=
  match st.streams.get? txid with
  | none => st
  | some object => { st with objects := st.objects.modify object update }

/-- Update every stream object of the table. -/
def onStreams (update : StreamInner → StreamInner) : SessionState :=
  { st with
    objects := st.streams.values.foldl (fun objects object => objects.modify object update)
      st.objects }

/-- The disconnect path: every non-terminal stream is marked stalled. -/
def stallStreams : SessionState := st.onStreams StreamInner.setStalled

/-- Forget a receive transaction: slot, stream and stream ownership. -/
def dropReceive (txid : TxId) (terminal : StreamInner → StreamInner) : SessionState :=
  let st := (st.endStream txid terminal).disown txid
  st.withReassembler (st.reassembler.discard txid).2

end SessionState

/-! ## The write surface -/

/-- The two egress channels: plain FIFO, and the one drained first. -/
inductive Channel
  | control
  | data
deriving DecidableEq, Repr

/-- One attempted transport write. -/
structure Write where
  channel : Channel
  frame : Frame
  ok : Bool
deriving DecidableEq

/-- The write surface of a section. -/
structure Port where
  /-- Outcomes of the writes to come. -/
  outcomes : List Bool
  /-- Attempts made so far, in order. -/
  writes : List Write

namespace Port

def new (outcomes : List Bool) : Port := ⟨outcomes, []⟩

/-- Write one frame. -/
def write (port : Port) (channel : Channel) (frame : Frame) : Bool × Port :=
  let ok := port.outcomes.headD true
  (ok, ⟨port.outcomes.tail, port.writes ++ [⟨channel, frame, ok⟩]⟩)

/-- Write data frames in order, stopping at the first failure; `true` where
all went out. -/
def writeAll (port : Port) : List Frame → Bool × Port
  | [] => (true, port)
  | frame :: rest =>
    match port.write .data frame with
    | (true, port) => port.writeAll rest
    | (false, port) => (false, port)

end Port

end Transfer

end Xacpp
