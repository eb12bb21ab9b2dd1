import Xacpp.Reliability.Model.Holder
import Xacpp.Reliability.Slots
/-!
# One transaction over a lossy network

A sender and a reassembler joined by two bags: the data frames written so
far and the ACK entries exported so far. A delivery picks any member of a
bag and leaves it there, so that the network drops, duplicates and
reorders as it likes. One transaction is followed; the sender and the
reassembler also serve others, whose operations are arbitrary.

The last three fields are history, kept for the statements: the bytes
appended, the payloads they were framed into, and what the receiver handed
out.
-/

namespace Xacpp

namespace Reliability

/-- The joint state. -/
structure Exchange where
  sender : TransactionSender
  receiver : TransactionReassembler
  /-- Data frames written so far. -/
  data : List Frame
  /-- ACK entries exported so far. -/
  acks : List AckEntry
  /-- Bytes appended to the transaction. -/
  appended : Bytes
  /-- Payloads of the transaction's frames. -/
  framed : List Bytes
  /-- Payloads handed out by `take_completed`. -/
  handedOut : List Bytes

/-- What the receiver does for other transactions. -/
inductive ReceiverOp
  | receiveFrame (f : Frame) (emit : Bool)
  | takeCompleted (id : TxId)
  | discard (id : TxId)

namespace ReceiverOp

def target : ReceiverOp → TxId
  | receiveFrame f _ => f.transactionId
  | takeCompleted id | discard id => id

def apply (op : ReceiverOp) (r : TransactionReassembler) : TransactionReassembler :=
  match op with
  | receiveFrame f emit => (r.receive f emit).2
  | takeCompleted id => (r.takeCompleted id).2
  | discard id => (r.discard id).2

end ReceiverOp

namespace Exchange

/-- A transaction just opened at the sender. -/
def start (sender : TransactionSender) (receiver : TransactionReassembler) : Exchange where
  sender := sender
  receiver := receiver
  data := []
  acks := []
  appended := []
  framed := []
  handedOut := []

inductive Action
  | appendChunk (chunk : Bytes) (now : ℕ)
  | finishTransaction (now : ℕ)
  | setPaused (paused : Bool) (now : ℕ)
  | dueRetransmissions (now : ℕ)
  | handleNack (missingSeqs : List UInt32) (now : ℕ)
  /-- Deliver an ACK entry of the bag. -/
  | handleAck (entry : AckEntry) (now : ℕ)
  /-- Deliver a frame of the bag. -/
  | receiveFrame (f : Frame) (emit : Bool)
  /-- Export the transaction's progress. -/
  | ackEntry
  | takeCompleted
  /-- A call that does not touch the transaction. -/
  | otherSender (c : SenderCall) (now : ℕ)
  | otherReceiver (op : ReceiverOp)

/-- Record the payloads framed since the last look at the copy. -/
def recut (txid : TxId) (x : Exchange) : Exchange :=
  match x.sender.pending.get? txid with
  | none => x
  | some txn =>
    { x with
      framed := x.framed ++ (txn.frames.drop x.framed.length).reduceOption.map Frame.payload }

/-- The system, following `txid`. -/
def step (txid : TxId) (x : Exchange) : Action → Option Exchange
  | .appendChunk chunk now =>
    match x.sender.appendChunk txid chunk now with
    | (.ok out, s) =>
      some (recut txid { x with
        sender := s, data := x.data ++ out, appended := x.appended ++ chunk })
    | (.error _, s) => some { x with sender := s }
  | .finishTransaction now =>
    let (res, s) := x.sender.finishTransaction txid now
    some (recut txid { x with sender := s, data := x.data ++ framesOf res })
  | .setPaused paused now => some { x with sender := (x.sender.setPaused txid paused now).2 }
  | .dueRetransmissions now =>
    let (out, s) := x.sender.dueRetransmissions now
    some { x with sender := s, data := x.data ++ out }
  | .handleNack missingSeqs now =>
    let (out, s) := x.sender.handleNack txid missingSeqs now
    some { x with sender := s, data := x.data ++ out }
  | .handleAck entry now =>
    if entry ∈ x.acks then some { x with sender := (x.sender.handleAck entry now).2 } else none
  | .receiveFrame f emit =>
    if f ∈ x.data then some { x with receiver := (x.receiver.receive f emit).2 } else none
  | .ackEntry =>
    (x.receiver.ackEntry txid).map fun entry => { x with acks := x.acks ++ [entry] }
  | .takeCompleted =>
    match x.receiver.takeCompleted txid with
    | (some payload, r) => some { x with receiver := r, handedOut := x.handedOut ++ [payload] }
    | (none, r) => some { x with receiver := r }
  | .otherSender c now =>
    if c.Touches txid then none
    else
      let (out, s) := c.apply x.sender now
      some { x with sender := s, data := x.data ++ out }
  | .otherReceiver op =>
    if op.target = txid then none else some { x with receiver := op.apply x.receiver }

end Exchange

end Reliability

end Xacpp
