import Xacpp.Common.Run
import Xacpp.Reliability.Operations
/-!
# The sender under any calls

Every call that may change a sender, with whatever arguments the caller or
the peer chooses. The instant of a call is part of the action.

`Holder` follows the sender with a history: the frames each pending
transaction has had since it was opened, the released ones among them.
`Timed` follows it with another: every start of a frame's retransmission
clock, read off what the calls are asked for and what they return.
-/

namespace Xacpp

namespace Reliability

/-- A call on the sender. -/
inductive SenderCall
  | openTransaction (id : TxId) (totalLen : UInt32)
  | appendChunk (id : TxId) (chunk : Bytes)
  | finishTransaction (id : TxId)
  | beginTransaction (id : TxId) (payload : Bytes)
  | setPaused (id : TxId) (paused : Bool)
  | abortTransaction (id : TxId)
  | handleAck (entry : AckEntry)
  | handleNack (id : TxId) (missingSeqs : List UInt32)
  | dueRetransmissions
  | declarePending
  | timedOutDeclarations (timeoutMs : ℕ)
  | applyResumeVerdicts (entries : List ResumeStatusEntry)
deriving DecidableEq

namespace SenderCall

/-- Make a call: the frames it returns, and the sender it leaves. -/
def apply (c : SenderCall) (s : TransactionSender) (now : ℕ) : List Frame × TransactionSender :=
  match c with
  | openTransaction id totalLen => ([], (s.openTransaction id totalLen now).2)
  | appendChunk id chunk =>
    (framesOf (s.appendChunk id chunk now).1, (s.appendChunk id chunk now).2)
  | finishTransaction id =>
    (framesOf (s.finishTransaction id now).1, (s.finishTransaction id now).2)
  | beginTransaction id payload =>
    (framesOf (s.beginTransaction id payload now).1, (s.beginTransaction id payload now).2)
  | setPaused id paused => ([], (s.setPaused id paused now).2)
  | abortTransaction id => ([], (s.abortTransaction id).2)
  | handleAck entry => ([], (s.handleAck entry now).2)
  | handleNack id missingSeqs => s.handleNack id missingSeqs now
  | dueRetransmissions => s.dueRetransmissions now
  | declarePending => ([], (s.declarePending now).2)
  | timedOutDeclarations timeoutMs => ([], (s.timedOutDeclarations now timeoutMs).2)
  | applyResumeVerdicts entries =>
    ((s.applyResumeVerdicts entries now).1.retransmit, (s.applyResumeVerdicts entries now).2)

/-- The call names the transaction, or concerns every one. -/
def Touches (id : TxId) : SenderCall → Prop
  | openTransaction id' _ | appendChunk id' _ | finishTransaction id' | beginTransaction id' _
  | setPaused id' _ | abortTransaction id' | handleNack id' _ => id' = id
  | handleAck entry => entry.transactionId = id
  | applyResumeVerdicts entries => ∃ entry ∈ entries, entry.transactionId = id
  | dueRetransmissions | declarePending | timedOutDeclarations _ => True

instance (id : TxId) : DecidablePred (Touches id)
  | openTransaction id' _ | appendChunk id' _ | finishTransaction id' | beginTransaction id' _
  | setPaused id' _ | abortTransaction id' | handleNack id' _ =>
    inferInstanceAs (Decidable (id' = id))
  | handleAck entry => inferInstanceAs (Decidable (entry.transactionId = id))
  | applyResumeVerdicts entries =>
    inferInstanceAs (Decidable (∃ entry ∈ entries, entry.transactionId = id))
  | dueRetransmissions | declarePending | timedOutDeclarations _ => isTrue trivial

/-- The call may send again what was sent before. -/
def Retransmits : SenderCall → Prop
  | handleNack .. | dueRetransmissions | applyResumeVerdicts _ => True
  | openTransaction .. | appendChunk .. | finishTransaction _ | beginTransaction .. | setPaused ..
  | abortTransaction _ | handleAck _ | declarePending | timedOutDeclarations _ => False

/-- The call may open the transaction. -/
def Opens (id : TxId) : SenderCall → Prop
  | openTransaction id' _ | beginTransaction id' _ => id' = id
  | appendChunk .. | finishTransaction _ | setPaused .. | abortTransaction _ | handleAck _
  | handleNack .. | dueRetransmissions | declarePending | timedOutDeclarations _
  | applyResumeVerdicts _ => False

/-- The call brings the transaction a `resumed` verdict. -/
def Resumes (id : TxId) : SenderCall → Prop
  | applyResumeVerdicts entries => ⟨id, .resumed⟩ ∈ entries
  | openTransaction .. | appendChunk .. | finishTransaction _ | beginTransaction .. | setPaused ..
  | abortTransaction _ | handleAck _ | handleNack .. | dueRetransmissions | declarePending
  | timedOutDeclarations _ => False

end SenderCall

namespace TransactionSender

/-- Every call is enabled. -/
def step (s : TransactionSender) (a : SenderCall × ℕ) : Option TransactionSender :=
  some (a.1.apply s a.2).2

end TransactionSender

/-- The frames a copy has had, from those it had before a call: the call
pushed what lies beyond them. -/
def PendingTxn.history (txn : PendingTxn) (before : List Frame) : List Frame :=
  before ++ (txn.frames.drop before.length).reduceOption

/-- A sender, and the frames its pending transactions have had. -/
structure Holder where
  sender : TransactionSender
  created : Table TxId (List Frame)

namespace Holder

def new (config : SenderConfig) : Holder := ⟨.new config, ∅⟩

/-- One call. What is no longer pending is forgotten. -/
def step (h : Holder) (a : SenderCall × ℕ) : Option Holder :=
  let sender := (a.1.apply h.sender a.2).2
  some ⟨sender, sender.pending.mapValues fun id txn =>
    txn.history ((h.created.get? id).getD [])⟩

end Holder

/-! ## Clocks -/

/-- Why the clock of a frame was started. -/
inductive Restart
  | sent
  | timedOut
  | nacked
  /-- Sent again by a `resumed` verdict. -/
  | resumed
  | unpaused
deriving DecidableEq, Repr

/-- The backoff counts the resends of the clock and of verdicts. -/
def Restart.backsOff : Restart → Bool
  | timedOut | resumed => true
  | sent | nacked | unpaused => false

/-- One start of the clock of frame `seq` of a transaction. -/
structure ClockEvent where
  id : TxId
  seq : ℕ
  cause : Restart
  ms : ℕ
deriving DecidableEq

/-- A frame that a call has returned. -/
def ClockEvent.ofFrame (cause : Restart) (ms : ℕ) (f : Frame) : ClockEvent :=
  ⟨f.transactionId, f.seq.toNat, cause, ms⟩

/-- How many frames the pending transaction has been cut into. -/
def TransactionSender.cutInto (s : TransactionSender) (id : TxId) : ℕ :=
  ((s.pending.get? id).map fun txn => txn.frames.length).getD 0

/-- The clocks a call starts. A frame counts as sent when it is cut: a
`finish` that fails has cut the tail all the same, and does not return it. -/
def SenderCall.clockEvents (c : SenderCall) (s : TransactionSender) (now : ℕ) :
    List ClockEvent :=
  match c with
  | appendChunk id _ | finishTransaction id | beginTransaction id _ =>
    (List.range' (s.cutInto id) ((c.apply s now).2.cutInto id - s.cutInto id)).map fun seq =>
      ⟨id, seq, .sent, now⟩
  | setPaused id false => (List.range (s.cutInto id)).map fun seq => ⟨id, seq, .unpaused, now⟩
  | handleNack .. => (c.apply s now).1.map (.ofFrame .nacked now)
  | dueRetransmissions => (c.apply s now).1.map (.ofFrame .timedOut now)
  | applyResumeVerdicts _ => (c.apply s now).1.map (.ofFrame .resumed now)
  | openTransaction .. | setPaused _ true | abortTransaction _ | handleAck _ | declarePending
  | timedOutDeclarations _ => []

/-- A sender, and the clocks started for its pending transactions, the last
first. -/
structure Timed where
  sender : TransactionSender
  log : List ClockEvent

namespace Timed

def new (config : SenderConfig) : Timed := ⟨.new config, []⟩

/-- One call. What is no longer pending is forgotten. -/
def step (t : Timed) (a : SenderCall × ℕ) : Option Timed :=
  let sender := (a.1.apply t.sender a.2).2
  some ⟨sender, (a.1.clockEvents t.sender a.2 ++ t.log).filter fun e =>
    sender.containsTransaction e.id⟩

end Timed

/-- The events of one frame. -/
def eventsOf (log : List ClockEvent) (id : TxId) (seq : ℕ) : List ClockEvent :=
  log.filter fun e => decide (e.id = id ∧ e.seq = seq)

/-- When the clock of a frame was last started. -/
def lastStart (log : List ClockEvent) (id : TxId) (seq : ℕ) : Option ℕ :=
  (eventsOf log id seq).head?.map ClockEvent.ms

/-- How often the clock or a verdict has sent a frame again. -/
def resends (log : List ClockEvent) (id : TxId) (seq : ℕ) : ℕ :=
  (eventsOf log id seq).countP fun e => e.cause.backsOff

end Reliability

end Xacpp
