import Xacpp.Transfer.Model.Session
/-!
# What a step puts on a connection

The writes of one step that the transport accepted, read off the history,
and what a peer reads out of the control frames among them.
-/

namespace Xacpp

namespace Transfer

/-- The write an event records, where it succeeded on the connection. -/
def Event.sent? (c : ℕ) : Event → Option Write
  | .wrote conn write => if conn = c ∧ write.ok then some write else none
  | _ => none

/-- The declaration a frame carries; an empty one asks nothing. -/
def declaration? (frame : Frame) : Option (List AckEntry) :=
  if frame.frameType = .resume then
    (decodeResumeRequest frame.payload).toOption.filter fun entries => !entries.isEmpty
  else none

/-- The verdicts a frame carries. -/
def response? (frame : Frame) : Option (List ResumeStatusEntry) :=
  if frame.frameType = .resumeResponse then (decodeResumeResponse frame.payload).toOption
  else none

/-- The progress a frame acknowledges. -/
def acknowledged? (frame : Frame) : Option (List AckEntry) :=
  if frame.frameType = .ack then (decodeAckPayload frame.payload).toOption else none

/-- The frames of the control channel. -/
def controlFrames (writes : List Write) : List Frame :=
  (writes.filter fun write => write.channel = .control).map Write.frame

/-- The transactions the control frames among the writes declare. -/
def declaredIn (writes : List Write) : List TxId :=
  ((controlFrames writes).filterMap declaration?).flatten.map AckEntry.transactionId

/-- The entries the control frames among the writes acknowledge. -/
def acknowledgedIn (writes : List Write) : List AckEntry :=
  ((controlFrames writes).filterMap acknowledged?).flatten

namespace Session

variable (s : Session)

/-- What the step to `s'` wrote on the connection, in order. -/
def sentTo (c : ℕ) (s' : Session) : List Write :=
  (s'.log.take (s'.log.length - s.log.length)).reverse.filterMap (Event.sent? c)

/-- What the action writes on the connection, where it can be taken. -/
def sentBy (c : ℕ) (a : Action) : List Write :=
  match s.step a with
  | none => []
  | some s' => s.sentTo c s'

end Session

end Transfer

end Xacpp
