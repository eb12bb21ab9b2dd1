import Xacpp.Common.Run
import Xacpp.Common.Table
import Xacpp.Transfer.Model.State
/-!
# The ordered egress

The single exit for the frames of a connection: the calls that queue them
and the drain task that owns the write half. `send_acked`, `send_faf`,
`send_control` and `close` are cut between their atomic operations, since
the runtime has several threads; the drain is cut at its suspension points
and between the two polls of its `select!`, and `write_frame` is cut at
every write, since the writer takes what it can.

The flags are the transport's, which stores to them as it likes. The
pending table the drain clears when a write fails belongs to the requests
(`Carrier.Requests`, which has this queue without its bytes).

The last five fields are history.
-/

namespace Xacpp

open Transfer (Channel)

namespace Egress

/-- The calls that queue a frame. -/
inductive Entry
  | sendAcked
  | sendFaf
  | sendControl
deriving DecidableEq

def Entry.channel : Entry → Channel
  | .sendAcked | .sendFaf => .data
  | .sendControl => .control

inductive SendError
  | notConnected
  | closed
deriving DecidableEq

inductive SendPc
  /-- The load of `connected`. -/
  | check
  | enqueue
  | awaitWrite
  | returned (result : Except SendError Unit)
deriving DecidableEq

inductive ClosePc
  | store
  | enqueue
  | markClosed
  | returned
deriving DecidableEq

inductive Call
  | send (entry : Entry) (frame : Bytes) (pc : SendPc)
  | close (pc : ClosePc)
deriving DecidableEq

/-- A queued frame. On the acked path it carries the write receipt of its
call; on the others the call is history. -/
structure Submission where
  call : ℕ
  entry : Entry
  frame : Bytes
deriving DecidableEq

/-- The call that holds the other end of the receipt. -/
def Submission.writeAck (sub : Submission) : Option ℕ :=
  match sub.entry with
  | .sendAcked => some sub.call
  | .sendFaf | .sendControl => none

/-- The part of a history on one channel. -/
def on (channel : Channel) (subs : List Submission) : List Submission :=
  subs.filter fun sub => sub.entry.channel = channel

/-- A queued outbound item. -/
inductive EgressItem
  | frame (sub : Submission)
  | close
deriving DecidableEq

def EgressItem.frame? : EgressItem → Option Submission
  | .frame sub => some sub
  | .close => none

/-- The drain task. -/
inductive DrainPc
  /-- The top of the loop: the control channel is polled. -/
  | pollControl
  /-- The control channel had nothing: the data channel is polled. -/
  | pollData
  /-- In `write_frame`, with what is left of the frame. -/
  | writing (sub : Submission) (rest : Bytes)
  /-- A write has failed: `connected` is to be stored. -/
  | failed (channel : Channel)
  | markClosed (channel : Channel)
  /-- The pending table is to be cleared. -/
  | clearing (channel : Channel)
  /-- The receipts still queued are failed one by one. -/
  | failing
  /-- The loop has ended and the writer shuts down. -/
  | shutdown
  /-- The task has ended; both receivers are gone with what was queued. -/
  | gone
deriving DecidableEq

/-- The drain still takes frames from its channels. -/
def DrainPc.live : DrainPc → Bool
  | .pollControl | .pollData | .writing .. => true
  | _ => false

end Egress

open Egress

structure Egress where
  connected : Bool
  /-- The value of the close watch. -/
  closed : Bool
  /-- Some handle is left. -/
  handles : Bool
  control : List Submission
  controlOpen : Bool
  data : List EgressItem
  drain : DrainPc
  calls : Table ℕ Call
  /-- The write results given to the calls. -/
  writeAcks : Table ℕ Bool
  /-- What was queued, in order. -/
  submitted : List Submission
  /-- What the drain has taken, in order. -/
  taken : List Submission
  /-- The bytes the writer has taken. -/
  wire : Bytes
  /-- What was queued before the first `Close`. -/
  beforeClose : Option (List Submission)
  /-- A write has failed. -/
  broken : Bool

namespace Egress

/-- The state `spawn_egress` leaves. -/
def new (connected : Bool) : Egress where
  connected := connected
  closed := false
  handles := true
  control := []
  controlOpen := true
  data := []
  drain := .pollControl
  calls := ∅
  writeAcks := ∅
  submitted := []
  taken := []
  wire := []
  beforeClose := none
  broken := false

variable (s : Egress)

def setCall (k : ℕ) (call : Call) : Egress := { s with calls := s.calls.insert k call }

/-- The frame goes to its channel. -/
def push (sub : Submission) : Egress :=
  { s with
    control := s.control ++ on .control [sub]
    data := s.data ++ (on .data [sub]).map .frame
    submitted := s.submitted ++ [sub] }

def pushClose : Egress :=
  { s with
    data := s.data ++ [.close]
    beforeClose := some (s.beforeClose.getD s.submitted) }

/-- The receipt, if there is one, is answered. -/
def ack (ok : Bool) (receipt : Option ℕ) : Egress :=
  { s with writeAcks := receipt.elim s.writeAcks fun k => s.writeAcks.insert k ok }

/-! ## The calls -/

/-- One stretch of `send_acked`, `send_faf` or `send_control`. -/
def advanceSend (k : ℕ) (entry : Entry) (frame : Bytes) : SendPc → Option Egress
  | .check =>
    if s.connected then some (s.setCall k (.send entry frame .enqueue))
    else some (s.setCall k (.send entry frame (.returned (.error .notConnected))))
  | .enqueue =>
    if s.drain = .gone then some (s.setCall k (.send entry frame (.returned (.error .closed))))
    else
      match entry with
      | .sendAcked =>
        some ((s.push ⟨k, entry, frame⟩).setCall k (.send entry frame .awaitWrite))
      | .sendFaf | .sendControl =>
        some ((s.push ⟨k, entry, frame⟩).setCall k (.send entry frame (.returned (.ok ()))))
  | .awaitWrite =>
    match s.writeAcks.get? k with
    | some true => some (s.setCall k (.send entry frame (.returned (.ok ()))))
    | some false => some (s.setCall k (.send entry frame (.returned (.error .closed))))
    | none =>
      -- the receipt goes with the queue
      if s.drain = .gone then some (s.setCall k (.send entry frame (.returned (.error .closed))))
      else none
  | .returned _ => none

/-- One stretch of `close`. -/
def advanceClose (k : ℕ) : ClosePc → Option Egress
  | .store => some ({ s with connected := false }.setCall k (.close .enqueue))
  | .enqueue =>
    if s.drain = .gone then some (s.setCall k (.close .markClosed))
    else some (s.pushClose.setCall k (.close .markClosed))
  | .markClosed => some ({ s with closed := true }.setCall k (.close .returned))
  | .returned => none

def advance (k : ℕ) : Call → Option Egress
  | .send entry frame pc => s.advanceSend k entry frame pc
  | .close pc => s.advanceClose k pc

/-! ## The drain -/

/-- The drain goes on with a frame. -/
def take (sub : Submission) : Egress :=
  { s with drain := .writing sub sub.frame, taken := s.taken ++ [sub] }

/-- One stretch of the drain outside `write_frame`. -/
def advanceDrain : Option Egress :=
  match s.drain with
  | .pollControl =>
    if s.controlOpen then
      match s.control with
      | sub :: rest => some ({ s with control := rest }.take sub)
      | [] =>
        if s.handles then some { s with drain := .pollData }
        else some { s with controlOpen := false }
    else some { s with drain := .pollData }
  | .pollData =>
    match s.data with
    | .frame sub :: rest => some ({ s with data := rest }.take sub)
    | .close :: rest => some { s with data := rest, drain := .shutdown }
    | [] => if s.handles then some { s with drain := .pollControl }
      else some { s with drain := .shutdown }
  | .writing .. => none
  | .failed channel => some { s with connected := false, drain := .markClosed channel }
  | .markClosed channel => some { s with closed := true, drain := .clearing channel }
  | .clearing .control => some { s with drain := .shutdown }
  | .clearing .data => some { s with drain := .failing }
  | .failing =>
    match s.data with
    | .frame sub :: rest => some ({ s with data := rest }.ack false sub.writeAck)
    | .close :: rest => some { s with data := rest }
    | [] => some { s with drain := .shutdown }
  | .shutdown => some { s with drain := .gone, control := [], data := [] }
  | .gone => none

/-- The writer takes `n` bytes of the frame. -/
def write (n : ℕ) : Option Egress :=
  match s.drain with
  | .writing sub rest =>
    if 0 < n ∧ n ≤ rest.length then
      some { s with drain := .writing sub (rest.drop n), wire := s.wire ++ rest.take n }
    else none
  | _ => none

/-- The frame is flushed: its receipt is answered and the loop goes on. -/
def flush : Option Egress :=
  match s.drain with
  | .writing sub [] => some ({ s with drain := .pollControl }.ack true sub.writeAck)
  | _ => none

/-- The write or the flush fails. -/
def fail : Option Egress :=
  match s.drain with
  | .writing sub _ =>
    some ({ s with drain := .failed sub.entry.channel, broken := true }.ack false sub.writeAck)
  | _ => none

/-! ## The transition system -/

inductive Action
  /-- A caller starts a call, as call `k`. -/
  | send (k : ℕ) (entry : Entry) (frame : Bytes)
  | close (k : ℕ)
  | advance (k : ℕ)
  | drain
  | write (n : ℕ)
  | flush
  | fail
  /-- The last handle is dropped, and with it the calls in progress. -/
  | dropHandles
  /-- The transport stores its flags. -/
  | store (connected closed : Bool)
deriving DecidableEq

/-- A call has a number of its own, and a handle. -/
def start (k : ℕ) (call : Call) : Option Egress :=
  if s.handles ∧ s.calls.contains k = false then some (s.setCall k call) else none

def step (s : Egress) : Action → Option Egress
  | .send k entry frame => s.start k (.send entry frame .check)
  | .close k => s.start k (.close .store)
  -- a call in progress borrows a handle
  | .advance k => if s.handles then (s.calls.get? k).bind (s.advance k) else none
  | .drain => s.advanceDrain
  | .write n => s.write n
  | .flush => s.flush
  | .fail => s.fail
  | .dropHandles => some { s with handles := false }
  | .store connected closed => some { s with connected := connected, closed := closed }

/-- What is queued on a channel. -/
def queued : Channel → List Submission
  | .control => s.control
  | .data => s.data.filterMap EgressItem.frame?

end Egress

end Xacpp
