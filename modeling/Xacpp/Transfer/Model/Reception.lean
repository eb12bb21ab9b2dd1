import Xacpp.Transfer.Model.Session
/-!
# Reception, at the grain of its suspension points

`Session` handles an inbound frame in one step and drains in another. The
code reads the two handler slots before it takes the state lock, and calls
the binary handler after it has released it; registrations, ticks and other
calls may come in between. Here the handling of a frame is a call with a
program counter and so is the deferred delivery of a clock; every other
action is the session's own.

A payload taken out of its slot is a `Parcel`, numbered in the order of the
takes, until the handler has been called with it.
-/

namespace Xacpp

namespace Transfer

open Reliability

/-- A payload on its way to the binary handler. -/
structure Parcel where
  ticket : ℕ
  txid : TxId
  payload : Bytes
deriving DecidableEq

/-- Number payloads from the next ticket on. -/
def Parcel.wrap : ℕ → List (TxId × Bytes) → List Parcel
  | _, [] => []
  | ticket, (txid, payload) :: rest => ⟨ticket, txid, payload⟩ :: wrap (ticket + 1) rest

/-- `handle_inbound`. -/
inductive InboundPc
  | readBinary
  | readStream (handlerPresent : Bool)
  /-- The locked section, with the flags read before it. -/
  | lock (handlerPresent streamPresent : Bool)
  /-- After the lock: one handler call after the other. -/
  | deliver (parcels : List Parcel)
  | returned
deriving DecidableEq

/-- The handling of one inbound frame. -/
structure InboundCall where
  conn : ℕ
  frame : Frame
  pc : InboundPc
deriving DecidableEq

/-- The deferred delivery of a clock, once the handler was seen. -/
inductive DrainPc
  | take
  | deliver (parcels : List Parcel)
deriving DecidableEq

/-- A session whose inbound handling is under way. -/
structure Reception where
  session : Session
  calls : Table ℕ InboundCall
  /-- By clock task. -/
  drains : Table ℕ DrainPc
  /-- The next ticket. -/
  tickets : ℕ
  /-- The calls of the binary handler, newest first. -/
  passed : List Parcel

namespace Reception

def new (config : TransferConfig) (now : ℕ) : Reception where
  session := .new config now
  calls := ∅
  drains := ∅
  tickets := 0
  passed := []

variable (r : Reception)

def withSession (session : Session) : Reception := { r with session := session }

/-- Where a call goes next. -/
def setCall (k : ℕ) (call : InboundCall) (pc : InboundPc) : Reception :=
  { r with calls := r.calls.insert k { call with pc := pc } }

/-- `TransferSession::deliver`: without a handler the payload is dropped. -/
def pass (parcel : Parcel) : Reception :=
  if r.session.binaryHandler then { r with passed := parcel :: r.passed } else r

/-- The locked section of a call, and the wake-up after it. -/
def locked (k : ℕ) (call : InboundCall) (handlerPresent streamPresent : Bool) (now : ℕ)
    (outcomes : List Bool) : Reception :=
  let h := handleInbound r.session.state call.frame handlerPresent streamPresent now outcomes
  let s := (r.session.record [.inbound call.conn call.frame]).absorb call.conn
    { h with delivered := [] }
  let s := if call.frame.frameType = .ack ∨ call.frame.frameType = .resumeResponse
    then s.wakeWriters else s
  { r.withSession s with tickets := r.tickets + h.delivered.length }.setCall k call
    (.deliver (Parcel.wrap r.tickets h.delivered))

/-- One stretch of `handle_inbound`. -/
def handle (k : ℕ) (call : InboundCall) (now : ℕ) (outcomes : List Bool) : Option Reception :=
  match call.pc with
  | .readBinary => some (r.setCall k call (.readStream r.session.binaryHandler))
  | .readStream handlerPresent =>
    some (r.setCall k call (.lock handlerPresent r.session.streamHandler))
  | .lock handlerPresent streamPresent =>
    some (r.locked k call handlerPresent streamPresent now outcomes)
  | .deliver [] => some (r.setCall k call .returned)
  | .deliver (parcel :: rest) => some ((r.pass parcel).setCall k call (.deliver rest))
  | .returned => none

/-- One stretch of the deferred delivery of clock task `k`. -/
def drain (k conn : ℕ) : Option DrainPc → Reception
  | none =>
    if r.session.binaryHandler then { r with drains := r.drains.insert k .take }
    else r.withSession (r.session.setTask k (.clock conn .idle))
  | some .take =>
    let (taken, state) := drainCompleted r.session.state true
    { r.withSession { r.session with state := state } with
      drains := r.drains.insert k (.deliver (Parcel.wrap r.tickets taken))
      tickets := r.tickets + taken.length }
  | some (.deliver []) =>
    { r.withSession (r.session.setTask k (.clock conn .idle)) with drains := r.drains.erase k }
  | some (.deliver (parcel :: rest)) =>
    { r.pass parcel with drains := r.drains.insert k (.deliver rest) }

inductive Action
  /-- An action of the session that is not split here. -/
  | session (a : Session.Action)
  /-- A frame arrives and call `k` begins to handle it. -/
  | arrive (k conn : ℕ) (frame : Frame)
  | handle (k : ℕ) (now : ℕ) (outcomes : List Bool)
  /-- Clock task `k` goes on with its deferred delivery. -/
  | drain (k : ℕ)
deriving DecidableEq

/-- The action is one of the two that are split. -/
def coarse : Session.Action → Bool
  | .inbound .. => true
  | .advance k _ _ =>
    match r.session.tasks.get? k with
    | some (.clock _ .drain) => true
    | _ => false
  | _ => false

def step (r : Reception) : Action → Option Reception
  | .session a => if r.coarse a then none else (r.session.step a).map r.withSession
  | .arrive k conn frame =>
    if conn ∈ r.session.hooked ∧ r.calls.contains k = false then
      some { r with calls := r.calls.insert k ⟨conn, frame, .readBinary⟩ }
    else none
  | .handle k now outcomes => (r.calls.get? k).bind fun call => r.handle k call now outcomes
  | .drain k =>
    match r.session.tasks.get? k with
    | some (.clock conn .drain) => some (r.drain k conn (r.drains.get? k))
    | _ => none

end Reception

end Transfer

end Xacpp
