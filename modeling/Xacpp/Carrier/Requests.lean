import Mathlib.Data.Finset.Basic
import Xacpp.Carrier.Stdio
/-!
# Requests over a transport

`send` and `send_faf` beside the tasks of the transport they are called on.
A call puts its slot into the pending table, reads the egress entry, queues
its frame on that connection and, for `send`, waits for the write and then
for the response. The two transports have the same text for both, and share
the egress queue with its drain.

A connection's queue is drained control frames first. A frame carries the
call that waits for its write, if one does; what it says is not modelled,
nor is the payload of a response. Which payloads parse as responses, and to
which request, is the parameter `parse`. Request ids are the texts `r1`,
`r2`, …, taken as their numbers, which wrap as the counter does.
-/

namespace Xacpp

namespace Carrier

inductive Transport
  | socket (t : SocketTransport)
  | stdio (t : StdioTransport)

/-- What both transports have. -/
def Transport.shared : Transport → SocketTransport
  | .socket t => t
  | .stdio t => t.shared

def Transport.step : Transport → SocketTransport.Action → Option Transport
  | .socket t, a => (t.step a).map .socket
  | .stdio t, a => (t.step a).map .stdio

inductive SendError
  | notConnected
  | closed
  /-- The envelope could not be serialized. -/
  | internal
deriving DecidableEq

inductive CallKind
  | send
  | sendFaf
deriving DecidableEq

inductive CallPc
  /-- The slot is put into the pending table. -/
  | insert
  | readEgress
  /-- In `Egress::send_acked` or `send_faf` of connection `n`: the load of
  `connected`. -/
  | check (n : ℕ)
  | enqueue (n : ℕ)
  | awaitWrite (n : ℕ)
  /-- The egress has failed: the slot is taken back. -/
  | remove (n : ℕ) (e : SendError)
  | awaitResponse (n : ℕ)
  | returned (result : Except SendError Unit)
deriving DecidableEq

/-- The call holds a handle to the queue of connection `n`. -/
def CallPc.holds (n : ℕ) : CallPc → Bool
  | .check m | .enqueue m | .awaitWrite m | .remove m _ | .awaitResponse m => decide (m = n)
  | .insert | .readEgress | .returned _ => false

structure Call where
  kind : CallKind
  id : UInt64
  pc : CallPc
deriving DecidableEq

/-- A pending slot. The sender of a oneshot is named by the call that waits
on the other end; for a fire-and-forget slot the call is history. -/
inductive PendingSlot
  | respond (call : ℕ)
  | drop (call : ℕ)
deriving DecidableEq

/-- The call whose slot it is. -/
def PendingSlot.call : PendingSlot → ℕ
  | .respond k | .drop k => k

/-- The slot a call puts into the table. -/
def CallKind.slot (k : ℕ) : CallKind → PendingSlot
  | .send => .respond k
  | .sendFaf => .drop k

/-- A queued outbound item. -/
inductive EgressItem
  | frame (writeAck : Option ℕ)
  | close
deriving DecidableEq

/-- How far the drain of a connection is with its queue. -/
inductive QueueStage
  | draining
  /-- A write has failed, of a data frame or of a control frame; the close
  watch is to be marked. -/
  | marking (data : Bool)
  /-- The pending table is to be cleared. -/
  | clearing (data : Bool)
  /-- What is still queued is to be failed. -/
  | failing
  /-- The loop has ended and the writer shuts down. -/
  | shutdown
  /-- The receiving half is gone, with what was queued. -/
  | gone
deriving DecidableEq

/-- The queue of a connection. -/
structure Queue where
  /-- Control frames queued. -/
  control : ℕ := 0
  items : List EgressItem := []
  stage : QueueStage := .draining
deriving DecidableEq

/-- A transport with its requests. -/
structure Requests where
  transport : Transport
  nextId : UInt64
  pending : Table UInt64 PendingSlot
  queues : Table ℕ Queue
  calls : Table ℕ Call
  /-- The write results given to the calls. -/
  writeAcks : Table ℕ Bool
  /-- The calls whose oneshot was given a response. -/
  responded : Finset ℕ

namespace Requests

/-- No call yet. -/
def new (transport : Transport) : Requests where
  transport := transport
  nextId := 1
  pending := ∅
  queues := ∅
  calls := ∅
  writeAcks := ∅
  responded := ∅

variable (r : Requests)

def setCall (k : ℕ) (call : Call) (pc : CallPc) : Requests :=
  { r with calls := r.calls.insert k { call with pc := pc } }

/-- The queue of connection `n`, empty until something is queued. -/
def queue (n : ℕ) : Queue := (r.queues.get? n).getD {}

def setQueue (n : ℕ) (queue : Queue) : Requests :=
  { r with queues := r.queues.insert n queue }

/-- Send on the queue of connection `n`. -/
def push (n : ℕ) (item : EgressItem) : Requests :=
  if (r.queue n).stage = .gone then r
  else r.setQueue n { r.queue n with items := (r.queue n).items ++ [item] }

def clearPending : Requests := { r with pending := ∅ }

/-- The call, if one waits, is given the result of the write. -/
def ack (ok : Bool) : Option ℕ → Requests
  | none => r
  | some k => { r with writeAcks := r.writeAcks.insert k ok }

/-- Every item still queued is failed. -/
def failItems (items : List EgressItem) : Requests :=
  items.foldl (fun r item => match item with
    | .frame writeAck => r.ack false writeAck
    | .close => r) r

/-- A response arrives for the request. -/
def respond (id : UInt64) : Requests :=
  match r.pending.get? id with
  | some (.respond k) =>
    { r with pending := r.pending.erase id, responded := insert k r.responded }
  | some (.drop _) => { r with pending := r.pending.erase id }
  | none => r

/-! ## The calls -/

/-- One stretch of `send` or `send_faf`. -/
def advanceCall (k : ℕ) (call : Call) : Option Requests :=
  match call.pc with
  | .insert =>
    some ({ r with pending := r.pending.insert call.id (call.kind.slot k) }.setCall k call
      .readEgress)
  | .readEgress =>
    match r.transport.shared.egress with
    | none => some (r.setCall k call (.returned (.error .notConnected)))
    | some n => some (r.setCall k call (.check n))
  | .check n =>
    if r.transport.shared.connected then some (r.setCall k call (.enqueue n))
    else some (r.setCall k call (.remove n .notConnected))
  | .enqueue n =>
    if (r.queue n).stage = .gone then some (r.setCall k call (.remove n .closed))
    else
      match call.kind with
      | .send => some ((r.push n (.frame (some k))).setCall k call (.awaitWrite n))
      | .sendFaf => some ((r.push n (.frame none)).setCall k call (.returned (.ok ())))
  | .awaitWrite n =>
    match r.writeAcks.get? k with
    | some true => some (r.setCall k call (.awaitResponse n))
    | some false => some (r.setCall k call (.remove n .closed))
    | none =>
      -- the receipt goes with the queue
      if (r.queue n).stage = .gone then some (r.setCall k call (.remove n .closed)) else none
  | .remove _ e =>
    some ({ r with pending := r.pending.erase call.id }.setCall k call (.returned (.error e)))
  | .awaitResponse _ =>
    if k ∈ r.responded then some (r.setCall k call (.returned (.ok ())))
    -- the sender is dropped with the slot
    else if r.pending.get? call.id = some (.respond k) then none
    else some (r.setCall k call (.returned (.error .closed)))
  | .returned _ => none

/-! ## The tasks of the transport -/

/-- What a stretch of `connect`, `disconnect` or one of the reading tasks
does to the requests, beside what it does to the transport. -/
def follow (parse : Bytes → Option UInt64) (t : SocketTransport) :
    SocketTransport.Action → Requests
  | .advance _ =>
    match t.op with
    | some (.disconnect .takeEgress) =>
      match t.egress with
      | none => r
      | some n => r.push n .close
    | some (.disconnect .clearPending) => r.clearPending
    | _ => r
  | .dispatch n =>
    match t.dispatches.get? n with
    | some ⟨some payload :: _, .running⟩ =>
      match parse payload with
      | none => r
      | some id => r.respond id
    | some ⟨_, .clearing⟩ => r.clearPending.push n .close
    | _ => r
  | .connect | .disconnect | .onTransferActivity _ | .read .. | .reader _ | .drain .. => r

/-- The drain's part in the transport. -/
def drainStep (n : ℕ) (ok : Bool) (queue : Queue) : Option Requests :=
  (r.transport.step (.drain n ok)).map fun t => { r with transport := t }.setQueue n queue

/-- One stretch of the drain of connection `n`; whether a write goes through
is part of the action. -/
def advanceDrain (n : ℕ) (ok : Bool) : Option Requests :=
  let queue := r.queue n
  match queue.stage with
  | .draining =>
    match queue.control, queue.items with
    | control + 1, _ =>
      if ok then some (r.setQueue n { queue with control := control })
      else r.drainStep n false { queue with control := control, stage := .marking false }
    | 0, .frame writeAck :: rest =>
      if ok then some ((r.ack true writeAck).setQueue n { queue with items := rest })
      else (r.ack false writeAck).drainStep n false
        { queue with items := rest, stage := .marking true }
    | 0, .close :: rest => r.drainStep n true { items := rest, stage := .shutdown }
    | 0, [] =>
      if r.calls.values.any fun call => call.pc.holds n then none
      else r.drainStep n true { stage := .shutdown }
  | .marking data => r.drainStep n ok { queue with stage := .clearing data }
  | .clearing data =>
    some (r.clearPending.setQueue n
      { queue with stage := if data then .failing else .shutdown })
  | .failing =>
    some ((r.failItems queue.items).setQueue n { queue with items := [], stage := .shutdown })
  | .shutdown => some (r.setQueue n { stage := .gone })
  | .gone => none

/-! ## The transition system -/

inductive Action
  /-- A caller starts a call, as call `k`; whether its envelope serializes is
  part of the action. -/
  | start (k : ℕ) (kind : CallKind) (serializes : Bool)
  | advance (k : ℕ)
  /-- A stretch of the transport, its drains apart. -/
  | transport (a : SocketTransport.Action)
  | drain (n : ℕ) (ok : Bool)
  /-- A response of a handler or a transfer frame is queued on connection
  `n`. -/
  | enqueue (n : ℕ) (control : Bool)
deriving DecidableEq

def step (parse : Bytes → Option UInt64) (r : Requests) : Action → Option Requests
  | .start k kind serializes =>
    if r.calls.contains k then none
    else
      let pc := if serializes then .insert else .returned (.error .internal)
      some { r with nextId := r.nextId + 1, calls := r.calls.insert k ⟨kind, r.nextId, pc⟩ }
  | .advance k => (r.calls.get? k).bind (r.advanceCall k)
  | .transport (.drain ..) => none
  | .transport a => (r.transport.step a).map fun t =>
    { r.follow parse r.transport.shared a with transport := t }
  | .drain n ok => r.advanceDrain n ok
  | .enqueue n control =>
    if r.transport.shared.published n = false ∨ (r.queue n).stage = .gone then none
    else if control then some (r.setQueue n { r.queue n with control := (r.queue n).control + 1 })
    else some (r.push n (.frame none))

end Requests

end Carrier

end Xacpp
