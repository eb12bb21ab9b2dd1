import Xacpp.Transfer.Model.Traffic
/-!
# Two sessions and the connection between them

A session that holds sends and the session that receives them, over one
connection at a time. Each direction has the egress of the side that writes
it: two channels, the control channel drained first, into one ordered
wire. `reconnect` replaces the connection; what was queued on the old one
is lost. The new one is a transport that no task of either side names
(`unused`): a peer that wires the transport object it had, while a task is
still at work on it, is left out. Either session runs any action of its own;
a frame it handles on the connection is the head of the peer's wire.

The last four fields are the history of the current connection.
-/

namespace Xacpp

open Reliability Transfer

namespace Transfer

/-- The task has read the connection, or was started with it. -/
def Task.names (c : ℕ) : Task → Bool
  | .sinkWrite _ _ (.append _ conn) | .sinkWrite _ _ (.flush conn _)
  | .sinkFinish _ (.aborting (.write conn)) | .sinkFinish _ (.flush conn _)
  | .sinkFinish _ (.announceWrite conn) | .sinkAbort _ (.write conn)
  | .sinkPause _ (.write conn) | .sendBinary _ _ _ conn _ | .wire conn _ _
  | .declarePendingSends (.snapshot conn) | .declarePendingSends (.write conn _)
  | .clock conn _ => decide (conn = c)
  | _ => false

/-- The declaration a task has taken for the connection and not written. -/
def Task.declaration? (c : ℕ) : Task → Option (List AckEntry)
  | .declarePendingSends (.write conn entries) => if conn = c then some entries else none
  | _ => none

/-- An open slot that is not complete. -/
def SessionState.awaits (st : SessionState) (txid : TxId) : Bool :=
  st.reassembler.containsTransaction txid && !st.reassembler.isComplete txid

namespace Session

variable (s : Session)

/-- The connection is new to the session. -/
def unused (c : ℕ) : Bool :=
  decide (s.wiring ≠ some c) && decide (c ∉ s.hooked) && decide (c ∉ s.closed) &&
    s.tasks.values.all fun t => !t.names c

/-- A `wire` call on the connection has returned. -/
def wiredUp (c : ℕ) : Bool :=
  s.tasks.values.any fun
    | .wire conn _ (.returned true) => decide (conn = c)
    | _ => false

/-- The transaction the action is to open. -/
def opens : Action → List TxId
  | .openBinarySink txid _ _ => [txid]
  | .advance k _ _ =>
    match s.tasks.get? k with
    | some (.sendBinary txid _ _ _ .lock) => [txid]
    | _ => []
  | _ => []

/-- The action arms the gate of whatever is pending: the wire-up does, and
the snapshot of `declare_pending_sends`. -/
def arms : Action → Bool
  | .advance k _ _ =>
    match s.tasks.get? k with
    | some (.wire _ _ .arm) | some (.declarePendingSends (.snapshot _)) => true
    | _ => false
  | _ => false

/-- The transaction the action is to open a slot for: frame 0 opens one. -/
def opensSlot : Action → List TxId
  | .inbound _ frame _ _ =>
    if frame.frameType = .dataBinary ∧ frame.seq = 0 ∧
        s.state.reassembler.containsTransaction frame.transactionId = false then
      [frame.transactionId]
    else []
  | _ => []

/-- The action takes the declaration of `declare_pending_sends`. -/
def snapshots (c : ℕ) : Action → Bool
  | .advance k _ _ => s.tasks.get? k == some (.declarePendingSends (.snapshot c))
  | _ => false

/-- What a tick at this time would declare again. -/
def redeclaration (now : ℕ) : List AckEntry :=
  ((s.state.sender.dueRetransmissions now).2.timedOutDeclarations now
    s.config.resumeVerdictTimeoutMs).1

/-- The transactions the step to `s'` opened. -/
def openedBy (a : Action) (s' : Session) : List TxId :=
  (s.opens a).filter fun txid =>
    !s.state.sender.containsTransaction txid && s'.state.sender.containsTransaction txid

end Session

end Transfer

namespace Link

/-- The egress of one side and what is on its way. -/
structure Pipe where
  control : List Frame
  data : List Frame
  wire : List Frame
deriving DecidableEq

namespace Pipe

def empty : Pipe := ⟨[], [], []⟩

variable (p : Pipe)

def queue (write : Write) : Pipe :=
  match write.channel with
  | .control => { p with control := p.control ++ [write.frame] }
  | .data => { p with data := p.data ++ [write.frame] }

/-- One turn of the drain task: the control channel has priority. -/
def pump : Option Pipe :=
  match p.control, p.data with
  | frame :: rest, _ => some { p with control := rest, wire := p.wire ++ [frame] }
  | [], frame :: rest => some { p with data := rest, wire := p.wire ++ [frame] }
  | [], [] => none

/-- What is left of the pipe when the other side runs an action: a frame it
handles on the connection is the head of the wire. -/
def handle (c : ℕ) : Session.Action → Option Pipe
  | .inbound conn frame _ _ =>
    if conn = c ∧ p.wire.head? = some frame then some { p with wire := p.wire.tail } else none
  | _ => some p

/-- Everything that is on its way. -/
def frames : List Frame := p.control ++ (p.data ++ p.wire)

end Pipe

end Link

/-- Two sessions and the connection between them. -/
structure Link where
  conn : ℕ
  holder : Session
  receiver : Session
  /-- From the holder to the receiver. -/
  outgoing : Link.Pipe
  incoming : Link.Pipe
  /-- Incomplete slots the receiver had when the connection began, and has
  kept since. -/
  carried : List TxId
  /-- The receiver's streams, with their objects, when the connection
  began. -/
  streams : List (TxId × ℕ)
  /-- Transactions the holder opened after its wire-up. -/
  opened : List TxId
  /-- The holder has taken a declaration. -/
  declared : Bool

namespace Link

inductive Action
  | holder (a : Session.Action)
  | receiver (a : Session.Action)
  | pumpOutgoing
  | pumpIncoming
  /-- The connection ends and another takes its place. -/
  | reconnect (conn : ℕ)

/-- Two new sessions. -/
def new (holder receiver : TransferConfig) (now : ℕ) : Link where
  conn := 0
  holder := .new holder now
  receiver := .new receiver now
  outgoing := .empty
  incoming := .empty
  carried := []
  streams := []
  opened := []
  declared := false

variable (l : Link)

/-- The declarations of the holder on their way. -/
def declarations : List (List AckEntry) :=
  l.holder.tasks.values.filterMap (Task.declaration? l.conn) ++
    l.outgoing.frames.filterMap declaration?

/-- The verdicts on their way. -/
def responses : List (List ResumeStatusEntry) := l.incoming.frames.filterMap response?

def step (l : Link) : Action → Option Link
  | .holder a => do
    let incoming ← l.incoming.handle l.conn a
    let s ← Session.step l.holder a
    return { l with
      holder := s
      incoming := incoming
      outgoing := (l.holder.sentTo l.conn s).foldl Pipe.queue l.outgoing
      opened := if l.holder.wiredUp l.conn then l.holder.openedBy a s ++ l.opened else l.opened
      declared := l.declared || l.holder.snapshots l.conn a }
  | .receiver a => do
    let outgoing ← l.outgoing.handle l.conn a
    let s ← Session.step l.receiver a
    return { l with
      receiver := s
      outgoing := outgoing
      incoming := (l.receiver.sentTo l.conn s).foldl Pipe.queue l.incoming
      carried := l.carried.filter s.state.awaits }
  | .pumpOutgoing => l.outgoing.pump.map fun p => { l with outgoing := p }
  | .pumpIncoming => l.incoming.pump.map fun p => { l with incoming := p }
  | .reconnect c =>
    if l.holder.unused c && l.receiver.unused c then
      some { l with
        conn := c
        outgoing := .empty
        incoming := .empty
        carried := l.receiver.state.reassembler.openTransactions.filter l.receiver.state.awaits
        streams := l.receiver.state.streams.toList
        opened := []
        declared := false }
    else none

/-! ### Runs of one side -/

/-- Both sides wire the connection; task `k` does, and `k + 1` is the clock. -/
def wired (k conn now : ℕ) : List Action :=
  (Session.wireUp k conn (k + 1) now).map .holder ++
    (Session.wireUp k conn (k + 1) now).map .receiver

/-- Both sides leave their connection. -/
def unwired (k now : ℕ) : List Action :=
  let leave : List Session.Action := .start k .unwire :: List.replicate 4 (.advance k now [])
  leave.map .holder ++ leave.map .receiver

/-- The holder runs one call: so many stretches of task `k`. -/
def called (k now : ℕ) (call : Transfer.Call) (stretches : ℕ) : List Action :=
  (.start k call :: List.replicate stretches (.advance k now [])).map .holder

namespace Sample

/-- A holder of two-byte frames. -/
def start : Link := new { sender := { frameSize := 2 } } {} 0

def otherId : TxId := ⟨List.replicate 16 1, List.length_replicate⟩

end Sample

end Link

end Xacpp
