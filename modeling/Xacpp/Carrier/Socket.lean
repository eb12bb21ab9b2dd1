import Xacpp.Common.Run
import Xacpp.Common.Table
import Xacpp.Wire.Decoder
/-!
# The socket transport

One `SocketTransport` over its connections. `connect` and `disconnect` hold
the connect lock for their whole length and are cut at their suspension
points; each connection brings three tasks of its own, a frame reader, a
dispatch task and an egress drain, which share the transport's flags and its
one slot for transfer hooks. `disconnect` aborts the dispatch task; the
reader is left to end on its own.

The runtime has several threads: the tasks `connect` spawns may run before
it stores `connected`, and a task that closes a connection stores
`connected` first and marks the close watch after that. These stretches are
cut between the two. An abort takes effect at once: that a dispatch task
which is running when it is aborted goes on to its next suspension point is
left out.

Connections are numbered in the order they start. A registration carries,
as history, how many had started by then and which was attached.
-/

namespace Xacpp

namespace Carrier

/-- Transfer hooks, by registration. -/
structure Hooks where
  number : ℕ
  /-- The connections started before the registration. -/
  started : ℕ
  /-- The connection attached at the time. -/
  attached : Option ℕ
deriving DecidableEq

/-- The hooks were registered after the connection had gone: it was
disconnected, or another had taken its place. -/
def Hooks.After (hooks : Hooks) (n : ℕ) : Prop := n < hooks.started ∧ hooks.attached ≠ some n

instance (hooks : Hooks) (n : ℕ) : Decidable (hooks.After n) :=
  inferInstanceAs (Decidable (_ ∧ _))

/-- What `read` returns. -/
inductive ReadOutcome
  | eof
  | failed
  | bytes (chunk : Bytes)
deriving DecidableEq

/-- The frame-reading task. -/
inductive ReaderPc
  | read
  /-- The hook slot is read for the first of the frames. -/
  | route (frames : List Frame)
  /-- The hooks read are called. -/
  | call (hooks : Hooks) (frame : Frame) (rest : List Frame)
  /-- An envelope goes to the dispatch task. -/
  | forward (payload : Bytes) (rest : List Frame)
  /-- A connection error goes to the dispatch task. -/
  | surface
  | detach
  | ended
deriving DecidableEq

structure Reader where
  decoder : FrameDecoder
  pc : ReaderPc
deriving DecidableEq

/-- The dispatch task: `reader_task`. -/
inductive DispatchPc
  | running
  /-- The clean-up after the loop, from the lock of the pending table on. -/
  | clearing
  /-- In `Egress::close`, before the close watch is marked. -/
  | marking
  | ended
deriving DecidableEq

/-- A dispatch task and its channel; `none` is a connection error. -/
structure Dispatch where
  inbox : List (Option Bytes)
  pc : DispatchPc
deriving DecidableEq

/-- The egress drain task. -/
inductive DrainPc
  | running
  /-- `Close` is queued behind what is still to be written. -/
  | closing
  /-- A write has failed; the close watch is still to be marked. -/
  | failing
  | ended
deriving DecidableEq

inductive ConnectPc
  | check
  | open
  | storeEgress
  /-- The tasks of connection `n` are spawned. -/
  | storeConnected (n : ℕ)
  | storeHandle (n : ℕ)
deriving DecidableEq

inductive DisconnectPc
  | clearHooks
  | takeEgress
  | takeHandle
  /-- The in-flight handlers are joined and the pending table is cleared. -/
  | clearPending
deriving DecidableEq

/-- The operation that holds the connect lock. -/
inductive Op
  | connect (pc : ConnectPc)
  | disconnect (pc : DisconnectPc)
deriving DecidableEq

inductive ConnectError
  | alreadyConnected
  /-- The TCP connection could not be made. -/
  | internal
deriving DecidableEq

inductive Event
  | connectReturned (result : Except ConnectError Unit)
  | disconnectReturned
  /-- A frame of connection `n` was given to the hooks. -/
  | routed (n : ℕ) (hooks : Hooks) (frame : Frame)
  /-- The end of connection `n`'s reader took the hooks out of the slot. -/
  | unregistered (n : ℕ) (hooks : Hooks)
deriving DecidableEq

/-- Capacity of the channel between the two reading tasks. -/
def frameChannelCap : ℕ := 256

/-- Size of the read buffer. -/
def readBufLen : ℕ := 8192

structure SocketTransport where
  /-- Client mode: an address to connect to. -/
  client : Bool
  /-- Server mode: the stream split at construction, until it is taken. -/
  parked : Bool
  connected : Bool
  /-- The value `closed()` subscribers see. -/
  closed : Bool
  egress : Option ℕ
  readerHandle : Option ℕ
  transferHooks : Option Hooks
  op : Option Op
  readers : Table ℕ Reader
  dispatches : Table ℕ Dispatch
  drains : Table ℕ DrainPc
  /-- Connections started. -/
  started : ℕ
  /-- History: the connection last started, until it is disconnected. -/
  attached : Option ℕ
  registrations : ℕ
  log : List Event

namespace SocketTransport

def newImpl (client : Bool) : SocketTransport where
  client := client
  parked := !client
  connected := false
  closed := false
  egress := none
  readerHandle := none
  transferHooks := none
  op := none
  readers := ∅
  dispatches := ∅
  drains := ∅
  started := 0
  attached := none
  registrations := 0
  log := []

/-- Client transport. -/
def connectTo : SocketTransport := newImpl true

/-- Server transport, over an accepted stream. -/
def new : SocketTransport := newImpl false

variable (t : SocketTransport)

def record (e : Event) : SocketTransport := { t with log := e :: t.log }

/-- The operation releases the connect lock and returns. -/
def returns (e : Event) : SocketTransport := { t with op := none }.record e

def setReader (n : ℕ) (reader : Reader) (pc : ReaderPc) : SocketTransport :=
  { t with readers := t.readers.insert n { reader with pc := pc } }

def setDispatch (n : ℕ) (inbox : List (Option Bytes)) (pc : DispatchPc) : SocketTransport :=
  { t with dispatches := t.dispatches.insert n ⟨inbox, pc⟩ }

/-- `Egress::mark_closed`. -/
def markClosed : SocketTransport := { t with closed := true }

/-- `Egress::close` on the entry of connection `n`, up to the mark. -/
def queueClose (n : ℕ) : SocketTransport :=
  { t with
    connected := false
    drains := t.drains.modify n fun
      | .running => .closing
      | pc => pc }

/-- One stretch of `connect`. -/
def advanceConnect (reachable : Bool) : ConnectPc → SocketTransport
  | .check =>
    if t.connected then t.returns (.connectReturned (.error .alreadyConnected))
    else { t with op := some (.connect .open) }
  | .open =>
    let spawned := { t with
      drains := t.drains.insert t.started .running
      op := some (.connect .storeEgress) }
    if t.client then
      if reachable then spawned else t.returns (.connectReturned (.error .internal))
    else if t.parked then { spawned with parked := false }
    else t.returns (.connectReturned (.error .alreadyConnected))
  | .storeEgress =>
    { t with
      egress := some t.started
      readers := t.readers.insert t.started ⟨.new, .read⟩
      dispatches := t.dispatches.insert t.started ⟨[], .running⟩
      started := t.started + 1
      attached := some t.started
      op := some (.connect (.storeConnected t.started)) }
  | .storeConnected n => { t with connected := true, op := some (.connect (.storeHandle n)) }
  | .storeHandle n => { t with readerHandle := some n }.returns (.connectReturned (.ok ()))

/-- Abort the dispatch task of connection `n`, at once. -/
def abortDispatch (n : ℕ) : SocketTransport :=
  { t with dispatches := t.dispatches.modify n fun d => { d with pc := .ended } }

/-- One stretch of `disconnect`. -/
def advanceDisconnect : DisconnectPc → SocketTransport
  | .clearHooks =>
    { t with
      transferHooks := none
      connected := false
      attached := none
      op := some (.disconnect .takeEgress) }
  | .takeEgress =>
    match t.egress with
    | none => { t with op := some (.disconnect .takeHandle) }
    | some n => { (t.queueClose n).markClosed with
        egress := none
        op := some (.disconnect .takeHandle) }
  | .takeHandle =>
    match t.readerHandle with
    | none => { t with op := some (.disconnect .clearPending) }
    | some n => { t.abortDispatch n with
        readerHandle := none
        op := some (.disconnect .clearPending) }
  | .clearPending => t.returns .disconnectReturned

/-- `TransferWiring::on_transfer_activity`. -/
def onTransferActivity (present : Bool) : SocketTransport :=
  if present then
    { t with
      transferHooks := some ⟨t.registrations, t.started, t.attached⟩
      registrations := t.registrations + 1 }
  else { t with transferHooks := none }

/-- The outcome of a read. -/
def received (n : ℕ) (reader : Reader) : ReadOutcome → SocketTransport
  | .eof => t.setReader n reader .detach
  | .failed => t.setReader n reader .surface
  | .bytes chunk =>
    match reader.decoder.feed crc32IsoHdlc chunk with
    | (.error _, decoder) => t.setReader n { reader with decoder := decoder } .surface
    | (.ok frames, decoder) => t.setReader n { reader with decoder := decoder } (.route frames)

/-- Where a frame goes once the hooks, if any, have had it: an envelope to
the dispatch task, and no other any further. -/
def onward (frame : Frame) (rest : List Frame) : ReaderPc :=
  if frame.frameType = .dataJson then .forward frame.payload rest else .route rest

/-- `frame_tx.send`: blocked while the channel is full; `false` where the
receiver is gone. -/
def sendFrame (n : ℕ) (item : Option Bytes) : Option (Bool × SocketTransport) :=
  match t.dispatches.get? n with
  | none => some (false, t)
  | some d =>
    if d.pc = .ended then some (false, t)
    else if d.inbox.length < frameChannelCap then
      some (true, t.setDispatch n (d.inbox ++ [item]) d.pc)
    else none

/-- One stretch of the frame-reading task of connection `n`, between
reads. -/
def advanceReader (n : ℕ) (reader : Reader) : Option SocketTransport :=
  match reader.pc with
  | .read => none
  | .route [] => some (t.setReader n reader .read)
  | .route (frame :: rest) =>
    -- the slot is read anew for every frame
    match t.transferHooks with
    | none => some (t.setReader n reader (onward frame rest))
    | some hooks => some (t.setReader n reader (.call hooks frame rest))
  | .call hooks frame rest =>
    some ((t.record (.routed n hooks frame)).setReader n reader (onward frame rest))
  | .forward payload rest =>
    (t.sendFrame n (some payload)).map fun
      | (true, t) => t.setReader n reader (.route rest)
      | (false, t) => t.setReader n reader .ended
  | .surface => (t.sendFrame n none).map fun r => r.2.setReader n reader .detach
  | .detach =>
    let t := match t.transferHooks with
      | none => t
      | some hooks => t.record (.unregistered n hooks)
    some ({ t with transferHooks := none }.setReader n reader .ended)
  | .ended => none

/-- The reader has let go of the channel. -/
def readerEnded (n : ℕ) : Bool :=
  match t.readers.get? n with
  | none => false
  | some reader => decide (reader.pc = .ended)

/-- One stretch of the dispatch task of connection `n`. What an envelope
brings about is not modelled. -/
def advanceDispatch (n : ℕ) (d : Dispatch) : Option SocketTransport :=
  match d.pc, d.inbox with
  | .running, some _ :: rest => some (t.setDispatch n rest .running)
  | .running, none :: rest => some ({ t with connected := false }.setDispatch n rest .clearing)
  | .running, [] =>
    if t.readerEnded n then some ({ t with connected := false }.setDispatch n [] .clearing)
    else none
  | .clearing, inbox => some ((t.queueClose n).setDispatch n inbox .marking)
  | .marking, inbox => some (t.markClosed.setDispatch n inbox .ended)
  | .ended, _ => none

/-- No entry to the queue of connection `n` is left. -/
def entriesDropped (n : ℕ) : Bool :=
  decide (t.egress ≠ some n) && decide ((t.dispatches.get? n).map Dispatch.pc = some .ended)

/-- A frame can have been queued on connection `n`: senders look at
`connected` first, and that is stored for `n`. -/
def published (n : ℕ) : Bool :=
  decide (n < t.started) && decide (t.op ≠ some (.connect (.storeConnected n)))

/-- The drain task of connection `n`: a write fails, or it sees the end of
its queue. -/
def advanceDrain (n : ℕ) (ok : Bool) : DrainPc → Option SocketTransport
  | .running =>
    if ok then
      if t.entriesDropped n then some { t with drains := t.drains.insert n .ended } else none
    else if t.published n then
      some { t with connected := false, drains := t.drains.insert n .failing }
    else none
  | .closing =>
    if ok then some { t with drains := t.drains.insert n .ended }
    else if t.published n then
      some { t with connected := false, drains := t.drains.insert n .failing }
    else none
  | .failing => some { t.markClosed with drains := t.drains.insert n .ended }
  | .ended => none

/-! ## The transition system -/

inductive Action
  /-- A caller takes the connect lock for `connect`. -/
  | connect
  | disconnect
  /-- The operation under the lock runs to its next suspension point;
  whether a peer answers is part of the action. -/
  | advance (reachable : Bool)
  | onTransferActivity (present : Bool)
  | read (n : ℕ) (outcome : ReadOutcome)
  | reader (n : ℕ)
  | dispatch (n : ℕ)
  | drain (n : ℕ) (ok : Bool)
deriving DecidableEq

/-- A read of at least one byte fits the buffer. -/
def ReadOutcome.fits : ReadOutcome → Bool
  | .bytes chunk => !chunk.isEmpty && decide (chunk.length ≤ readBufLen)
  | _ => true

def step (t : SocketTransport) : Action → Option SocketTransport
  | .connect => if t.op.isSome then none else some { t with op := some (.connect .check) }
  | .disconnect =>
    if t.op.isSome then none else some { t with op := some (.disconnect .clearHooks) }
  | .advance reachable => t.op.map fun
    | .connect pc => t.advanceConnect reachable pc
    | .disconnect pc => t.advanceDisconnect pc
  | .onTransferActivity present => some (t.onTransferActivity present)
  | .read n outcome => (t.readers.get? n).bind fun reader =>
    if reader.pc = .read ∧ ReadOutcome.fits outcome then some (t.received n reader outcome)
    else none
  | .reader n => (t.readers.get? n).bind (t.advanceReader n)
  | .dispatch n => (t.dispatches.get? n).bind (t.advanceDispatch n)
  | .drain n ok => (t.drains.get? n).bind (t.advanceDrain n ok)

end SocketTransport

end Carrier

end Xacpp
