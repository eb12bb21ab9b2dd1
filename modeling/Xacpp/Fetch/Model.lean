import Xacpp.Common.Run
import Xacpp.Common.Table
import Xacpp.Wire.Fetch
/-!
# The fetch service

One `FetchService` on a multi-threaded runtime. A handler call is a task,
and so is each `run_serving`; a task runs from one access of shared state
to the next, so everything that other threads can do in between may happen
there. What the provider, the session and the scheduler decide is part of
the action.

An `Arc<Serving>` is its immutable part, which the transaction id singles
out; what its sharers can change, and the sink it owns, is in the cell of
that id. Which tasks and tables still have a reference is read off the
state (`servingAlive`, `sinkShared`): a local of the source is dropped when
its task returns, unless it is moved or dropped before. A `ResolveSlot`
goes by the number of the task that made it.

A cell carries, as history, which task opened its sink and who is to end
it.
-/

namespace Xacpp

namespace Fetch

/-- Errors, as far as `error_response` tells them apart. -/
inductive XacppError
  | application (code message : String)
  /-- Any other, by its text. -/
  | other (shown : String)
deriving DecidableEq

inductive Response
  | fetchReady (txid sha256 : String) (sizeBytes : ℕ) (mime : String)
  | error (code message : String)
  | acknowledge
deriving DecidableEq

/-- What a provider resolves a uri to. -/
structure ResolvedResource where
  sizeBytes : ℕ
  sha256 : String
  mime : String
deriving DecidableEq

inductive ServeControl
  | pause
  | resume
  | abort
deriving DecidableEq

/-- The immutable part of a serving; it announces its own transaction. -/
structure Serving where
  uri : String
  txid : TxId
  ready : FetchReadyMeta
  announces : ready.txid = txid
deriving DecidableEq

/-- What a resolve comes to. -/
abbrev Outcome := Except XacppError Serving

def readyResponse (ready : FetchReadyMeta) : Response :=
  .fetchReady (formatTransactionId ready.txid) ready.sha256 ready.sizeBytes ready.mime

/-- Application errors pass through, any other is `fetch_not_found`. -/
def errorResponse : XacppError → Response
  | .application code message => .error code message
  | .other shown => .error fetchNotFound shown

def outcomeResponse : Outcome → Response
  | .ok serving => readyResponse serving.ready
  | .error e => errorResponse e

/-- A `by_uri` entry. -/
inductive UriEntry
  | resolving (slot : ℕ)
  | ready (serving : Serving)
deriving DecidableEq

/-- The entry is the serving's. -/
def UriEntry.isServing (txid : TxId) : UriEntry → Bool
  | .resolving _ => false
  | .ready serving => decide (serving.txid = txid)

structure ResolveSlot where
  result : Option Outcome
  /-- `notify_waiters` has been called. -/
  notified : Bool
deriving DecidableEq

/-- The slot has the serving for a result. -/
def ResolveSlot.hasServing (txid : TxId) (slot : ResolveSlot) : Bool :=
  match slot.result with
  | some (.ok serving) => decide (serving.txid = txid)
  | _ => false

/-- The operation that ends a sink. -/
inductive Terminal
  | finish
  | abort
deriving DecidableEq

/-- History: who is to end a sink. -/
inductive Holder
  /-- The fetch that opened it. -/
  | fetch (task : ℕ)
  | tables
  | taker (task : ℕ)
  | server (task : ℕ)
  | aborter (task : ℕ)
deriving DecidableEq

/-- The changing part of a serving, and its sink. -/
structure Cell where
  begun : Bool
  /-- The receiving end of the control channel has been taken. -/
  rxTaken : Bool
  controls : List ServeControl
  ended : Option Terminal
  /-- History: the fetch that opened the sink. -/
  slot : ℕ
  holder : Holder
deriving DecidableEq

/-- How a fetch came by its answer. -/
inductive Source
  /-- A ready entry. -/
  | found (serving : Serving)
  /-- Another fetch's slot. -/
  | joined (slot : ℕ)
  /-- Its own resolve. -/
  | resolved
deriving DecidableEq

/-- `handle_fetch`. -/
inductive FetchPc
  | check
  | recheck
  | resolve
  | build (resource : ResolvedResource)
  /-- The outcome goes to the tables. -/
  | publish (outcome : Outcome)
  /-- The outcome goes to the slot. -/
  | fill (outcome : Outcome)
  | notify (outcome : Outcome)
  /-- The waiters are notified; the call has still to return. -/
  | returning (outcome : Outcome)
  /-- `ResolveSlot::wait`, before the lock of the result. -/
  | wait (slot : ℕ)
  /-- The result was not there; the lock is released. -/
  | park (slot : ℕ)
  /-- Parked on a `Notified`; `late` where it was created after the
  notification. -/
  | parked (slot : ℕ) (late : Bool)
  | answer (slot : ℕ) (outcome : Outcome)
  | done (source : Source) (response : Response)
  | cancelled
deriving DecidableEq

/-- `handle_begin`. -/
inductive BeginPc
  | lookup
  | takeRx (serving : Serving)
  /-- The serving task is spawned; the call has still to return. -/
  | spawned (serving : Serving)
  | done (response : Response)
  | cancelled
deriving DecidableEq

/-- `handle_flow`. -/
inductive FlowPc
  | lookup
  | done (response : Response)
  | cancelled
deriving DecidableEq

/-- `handle_abort`. -/
inductive AbortPc
  | lookup
  | swap (serving : Serving)
  | signal (serving : Serving)
  /-- The signal is sent; the call has still to return. -/
  | signalled (serving : Serving)
  /-- Not begun: the sink is to be unwrapped. -/
  | unwrap (txid : TxId)
  | aborting (txid : TxId)
  | done (response : Response)
  | cancelled
deriving DecidableEq

/-- `run_serving`. -/
inductive ServePc
  | start
  | running
  /-- The provider's task is aborted and awaited. -/
  | joining
  | evict (aborted : Bool)
  | unwrap (aborted : Bool)
  | ending (aborted : Bool)
  /-- The terminal operation, if there was one. -/
  | done (terminal : Option Terminal)
deriving DecidableEq

inductive Task
  | fetch (uri : String) (pc : FetchPc)
  | fetchBegin (txidHex : String) (pc : BeginPc)
  | fetchFlow (txidHex : String) (control : ServeControl) (what : String) (pc : FlowPc)
  | fetchAbort (txidHex : String) (pc : AbortPc)
  | serving (uri : String) (txid : TxId) (pc : ServePc)
deriving DecidableEq

inductive Event
  /-- The gate of a transaction was taken. -/
  | beginAccepted (txid : TxId)
  | serveStarted (uri : String) (txid : TxId)
  | terminal (txid : TxId) (op : Terminal)
  /-- `try_unwrap` found the sink shared. -/
  | skipped (txid : TxId)
deriving DecidableEq

structure FetchService where
  byUri : Table String UriEntry
  byTxid : Table TxId Serving
  slots : Table ℕ ResolveSlot
  cells : Table TxId Cell
  tasks : Table ℕ Task
  /-- Tasks spawned. -/
  next : ℕ
  log : List Event

namespace FetchService

def new : FetchService where
  byUri := ∅
  byTxid := ∅
  slots := ∅
  cells := ∅
  tasks := ∅
  next := 0
  log := []

variable (f : FetchService)

def spawn (task : Task) : FetchService :=
  { f with tasks := f.tasks.insert f.next task, next := f.next + 1 }

def setTask (t : ℕ) (task : Task) : FetchService := { f with tasks := f.tasks.insert t task }

def setCell (txid : TxId) (change : Cell → Cell) : FetchService :=
  { f with cells := f.cells.modify txid change }

def record (e : Event) : FetchService := { f with log := e :: f.log }

/-! ## References -/

/-- The task has an `Arc<Serving>` of its own. -/
def holdsServing (txid : TxId) : Task → Bool
  | .fetch _ (.publish (.ok serving)) | .fetch _ (.fill (.ok serving))
  | .fetch _ (.notify (.ok serving)) | .fetch _ (.returning (.ok serving))
  | .fetch _ (.answer _ (.ok serving))
  | .fetchBegin _ (.takeRx serving) | .fetchBegin _ (.spawned serving)
  | .fetchAbort _ (.swap serving) | .fetchAbort _ (.signal serving)
  | .fetchAbort _ (.signalled serving) => decide (serving.txid = txid)
  | _ => false

/-- The task has an `Arc<ResolveSlot>` of its own. -/
def holdsSlot (slot t : ℕ) : Task → Bool
  | .fetch _ .resolve | .fetch _ (.build _) | .fetch _ (.publish _) | .fetch _ (.fill _)
  | .fetch _ (.notify _) | .fetch _ (.returning _) => decide (t = slot)
  | .fetch _ (.wait k) | .fetch _ (.park k) | .fetch _ (.parked k _) | .fetch _ (.answer k _) =>
    decide (k = slot)
  | _ => false

/-- The task has an `Arc<BinarySink>` of its own. The one a provider is given
for its `serve` counts as the serving task's until that call has ended: that
a provider keeps no clone of it any longer is assumed. -/
def holdsSink (txid : TxId) : Task → Bool
  | .fetchBegin _ (.takeRx serving) => decide (serving.txid = txid)
  | .fetchAbort _ (.unwrap x) => decide (x = txid)
  | .serving _ x (.start) | .serving _ x (.running) | .serving _ x (.joining)
  | .serving _ x (.evict _) | .serving _ x (.unwrap _) => decide (x = txid)
  | _ => false

/-- Some fetch still has the slot. -/
def slotHeld (slot : ℕ) : Bool := f.tasks.toList.any fun e => holdsSlot slot e.1 e.2

def slotAlive (slot : ℕ) : Bool :=
  f.slotHeld slot || f.byUri.values.any fun entry => decide (entry = .resolving slot)

/-- Some `Arc<Serving>` of the transaction is left. -/
def servingAlive (txid : TxId) : Bool :=
  f.byTxid.values.any (fun serving => decide (serving.txid = txid)) ||
    f.byUri.values.any (UriEntry.isServing txid) ||
    f.tasks.values.any (holdsServing txid) ||
    f.slots.toList.any fun e => ResolveSlot.hasServing txid e.2 && f.slotAlive e.1

/-- `Arc::try_unwrap` of task `t`'s sink finds another reference. -/
def sinkShared (t : ℕ) (txid : TxId) : Bool :=
  f.servingAlive txid || f.tasks.toList.any fun e => decide (e.1 ≠ t) && holdsSink txid e.2

/-! ## `handle_fetch` -/

/-- What the entry of a uri makes of a fetch, where there is one. -/
def findUri (uri : String) : Option FetchPc :=
  (f.byUri.get? uri).map fun
    | .ready serving => .done (.found serving) (readyResponse serving.ready)
    | .resolving slot => .wait slot

/-- The size checks of `build_serving`, before the sink is opened. -/
def checkSize (resource : ResolvedResource) : FetchPc :=
  if resource.sizeBytes = 0 then
    .publish (.error (.application fetchRefused "resource size must be non-zero"))
  else if resource.sizeBytes > 2 ^ 32 - 1 then
    .publish (.error (.application fetchRefused "resource exceeds protocol size limit (u32::MAX)"))
  else .build resource

/-- The serving record over a sink that is open. -/
def serve (uri : String) (resource : ResolvedResource) (txid : TxId) : Serving where
  uri := uri
  txid := txid
  ready := ⟨txid, resource.sha256, resource.sizeBytes, resource.mime⟩
  announces := rfl

/-- A woken waiter looks at the result again. -/
def wake (slot : ℕ) : Task → Task
  | .fetch uri (.parked k late) => .fetch uri (if k = slot then .wait k else .parked k late)
  | task => task

/-- The swap of the placeholder, or its eviction. -/
def publish (t : ℕ) (uri : String) : Outcome → FetchService
  | .ok serving =>
    { f with
      byUri := f.byUri.insert uri (.ready serving)
      byTxid := f.byTxid.insert serving.txid serving }.setCell serving.txid fun cell =>
        { cell with holder := .tables }
  | .error _ =>
    if f.byUri.get? uri = some (.resolving t) then { f with byUri := f.byUri.erase uri } else f

/-- One stretch of `handle_fetch`. -/
def advanceFetch (t : ℕ) (uri : String) : FetchPc → Option FetchService
  | .check => some (f.setTask t (.fetch uri ((f.findUri uri).getD .recheck)))
  | .recheck =>
    match f.findUri uri with
    | some pc => some (f.setTask t (.fetch uri pc))
    | none =>
      some ({ f with
        byUri := f.byUri.insert uri (.resolving t)
        slots := f.slots.insert t ⟨none, false⟩ }.setTask t (.fetch uri .resolve))
  | .publish outcome => some ((f.publish t uri outcome).setTask t (.fetch uri (.fill outcome)))
  | .fill outcome =>
    some ({ f with
      slots := f.slots.modify t fun slot => { slot with result := some outcome } }.setTask t
        (.fetch uri (.notify outcome)))
  | .notify outcome =>
    some ({ f with
      slots := f.slots.modify t fun slot => { slot with notified := true }
      tasks := f.tasks.mapValues fun _ => wake t }.setTask t (.fetch uri (.returning outcome)))
  | .returning outcome =>
    some (f.setTask t (.fetch uri (.done .resolved (outcomeResponse outcome))))
  | .wait slot =>
    match (f.slots.get? slot).bind ResolveSlot.result with
    | some outcome => some (f.setTask t (.fetch uri (.answer slot outcome)))
    | none => some (f.setTask t (.fetch uri (.park slot)))
  | .park slot =>
    some (f.setTask t (.fetch uri
      (.parked slot (((f.slots.get? slot).map ResolveSlot.notified).getD false))))
  | .answer slot outcome =>
    some (f.setTask t (.fetch uri (.done (.joined slot) (outcomeResponse outcome))))
  | .resolve | .build _ | .parked _ _ | .done _ _ | .cancelled => none

/-! ## `handle_begin`, `handle_flow`, `handle_abort` -/

/-- One stretch of `handle_begin`. -/
def advanceBegin (t : ℕ) (txidHex : String) : BeginPc → Option FetchService
  | .lookup =>
    let returns (response : Response) := some (f.setTask t (.fetchBegin txidHex (.done response)))
    match parseTransactionId txidHex with
    | .error _ =>
      returns (.error fetchRefused ("malformed fetch transaction id: " ++ txidHex))
    | .ok txid =>
      match f.byTxid.get? txid with
      | none => returns (.error fetchRefused "unknown fetch transaction")
      | some serving =>
        -- the gate is taken under the lock of the tables
        if ((f.cells.get? serving.txid).map Cell.begun).getD false then returns .acknowledge
        else some (((f.setCell serving.txid fun cell =>
          { cell with begun := true, holder := .taker t }).record
            (.beginAccepted serving.txid)).setTask t (.fetchBegin txidHex (.takeRx serving)))
  | .takeRx serving =>
    if ((f.cells.get? serving.txid).map Cell.rxTaken).getD false then
      some (f.setTask t (.fetchBegin txidHex (.done (.error fetchRefused
        ("fetch serving: control channel already taken for " ++ txidHex)))))
    else
      some (((f.setCell serving.txid fun cell =>
        { cell with rxTaken := true, holder := .server f.next }).setTask t
          (.fetchBegin txidHex (.spawned serving))).spawn
            (.serving serving.uri serving.txid .start))
  | .spawned _ => some (f.setTask t (.fetchBegin txidHex (.done .acknowledge)))
  | .done _ | .cancelled => none

/-- One stretch of `handle_flow`. -/
def advanceFlow (t : ℕ) (txidHex : String) (control : ServeControl) (what : String) :
    FlowPc → Option FetchService
  | .lookup =>
    let returns (response : Response) := Task.fetchFlow txidHex control what (.done response)
    match parseTransactionId txidHex with
    | .error _ => some (f.setTask t (returns
        (.error fetchRefused ("malformed fetch transaction id: " ++ txidHex))))
    | .ok txid =>
      match f.byTxid.get? txid with
      | none => some (f.setTask t (returns
          (.error fetchRefused (what ++ ": unknown fetch transaction"))))
      | some serving =>
        some ((f.setCell serving.txid fun cell =>
          { cell with controls := cell.controls ++ [control] }).setTask t (returns .acknowledge))
  | .done _ | .cancelled => none

/-- Take a serving out of both tables; the uri's entry only where it is
still this transaction's. -/
def evict (serving : Serving) (txid : TxId) : FetchService :=
  { f with
    byTxid := f.byTxid.erase txid
    byUri := if ((f.byUri.get? serving.uri).map (UriEntry.isServing txid)).getD false then
        f.byUri.erase serving.uri
      else f.byUri }

/-- `remove_serving`. -/
def removeServing (txid : TxId) : FetchService :=
  match f.byTxid.get? txid with
  | none => f
  | some serving => f.evict serving txid

/-- One stretch of `handle_abort`. -/
def advanceAbort (t : ℕ) (txidHex : String) : AbortPc → Option FetchService
  | .lookup =>
    let returns := some (f.setTask t (.fetchAbort txidHex (.done .acknowledge)))
    match parseTransactionId txidHex with
    | .error _ => returns
    | .ok txid =>
      match f.byTxid.get? txid with
      | none => returns
      | some serving =>
        some (((f.evict serving txid).setCell serving.txid fun cell =>
          if cell.begun then cell else { cell with holder := .aborter t }).setTask t
            (.fetchAbort txidHex (.swap serving)))
  | .swap serving =>
    if ((f.cells.get? serving.txid).map Cell.begun).getD false then
      some (f.setTask t (.fetchAbort txidHex (.signal serving)))
    else
      some ((f.setCell serving.txid fun cell => { cell with begun := true }).setTask t
        (.fetchAbort txidHex (.unwrap serving.txid)))
  | .signal serving =>
    some ((f.setCell serving.txid fun cell =>
      { cell with controls := cell.controls ++ [.abort] }).setTask t
        (.fetchAbort txidHex (.signalled serving)))
  | .signalled _ => some (f.setTask t (.fetchAbort txidHex (.done .acknowledge)))
  | .unwrap txid =>
    if f.sinkShared t txid then
      some ((f.record (.skipped txid)).setTask t (.fetchAbort txidHex (.done .acknowledge)))
    else some (f.setTask t (.fetchAbort txidHex (.aborting txid)))
  | .aborting txid =>
    some (((f.setCell txid fun cell => { cell with ended := some .abort }).record
      (.terminal txid .abort)).setTask t (.fetchAbort txidHex (.done .acknowledge)))
  | .done _ | .cancelled => none

/-! ## `run_serving` -/

/-- One stretch of `run_serving`, apart from what it selects on. -/
def advanceServing (t : ℕ) (uri : String) (txid : TxId) : ServePc → Option FetchService
  | .start =>
    some ((f.record (.serveStarted uri txid)).setTask t (.serving uri txid .running))
  | .joining => some (f.setTask t (.serving uri txid (.evict true)))
  | .evict aborted => some ((f.removeServing txid).setTask t (.serving uri txid (.unwrap aborted)))
  | .unwrap aborted =>
    if f.sinkShared t txid then
      some ((f.record (.skipped txid)).setTask t (.serving uri txid (.done none)))
    else some (f.setTask t (.serving uri txid (.ending aborted)))
  | .ending aborted =>
    let op := if aborted then Terminal.abort else Terminal.finish
    some (((f.setCell txid fun cell => { cell with ended := some op }).record
      (.terminal txid op)).setTask t (.serving uri txid (.done (some op))))
  | .running | .done _ => none

/-- `control_rx.recv` returns: a queued control, or the end of the channel
once no serving, and so no sender, is left. -/
def receiveControl (t : ℕ) (uri : String) (txid : TxId) : Option FetchService :=
  match ((f.cells.get? txid).map Cell.controls).getD [] with
  | [] => if f.servingAlive txid then none else some (f.setTask t (.serving uri txid .joining))
  | control :: rest =>
    let popped := f.setCell txid fun cell => { cell with controls := rest }
    match control with
    | .pause | .resume => some (popped.setTask t (.serving uri txid .running))
    | .abort => some (popped.setTask t (.serving uri txid .joining))

/-! ## The transition system -/

inductive Action
  | fetch (uri : String)
  | fetchBegin (txidHex : String)
  | fetchPause (txidHex : String)
  | fetchResume (txidHex : String)
  | fetchAbort (txidHex : String)
  /-- A task runs to its next access of shared state. -/
  | advance (t : ℕ)
  /-- `provider.resolve` returns. -/
  | resolved (t : ℕ) (result : Except XacppError ResolvedResource)
  /-- `open_binary_sink` returns. -/
  | opened (t : ℕ) (result : Except XacppError TxId)
  /-- `provider.serve` returns, fails or panics. -/
  | served (t : ℕ) (ok : Bool)
  | control (t : ℕ)
  /-- A handler is dropped where it awaits. -/
  | cancel (t : ℕ)
deriving DecidableEq

def advance (t : ℕ) : Task → Option FetchService
  | .fetch uri pc => f.advanceFetch t uri pc
  | .fetchBegin txidHex pc => f.advanceBegin t txidHex pc
  | .fetchFlow txidHex control what pc => f.advanceFlow t txidHex control what pc
  | .fetchAbort txidHex pc => f.advanceAbort t txidHex pc
  | .serving uri txid pc => f.advanceServing t uri txid pc

/-- `provider.resolve` returns. -/
def resolved (t : ℕ) (result : Except XacppError ResolvedResource) : Task → Option FetchService
  | .fetch uri .resolve => some (f.setTask t (.fetch uri
      (match result with
      | .ok resource => checkSize resource
      | .error e => .publish (.error e))))
  | _ => none

/-- `open_binary_sink` returns; an id is not given twice. -/
def opened (t : ℕ) (result : Except XacppError TxId) : Task → Option FetchService
  | .fetch uri (.build resource) =>
    match result with
    | .error e => some (f.setTask t (.fetch uri (.publish (.error e))))
    | .ok txid =>
      if f.cells.contains txid then none
      else some ({ f with
        cells := f.cells.insert txid ⟨false, false, [], none, t, .fetch t⟩ }.setTask t
          (.fetch uri (.publish (.ok (serve uri resource txid)))))
  | _ => none

/-- A task at an await, dropped there. -/
def cancelled : Task → Option Task
  | .fetch uri (.check) | .fetch uri (.recheck) | .fetch uri (.resolve) | .fetch uri (.build _)
  | .fetch uri (.publish _) | .fetch uri (.fill _) | .fetch uri (.wait _)
  | .fetch uri (.parked _ _) => some (.fetch uri .cancelled)
  | .fetchBegin txidHex (.lookup) | .fetchBegin txidHex (.takeRx _) =>
    some (.fetchBegin txidHex .cancelled)
  | .fetchFlow txidHex control what (.lookup) => some (.fetchFlow txidHex control what .cancelled)
  | .fetchAbort txidHex (.lookup) | .fetchAbort txidHex (.aborting _) =>
    some (.fetchAbort txidHex .cancelled)
  | _ => none

def step (f : FetchService) : Action → Option FetchService
  | .fetch uri => some (f.spawn (.fetch uri .check))
  | .fetchBegin txidHex => some (f.spawn (.fetchBegin txidHex .lookup))
  | .fetchPause txidHex => some (f.spawn (.fetchFlow txidHex .pause "fetch_pause" .lookup))
  | .fetchResume txidHex => some (f.spawn (.fetchFlow txidHex .resume "fetch_resume" .lookup))
  | .fetchAbort txidHex => some (f.spawn (.fetchAbort txidHex .lookup))
  | .advance t => (f.tasks.get? t).bind (f.advance t)
  | .resolved t result => (f.tasks.get? t).bind (f.resolved t result)
  | .opened t result => (f.tasks.get? t).bind (f.opened t result)
  | .served t ok => (f.tasks.get? t).bind fun
    | .serving uri txid .running => some (f.setTask t (.serving uri txid (.evict !ok)))
    | _ => none
  | .control t => (f.tasks.get? t).bind fun
    | .serving uri txid .running => f.receiveControl t uri txid
    | _ => none
  | .cancel t => ((f.tasks.get? t).bind cancelled).map (f.setTask t)

end FetchService

end Fetch

end Xacpp
