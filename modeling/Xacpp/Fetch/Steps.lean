import Xacpp.Fetch.Model
/-!
# The steps of the fetch service

Most steps move one task on and change nothing that is shared (`Moves`).
The others are told apart by what they change, each with the state it
starts from (`Effect`); `step_effect` is the inversion every invariant of
the service is read off.
-/

namespace Xacpp

namespace Fetch

/-- A handler about to make its first access. -/
def Task.Begins : Task → Prop
  | .fetch _ pc => pc = .check
  | .fetchBegin _ pc => pc = .lookup
  | .fetchFlow _ _ _ pc => pc = .lookup
  | .fetchAbort _ pc => pc = .lookup
  | .serving _ _ _ => False

namespace FetchService

variable {f f' : FetchService} {t : ℕ} {old new : Task} {a : Action}

@[simp] theorem get?_new_tasks : FetchService.new.tasks.get? t = none := Table.get?_empty t

@[simp] theorem get?_new_slots {k : ℕ} : FetchService.new.slots.get? k = none := Table.get?_empty k

@[simp] theorem get?_new_cells {txid : TxId} : FetchService.new.cells.get? txid = none :=
  Table.get?_empty txid

@[simp] theorem get?_new_byUri {uri : String} : FetchService.new.byUri.get? uri = none :=
  Table.get?_empty uri

@[simp] theorem get?_new_byTxid {txid : TxId} : FetchService.new.byTxid.get? txid = none :=
  Table.get?_empty txid

/-! ## What the table operations leave alone -/

/-- Everything but the two tables is the same. -/
structure SameBut (f f' : FetchService) : Prop where
  slots : f'.slots = f.slots
  cells : f'.cells = f.cells
  tasks : f'.tasks = f.tasks
  next : f'.next = f.next
  log : f'.log = f.log

theorem sameBut_evict (f : FetchService) (serving : Serving) (txid : TxId) :
    SameBut f (f.evict serving txid) := ⟨rfl, rfl, rfl, rfl, rfl⟩

theorem sameBut_removeServing (f : FetchService) (txid : TxId) :
    SameBut f (f.removeServing txid) := by
  unfold removeServing
  split
  · exact ⟨rfl, rfl, rfl, rfl, rfl⟩
  · exact sameBut_evict f _ txid

theorem sameBut_publish_error (f : FetchService) (t : ℕ) (uri : String) (e : XacppError) :
    SameBut f (f.publish t uri (.error e)) := by
  simp only [publish]
  split <;> exact ⟨rfl, rfl, rfl, rfl, rfl⟩

theorem byTxid_publish_error (f : FetchService) (t : ℕ) (uri : String) (e : XacppError) :
    (f.publish t uri (.error e)).byTxid = f.byTxid := by
  simp only [publish]
  split <;> rfl

/-- The fetch that notifies is not among those it wakes. -/
theorem get?_wakes_notify {uri : String} {outcome : Outcome}
    (hget : f.tasks.get? t = some (.fetch uri (.notify outcome))) :
    (f.tasks.mapValues fun _ => wake t).get? t = some (.fetch uri (.notify outcome)) := by
  rw [Table.get?_mapValues, hget]
  rfl

/-! ## The inversion -/

/-- A task goes on by itself. -/
inductive Moves (f : FetchService) (t : ℕ) : Task → Task → Prop
  | finds {uri : String} {pc : FetchPc} {serving : Serving} (hpc : pc = .check ∨ pc = .recheck)
      (hready : f.byUri.get? uri = some (.ready serving)) :
      Moves f t (.fetch uri pc)
        (.fetch uri (.done (.found serving) (readyResponse serving.ready)))
  | joins {uri : String} {pc : FetchPc} {slot : ℕ} (hpc : pc = .check ∨ pc = .recheck)
      (hresolving : f.byUri.get? uri = some (.resolving slot)) :
      Moves f t (.fetch uri pc) (.fetch uri (.wait slot))
  | misses {uri : String} : Moves f t (.fetch uri .check) (.fetch uri .recheck)
  | builds {uri : String} {resource : ResolvedResource} :
      Moves f t (.fetch uri .resolve) (.fetch uri (.build resource))
  | fails {uri : String} {pc : FetchPc} {e : XacppError}
      (hpc : pc = .resolve ∨ ∃ resource, pc = .build resource) :
      Moves f t (.fetch uri pc) (.fetch uri (.publish (.error e)))
  | reads {uri : String} {slot : ℕ} {outcome : Outcome}
      (hresult : (f.slots.get? slot).bind ResolveSlot.result = some outcome) :
      Moves f t (.fetch uri (.wait slot)) (.fetch uri (.answer slot outcome))
  | misreads {uri : String} {slot : ℕ}
      (hnone : (f.slots.get? slot).bind ResolveSlot.result = none) :
      Moves f t (.fetch uri (.wait slot)) (.fetch uri (.park slot))
  | parks {uri : String} {slot : ℕ} : Moves f t (.fetch uri (.park slot))
      (.fetch uri (.parked slot (((f.slots.get? slot).map ResolveSlot.notified).getD false)))
  | answers {uri : String} {slot : ℕ} {outcome : Outcome} :
      Moves f t (.fetch uri (.answer slot outcome))
        (.fetch uri (.done (.joined slot) (outcomeResponse outcome)))
  | returns {uri : String} {outcome : Outcome} : Moves f t (.fetch uri (.returning outcome))
      (.fetch uri (.done .resolved (outcomeResponse outcome)))
  /-- A begin that does not get the gate, or is through. -/
  | beginReturns {txidHex : String} {pc : BeginPc} {response : Response}
      (hpc : pc = .lookup ∨ ∃ serving, pc = .spawned serving) :
      Moves f t (.fetchBegin txidHex pc) (.fetchBegin txidHex (.done response))
  | refuses {txidHex : String} {serving : Serving} {response : Response}
      (hrx : ((f.cells.get? serving.txid).map Cell.rxTaken).getD false = true) :
      Moves f t (.fetchBegin txidHex (.takeRx serving)) (.fetchBegin txidHex (.done response))
  | flowReturns {txidHex : String} {control : ServeControl} {what : String} {response : Response} :
      Moves f t (.fetchFlow txidHex control what .lookup)
        (.fetchFlow txidHex control what (.done response))
  /-- An abort that finds nothing, or is through. -/
  | abortReturns {txidHex : String} {pc : AbortPc} {response : Response}
      (hpc : pc = .lookup ∨ ∃ serving, pc = .signalled serving) :
      Moves f t (.fetchAbort txidHex pc) (.fetchAbort txidHex (.done response))
  | findsBegun {txidHex : String} {serving : Serving}
      (hbegun : ((f.cells.get? serving.txid).map Cell.begun).getD false = true) :
      Moves f t (.fetchAbort txidHex (.swap serving)) (.fetchAbort txidHex (.signal serving))
  | owns {txidHex : String} {txid : TxId} (hsole : f.sinkShared t txid = false) :
      Moves f t (.fetchAbort txidHex (.unwrap txid)) (.fetchAbort txidHex (.aborting txid))
  | stops {uri : String} {txid : TxId} :
      Moves f t (.serving uri txid .running) (.serving uri txid .joining)
  | leaves {uri : String} {txid : TxId} {pc : ServePc} {aborted : Bool}
      (hpc : pc = .running ∨ pc = .joining) :
      Moves f t (.serving uri txid pc) (.serving uri txid (.evict aborted))
  | unwraps {uri : String} {txid : TxId} {aborted : Bool} (hsole : f.sinkShared t txid = false) :
      Moves f t (.serving uri txid (.unwrap aborted)) (.serving uri txid (.ending aborted))

/-- Tasks that queue a control, or take one. -/
inductive Controls (txid : TxId) : Task → Task → Prop
  | flow {txidHex : String} {control : ServeControl} {what : String} {response : Response} :
      Controls txid (.fetchFlow txidHex control what .lookup)
        (.fetchFlow txidHex control what (.done response))
  | signal {txidHex : String} {serving : Serving} (htxid : serving.txid = txid) :
      Controls txid (.fetchAbort txidHex (.signal serving))
        (.fetchAbort txidHex (.signalled serving))
  | keeps {uri : String} :
      Controls txid (.serving uri txid .running) (.serving uri txid .running)
  | stops {uri : String} :
      Controls txid (.serving uri txid .running) (.serving uri txid .joining)

/-- Tasks that give up a sink they cannot unwrap. -/
inductive Skips (txid : TxId) : Task → Task → Prop
  | abort {txidHex : String} {response : Response} :
      Skips txid (.fetchAbort txidHex (.unwrap txid)) (.fetchAbort txidHex (.done response))
  | serving {uri : String} {aborted : Bool} :
      Skips txid (.serving uri txid (.unwrap aborted)) (.serving uri txid (.done none))

/-- Tasks that end a sink. -/
inductive Ends (txid : TxId) : Terminal → Task → Task → Prop
  | abort {txidHex : String} {response : Response} :
      Ends txid .abort (.fetchAbort txidHex (.aborting txid)) (.fetchAbort txidHex (.done response))
  | serving {uri : String} {aborted : Bool} {op : Terminal} :
      Ends txid op (.serving uri txid (.ending aborted)) (.serving uri txid (.done (some op)))

/-- The fetch has its sink. -/
abbrev opensSink (f : FetchService) (t : ℕ) (uri : String) (resource : ResolvedResource)
    (txid : TxId) : FetchService :=
  { f with cells := f.cells.insert txid ⟨false, false, [], none, t, .fetch t⟩ }.setTask t
    (.fetch uri (.publish (.ok (serve uri resource txid))))

/-- The begin has the control channel, and the sink is the serving task's
that is to be spawned. -/
abbrev handsOver (f : FetchService) (t : ℕ) (txidHex : String) (serving : Serving) :
    FetchService :=
  (f.setCell serving.txid fun cell =>
    { cell with rxTaken := true, holder := .server f.next }).setTask t
      (.fetchBegin txidHex (.spawned serving))

/-- The serving task is spawned. -/
abbrev spawnsServing (f : FetchService) (t : ℕ) (txidHex : String) (serving : Serving) :
    FetchService :=
  (f.handsOver t txidHex serving).spawn (.serving serving.uri serving.txid .start)

/-- What a step does. -/
inductive Effect (f : FetchService) : Action → FetchService → Prop
  | spawns {a : Action} {task : Task} (hbegins : task.Begins) : Effect f a (f.spawn task)
  | moves {a : Action} {t : ℕ} {old new : Task} (hget : f.tasks.get? t = some old)
      (hmoves : Moves f t old new) : Effect f a (f.setTask t new)
  | cancels {t : ℕ} {old new : Task} (hget : f.tasks.get? t = some old)
      (hcancel : cancelled old = some new) : Effect f (.cancel t) (f.setTask t new)
  | places {t : ℕ} {uri : String} (hget : f.tasks.get? t = some (.fetch uri .recheck))
      (hnone : f.byUri.get? uri = none) :
      Effect f (.advance t) ({ f with
        byUri := f.byUri.insert uri (.resolving t)
        slots := f.slots.insert t ⟨none, false⟩ }.setTask t (.fetch uri .resolve))
  | opens {t : ℕ} {uri : String} {resource : ResolvedResource} {txid : TxId}
      (hget : f.tasks.get? t = some (.fetch uri (.build resource)))
      (hfresh : f.cells.get? txid = none) :
      Effect f (.opened t (.ok txid)) (f.opensSink t uri resource txid)
  | publishes {t : ℕ} {uri : String} {serving : Serving}
      (hget : f.tasks.get? t = some (.fetch uri (.publish (.ok serving)))) :
      Effect f (.advance t) ((f.publish t uri (.ok serving)).setTask t
        (.fetch uri (.fill (.ok serving))))
  | retracts {t : ℕ} {uri : String} {e : XacppError}
      (hget : f.tasks.get? t = some (.fetch uri (.publish (.error e)))) :
      Effect f (.advance t) ((f.publish t uri (.error e)).setTask t (.fetch uri (.fill (.error e))))
  | fills {t : ℕ} {uri : String} {outcome : Outcome}
      (hget : f.tasks.get? t = some (.fetch uri (.fill outcome))) :
      Effect f (.advance t) ({ f with
        slots := f.slots.modify t fun slot => { slot with result := some outcome } }.setTask t
          (.fetch uri (.notify outcome)))
  | notifies {t : ℕ} {uri : String} {outcome : Outcome}
      (hget : f.tasks.get? t = some (.fetch uri (.notify outcome))) :
      Effect f (.advance t) ({ f with
        slots := f.slots.modify t fun slot => { slot with notified := true }
        tasks := f.tasks.mapValues fun _ => wake t }.setTask t (.fetch uri (.returning outcome)))
  /-- A begin takes the gate. -/
  | accepts {t : ℕ} {txidHex : String} {txid : TxId} {serving : Serving}
      (hget : f.tasks.get? t = some (.fetchBegin txidHex .lookup))
      (hparse : parseTransactionId txidHex = .ok txid)
      (hlisted : f.byTxid.get? txid = some serving)
      (hbegun : ((f.cells.get? serving.txid).map Cell.begun).getD false = false) :
      Effect f (.advance t) (((f.setCell serving.txid fun cell =>
        { cell with begun := true, holder := .taker t }).record
          (.beginAccepted serving.txid)).setTask t (.fetchBegin txidHex (.takeRx serving)))
  /-- It takes the control channel and spawns the serving task. -/
  | hands {t : ℕ} {txidHex : String} {serving : Serving}
      (hget : f.tasks.get? t = some (.fetchBegin txidHex (.takeRx serving))) :
      Effect f (.advance t) (f.spawnsServing t txidHex serving)
  /-- Controls are queued or taken; the task goes on as it would. -/
  | controls {a : Action} {t : ℕ} {old new : Task} {txid : TxId}
      (change : List ServeControl → List ServeControl) (hget : f.tasks.get? t = some old)
      (hcontrols : Controls txid old new) :
      Effect f a ((f.setCell txid fun cell =>
        { cell with controls := change cell.controls }).setTask t new)
  /-- An abort takes a serving out of the tables. -/
  | evicts {t : ℕ} {txidHex : String} {txid : TxId} {serving : Serving}
      (hget : f.tasks.get? t = some (.fetchAbort txidHex .lookup))
      (hparse : parseTransactionId txidHex = .ok txid)
      (hlisted : f.byTxid.get? txid = some serving) :
      Effect f (.advance t) (((f.evict serving txid).setCell serving.txid fun cell =>
        if cell.begun then cell else { cell with holder := .aborter t }).setTask t
          (.fetchAbort txidHex (.swap serving)))
  /-- It finds the gate open and closes it. -/
  | claims {t : ℕ} {txidHex : String} {serving : Serving}
      (hget : f.tasks.get? t = some (.fetchAbort txidHex (.swap serving)))
      (hbegun : ((f.cells.get? serving.txid).map Cell.begun).getD false = false) :
      Effect f (.advance t) ((f.setCell serving.txid fun cell =>
        { cell with begun := true }).setTask t (.fetchAbort txidHex (.unwrap serving.txid)))
  | skips {t : ℕ} {old new : Task} {txid : TxId} (hget : f.tasks.get? t = some old)
      (hskips : Skips txid old new) (hshared : f.sinkShared t txid = true) :
      Effect f (.advance t) ((f.record (.skipped txid)).setTask t new)
  | starts {t : ℕ} {uri : String} {txid : TxId}
      (hget : f.tasks.get? t = some (.serving uri txid .start)) :
      Effect f (.advance t) ((f.record (.serveStarted uri txid)).setTask t
        (.serving uri txid .running))
  | removes {t : ℕ} {uri : String} {txid : TxId} {aborted : Bool}
      (hget : f.tasks.get? t = some (.serving uri txid (.evict aborted))) :
      Effect f (.advance t) ((f.removeServing txid).setTask t
        (.serving uri txid (.unwrap aborted)))
  | ends {t : ℕ} {old new : Task} {txid : TxId} {op : Terminal} (hget : f.tasks.get? t = some old)
      (hends : Ends txid op old new) :
      Effect f (.advance t) (((f.setCell txid fun cell => { cell with ended := some op }).record
        (.terminal txid op)).setTask t new)

theorem findUri_moves {uri : String} {pc pc' : FetchPc} (hpc : pc = .check ∨ pc = .recheck)
    (h : f.findUri uri = some pc') : Moves f t (.fetch uri pc) (.fetch uri pc') := by
  obtain ⟨entry, hget, rfl⟩ := Option.map_eq_some_iff.1 h
  cases entry with
  | resolving slot => exact .joins hpc hget
  | ready serving => exact .finds hpc hget

theorem advanceFetch_effect {uri : String} {pc : FetchPc}
    (hget : f.tasks.get? t = some (.fetch uri pc)) (h : f.advanceFetch t uri pc = some f') :
    Effect f (.advance t) f' := by
  cases pc with
  | check =>
    cases h
    cases hfind : f.findUri uri with
    | none => exact .moves hget .misses
    | some pc => exact .moves hget (findUri_moves (.inl rfl) hfind)
  | recheck =>
    simp only [advanceFetch] at h
    split at h
    · next pc hfind =>
      cases h
      exact .moves hget (findUri_moves (.inr rfl) hfind)
    · next hfind =>
      cases h
      exact .places hget (Option.map_eq_none_iff.1 hfind)
  | publish outcome =>
    cases h
    cases outcome with
    | ok serving => exact .publishes hget
    | error e => exact .retracts hget
  | fill outcome =>
    cases h
    exact .fills hget
  | notify outcome =>
    cases h
    exact .notifies hget
  | returning outcome =>
    cases h
    exact .moves hget .returns
  | wait slot =>
    simp only [advanceFetch] at h
    split at h
    · next outcome hresult =>
      cases h
      exact .moves hget (.reads hresult)
    · next hnone =>
      cases h
      exact .moves hget (.misreads hnone)
  | park slot =>
    cases h
    exact .moves hget .parks
  | answer slot outcome =>
    cases h
    exact .moves hget .answers
  | resolve | build | parked | done | cancelled => cases h

theorem advanceBegin_effect {txidHex : String} {pc : BeginPc}
    (hget : f.tasks.get? t = some (.fetchBegin txidHex pc))
    (h : f.advanceBegin t txidHex pc = some f') : Effect f (.advance t) f' := by
  cases pc with
  | lookup =>
    simp only [advanceBegin] at h
    split at h
    · cases h
      exact .moves hget (.beginReturns (.inl rfl))
    next txid hparse =>
    split at h
    · cases h
      exact .moves hget (.beginReturns (.inl rfl))
    next serving hlisted =>
    split at h
    · cases h
      exact .moves hget (.beginReturns (.inl rfl))
    · next hbegun =>
      cases h
      exact .accepts hget hparse hlisted (Bool.eq_false_iff.2 hbegun)
  | takeRx serving =>
    simp only [advanceBegin] at h
    split at h
    · next hrx =>
      cases h
      exact .moves hget (.refuses hrx)
    · cases h
      exact .hands hget
  | spawned serving =>
    cases h
    exact .moves hget (.beginReturns (.inr ⟨serving, rfl⟩))
  | done | cancelled => cases h

theorem advanceFlow_effect {txidHex what : String} {control : ServeControl} {pc : FlowPc}
    (hget : f.tasks.get? t = some (.fetchFlow txidHex control what pc))
    (h : f.advanceFlow t txidHex control what pc = some f') : Effect f (.advance t) f' := by
  cases pc with
  | lookup =>
    simp only [advanceFlow] at h
    split at h
    · cases h
      exact .moves hget .flowReturns
    split at h
    · cases h
      exact .moves hget .flowReturns
    · cases h
      exact .controls (· ++ [control]) hget .flow
  | done | cancelled => cases h

theorem advanceAbort_effect {txidHex : String} {pc : AbortPc}
    (hget : f.tasks.get? t = some (.fetchAbort txidHex pc))
    (h : f.advanceAbort t txidHex pc = some f') : Effect f (.advance t) f' := by
  cases pc with
  | lookup =>
    simp only [advanceAbort] at h
    split at h
    · cases h
      exact .moves hget (.abortReturns (.inl rfl))
    next txid hparse =>
    split at h
    · cases h
      exact .moves hget (.abortReturns (.inl rfl))
    · next serving hlisted =>
      cases h
      exact .evicts hget hparse hlisted
  | swap serving =>
    simp only [advanceAbort] at h
    split at h
    · next hbegun =>
      cases h
      exact .moves hget (.findsBegun hbegun)
    · next hbegun =>
      cases h
      exact .claims hget (Bool.eq_false_iff.2 hbegun)
  | signal serving =>
    cases h
    exact .controls (· ++ [.abort]) hget (.signal rfl)
  | signalled serving =>
    cases h
    exact .moves hget (.abortReturns (.inr ⟨serving, rfl⟩))
  | unwrap txid =>
    simp only [advanceAbort] at h
    split at h
    · next hshared =>
      cases h
      exact .skips hget .abort hshared
    · next hsole =>
      cases h
      exact .moves hget (.owns (Bool.eq_false_iff.2 hsole))
  | aborting txid =>
    cases h
    exact .ends hget .abort
  | done | cancelled => cases h

theorem advanceServing_effect {uri : String} {txid : TxId} {pc : ServePc}
    (hget : f.tasks.get? t = some (.serving uri txid pc))
    (h : f.advanceServing t uri txid pc = some f') : Effect f (.advance t) f' := by
  cases pc with
  | start =>
    cases h
    exact .starts hget
  | joining =>
    cases h
    exact .moves hget (.leaves (.inr rfl))
  | evict aborted =>
    cases h
    exact .removes hget
  | unwrap aborted =>
    simp only [advanceServing] at h
    split at h
    · next hshared =>
      cases h
      exact .skips hget .serving hshared
    · next hsole =>
      cases h
      exact .moves hget (.unwraps (Bool.eq_false_iff.2 hsole))
  | ending aborted =>
    cases h
    exact .ends hget .serving
  | running | done => cases h

theorem receiveControl_effect {uri : String} {txid : TxId}
    (hget : f.tasks.get? t = some (.serving uri txid .running))
    (h : f.receiveControl t uri txid = some f') : Effect f a f' := by
  unfold receiveControl at h
  split at h
  · split at h
    · cases h
    · cases h
      exact .moves hget .stops
  · next control rest _ =>
    cases control with
    | pause | resume =>
      cases h
      exact .controls (fun _ => rest) hget .keeps
    | abort =>
      cases h
      exact .controls (fun _ => rest) hget .stops

theorem resolved_effect {result : Except XacppError ResolvedResource}
    (hget : f.tasks.get? t = some old) (h : f.resolved t result old = some f') : Effect f a f' := by
  unfold resolved at h
  split at h
  · cases h
    cases result with
    | error e => exact .moves hget (.fails (.inl rfl))
    | ok resource =>
      simp only [checkSize]
      split
      · exact .moves hget (.fails (.inl rfl))
      · split
        · exact .moves hget (.fails (.inl rfl))
        · exact .moves hget .builds
  · cases h

theorem opened_effect {result : Except XacppError TxId} (hget : f.tasks.get? t = some old)
    (h : f.opened t result old = some f') : Effect f (.opened t result) f' := by
  unfold opened at h
  split at h
  · next uri resource =>
    split at h
    · cases h
      exact .moves hget (.fails (.inr ⟨resource, rfl⟩))
    · split at h
      · cases h
      · next txid hfresh =>
        cases h
        refine .opens hget ?_
        rw [Table.contains, Bool.not_eq_true, Option.isSome_eq_false_iff] at hfresh
        exact Option.isNone_iff_eq_none.1 hfresh
  · cases h

/-- **The inversion of `step`.** -/
theorem step_effect (h : f.step a = some f') : Effect f a f' := by
  cases a with
  | fetch uri | fetchBegin txidHex | fetchPause txidHex | fetchResume txidHex
  | fetchAbort txidHex =>
    cases h
    exact .spawns rfl
  | advance t =>
    obtain ⟨task, hget, hadv⟩ := Option.bind_eq_some_iff.1 h
    cases task with
    | fetch uri pc => exact advanceFetch_effect hget hadv
    | fetchBegin txidHex pc => exact advanceBegin_effect hget hadv
    | fetchFlow txidHex control what pc => exact advanceFlow_effect hget hadv
    | fetchAbort txidHex pc => exact advanceAbort_effect hget hadv
    | serving uri txid pc => exact advanceServing_effect hget hadv
  | resolved t result =>
    obtain ⟨task, hget, hadv⟩ := Option.bind_eq_some_iff.1 h
    exact resolved_effect hget hadv
  | opened t result =>
    obtain ⟨task, hget, hadv⟩ := Option.bind_eq_some_iff.1 h
    exact opened_effect hget hadv
  | served t ok =>
    obtain ⟨task, hget, hadv⟩ := Option.bind_eq_some_iff.1 h
    split at hadv
    · cases hadv
      exact .moves hget (.leaves (.inl rfl))
    · cases hadv
  | control t =>
    obtain ⟨task, hget, hadv⟩ := Option.bind_eq_some_iff.1 h
    split at hadv
    · exact receiveControl_effect hget hadv
    · cases hadv
  | cancel t =>
    obtain ⟨task, hbind, rfl⟩ := Option.map_eq_some_iff.1 h
    obtain ⟨old, hget, hcancel⟩ := Option.bind_eq_some_iff.1 hbind
    exact .cancels hget hcancel

end FetchService

end Fetch

end Xacpp
