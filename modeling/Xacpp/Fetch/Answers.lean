import Xacpp.Fetch.Serving
import Xacpp.Fetch.Waiters
/-!
# What a fetch answers

A slot is filled once, by the fetch that made it, with the serving that
fetch built; who waits on the slot answers with its result, and who finds a
ready entry answers with that entry (`Answered`). `service_consistent`
collects what holds of the service in every run without cancellation.
-/

namespace Xacpp

namespace Fetch

/-- The wire form of the transaction a response announces. -/
def Response.txid? : Response → Option String
  | .fetchReady txid _ _ _ => some txid
  | .error _ _ | .acknowledge => none

theorem txid?_readyResponse (serving : Serving) :
    (readyResponse serving.ready).txid? = some (formatTransactionId serving.txid) := by
  rw [readyResponse, Response.txid?, serving.announces]

/-- A fetch that has not come to fill a slot of its own. -/
def Task.unfilled : Task → Bool
  | .fetch _ .check | .fetch _ .recheck | .fetch _ .resolve | .fetch _ (.build _)
  | .fetch _ (.publish _) | .fetch _ (.fill _) => true
  | _ => false

/-- The slot a fetch has joined, and the outcome it has read there. -/
def Task.reads : Task → Option (ℕ × Outcome)
  | .fetch _ (.answer k outcome) => some (k, outcome)
  | _ => none

/-- The slot a fetch has joined, and what it answers. -/
def Task.claims : Task → Option (ℕ × Response)
  | .fetch _ (.done (.joined k) response) => some (k, response)
  | _ => none

/-- The entry a fetch has found ready, and what it answers. -/
def Task.finds : Task → Option (String × Serving × Response)
  | .fetch uri (.done (.found s) response) => some (uri, s, response)
  | _ => none

/-- The serving a fetch has built. -/
def Task.carries : Task → Option Serving
  | .fetch _ (.publish (.ok s)) | .fetch _ (.fill (.ok s)) | .fetch _ (.notify (.ok s))
  | .fetch _ (.returning (.ok s)) => some s
  | _ => none

namespace FetchService

variable {f f' : FetchService} {t : ℕ} {task old : Task} {a : Action} {uri : String}
  {serving : Serving} {txid : TxId}

/-- What is in a slot. -/
def resultOf (f : FetchService) (k : ℕ) : Option Outcome :=
  (f.slots.get? k).bind ResolveSlot.result

/-- The fetch that opened the sink of a transaction. -/
def slotOf (f : FetchService) (txid : TxId) : Option ℕ := (f.cells.get? txid).map Cell.slot

theorem slotOf_setCell {change : Cell → Cell} {x : TxId}
    (hsame : ∀ cell, (change cell).slot = cell.slot) :
    (f.setCell txid change).slotOf x = f.slotOf x := map_setCell_of_same hsame

/-- **What slots hold and fetches answer.** -/
structure Answered (f : FetchService) : Prop where
  slot_lt : ∀ k slot, f.slots.get? k = some slot → k < f.next
  pending : ∀ t task, f.tasks.get? t = some task → task.unfilled = true → f.resultOf t = none
  reading : ∀ t task k outcome, f.tasks.get? t = some task → task.reads = some (k, outcome) →
    f.resultOf k = some outcome
  claimed : ∀ t task k response, f.tasks.get? t = some task → task.claims = some (k, response) →
    ∃ outcome, f.resultOf k = some outcome ∧ response = outcomeResponse outcome
  found : ∀ t task uri serving response, f.tasks.get? t = some task →
    task.finds = some (uri, serving, response) →
      serving.uri = uri ∧ response = readyResponse serving.ready
  carried : ∀ t task serving, f.tasks.get? t = some task → task.carries = some serving →
    f.slotOf serving.txid = some t
  filled : ∀ k serving, f.resultOf k = some (.ok serving) → f.slotOf serving.txid = some k

theorem answered_new : Answered new where
  slot_lt k slot h := by simp at h
  pending t task h := by simp at h
  reading t task k outcome h := by simp at h
  claimed t task k response h := by simp at h
  found t task uri serving response h := by simp at h
  carried t task serving h := by simp at h
  filled k serving h := by simp [resultOf] at h

/-- A task goes on; results that are there stay, and no result comes up
under a fetch that has still to fill its slot. -/
theorem Answered.of_insert (h : Answered f)
    (hslots : ∀ k slot, f'.slots.get? k = some slot → k < f'.next)
    (hresults : ∀ k, k ≠ t → f'.resultOf k = f.resultOf k)
    (hkept : ∀ outcome, f.resultOf t = some outcome → f'.resultOf t = some outcome)
    (hslotOf : ∀ x k, f.slotOf x = some k → f'.slotOf x = some k)
    (htasks : f'.tasks = f.tasks.insert t task)
    (hpending : task.unfilled = true → f'.resultOf t = none)
    (hreads : ∀ k outcome, task.reads = some (k, outcome) → f'.resultOf k = some outcome)
    (hclaims : ∀ k response, task.claims = some (k, response) →
      ∃ outcome, f'.resultOf k = some outcome ∧ response = outcomeResponse outcome)
    (hfinds : ∀ uri serving response, task.finds = some (uri, serving, response) →
      serving.uri = uri ∧ response = readyResponse serving.ready)
    (hcarries : ∀ serving, task.carries = some serving → f'.slotOf serving.txid = some t)
    (hfilled : ∀ serving, f'.resultOf t = some (.ok serving) →
      f'.slotOf serving.txid = some t) : Answered f' := by
  have hresult : ∀ k outcome, f.resultOf k = some outcome → f'.resultOf k = some outcome := by
    intro k outcome hk
    by_cases hkt : k = t
    · exact hkt ▸ hkept outcome (hkt ▸ hk)
    · exact (hresults k hkt).trans hk
  refine ⟨hslots, fun t' task' hget hun => ?_, fun t' task' k outcome hget hr => ?_,
    fun t' task' k response hget hc => ?_, fun t' task' u s response hget hf => ?_,
    fun t' task' s hget hc => ?_, fun k s hk => ?_⟩
  · rw [htasks, Table.get?_insert] at hget
    split at hget
    · next ht =>
      cases hget
      exact ht ▸ hpending hun
    · next ht => exact (hresults t' ht).trans (h.pending t' task' hget hun)
  · rw [htasks, Table.get?_insert] at hget
    split at hget
    · cases hget
      exact hreads k outcome hr
    · exact hresult k outcome (h.reading t' task' k outcome hget hr)
  · rw [htasks, Table.get?_insert] at hget
    split at hget
    · cases hget
      exact hclaims k response hc
    · obtain ⟨outcome, hk, hresponse⟩ := h.claimed t' task' k response hget hc
      exact ⟨outcome, hresult k outcome hk, hresponse⟩
  · rw [htasks, Table.get?_insert] at hget
    split at hget
    · cases hget
      exact hfinds u s response hf
    · exact h.found t' task' u s response hget hf
  · rw [htasks, Table.get?_insert] at hget
    split at hget
    · next ht =>
      cases hget
      exact ht ▸ hcarries s hc
    · exact hslotOf _ _ (h.carried t' task' s hget hc)
  · by_cases hkt : k = t
    · exact hkt ▸ hfilled s (hkt ▸ hk)
    · exact hslotOf _ _ (h.filled k s ((hresults k hkt).symm.trans hk))

/-- The slots and the makers of sinks are what they were, and the task
answers nothing new. -/
theorem Answered.of_aside (h : Answered f) (hget : f.tasks.get? t = some old)
    (hslots : f'.slots = f.slots) (hnext : f'.next = f.next)
    (hslotOf : ∀ x, f'.slotOf x = f.slotOf x) (htasks : f'.tasks = f.tasks.insert t task)
    (hpending : task.unfilled = true → old.unfilled = true)
    (hreads : ∀ k outcome, task.reads = some (k, outcome) → f.resultOf k = some outcome)
    (hclaims : ∀ k response, task.claims = some (k, response) →
      ∃ outcome, f.resultOf k = some outcome ∧ response = outcomeResponse outcome)
    (hfinds : ∀ uri serving response, task.finds = some (uri, serving, response) →
      serving.uri = uri ∧ response = readyResponse serving.ready)
    (hcarries : task.carries = none ∨ task.carries = old.carries) : Answered f' := by
  have hresult : ∀ k, f'.resultOf k = f.resultOf k := fun k => by rw [resultOf, hslots, resultOf]
  refine h.of_insert (fun k slot hk => ?_) (fun k _ => hresult k) (fun outcome hk => ?_)
    (fun x k hx => (hslotOf x).trans hx) htasks (fun hun => ?_)
    (fun k outcome hr => (hresult k).trans (hreads k outcome hr)) (fun k response hc => ?_) hfinds
    (fun s hc => ?_) (fun s hs => ?_)
  · rw [hnext]
    exact h.slot_lt k slot (hslots ▸ hk)
  · exact (hresult t).trans hk
  · exact (hresult t).trans (h.pending t old hget (hpending hun))
  · obtain ⟨outcome, hk, hresponse⟩ := hclaims k response hc
    exact ⟨outcome, (hresult k).trans hk, hresponse⟩
  · rcases hcarries with hnone | hsame
    · rw [hnone] at hc
      cases hc
    · exact (hslotOf _).trans (h.carried t old s hget (hsame ▸ hc))
  · exact (hslotOf _).trans (h.filled t s ((hresult t).symm.trans hs))

theorem answers_of_begins (h : task.Begins) :
    task.reads = none ∧ task.claims = none ∧ task.finds = none ∧ task.carries = none := by
  cases task with
  | fetch uri pc =>
    have hpc : pc = .check := h
    rw [hpc]
    exact ⟨rfl, rfl, rfl, rfl⟩
  | fetchBegin | fetchFlow | fetchAbort => exact ⟨rfl, rfl, rfl, rfl⟩
  | serving => exact absurd h id

theorem answers_of_cancelled (h : cancelled old = some task) :
    task.unfilled = false ∧ task.reads = none ∧ task.claims = none ∧ task.finds = none ∧
      task.carries = none := by
  unfold cancelled at h
  split at h <;> cases h <;> exact ⟨rfl, rfl, rfl, rfl, rfl⟩

theorem Answered.moves (h : Answered f) (hplaced : Placed f) (hget : f.tasks.get? t = some old)
    (hmoves : Moves f t old task) : Answered (f.setTask t task) := by
  refine h.of_aside hget rfl rfl (fun _ => rfl) rfl ?_ ?_ ?_ ?_ ?_
  · cases hmoves with
    | fails hpc => rcases hpc with rfl | ⟨_, rfl⟩ <;> exact fun _ => rfl
    | misses | builds => exact fun _ => rfl
    | finds | joins | reads | misreads | parks | answers | returns | beginReturns | refuses
    | flowReturns | abortReturns | findsBegun | owns | stops | leaves | unwraps => exact nofun
  · intro k outcome hreads
    cases hmoves with
    | reads hresult =>
      cases hreads
      exact hresult
    | finds | joins | misses | builds | fails | misreads | parks | answers | returns | beginReturns
    | refuses | flowReturns | abortReturns | findsBegun | owns | stops | leaves | unwraps =>
      cases hreads
  · intro k response hclaims
    cases hmoves with
    | answers =>
      cases hclaims
      exact ⟨_, h.reading t _ _ _ hget rfl, rfl⟩
    | finds | joins | misses | builds | fails | reads | misreads | parks | returns | beginReturns
    | refuses | flowReturns | abortReturns | findsBegun | owns | stops | leaves | unwraps =>
      cases hclaims
  · intro u s response hfinds
    cases hmoves with
    | finds hpc hready =>
      cases hfinds
      exact ⟨((hplaced.ready _ _).1 hready).2, rfl⟩
    | joins | misses | builds | fails | reads | misreads | parks | answers | returns | beginReturns
    | refuses | flowReturns | abortReturns | findsBegun | owns | stops | leaves | unwraps =>
      cases hfinds
  · cases hmoves <;> exact .inl rfl

/-- A placeholder comes with an empty slot. -/
theorem Answered.places (h : Answered f) (hplaced : Placed f)
    (hget : f.tasks.get? t = some (.fetch uri .recheck)) {byUri : Table String UriEntry} :
    Answered ({ f with byUri := byUri, slots := f.slots.insert t ⟨none, false⟩ }.setTask t
      (.fetch uri .resolve)) := by
  have hnone : ({ f with byUri := byUri, slots := f.slots.insert t ⟨none, false⟩ }.setTask t
      (.fetch uri .resolve)).resultOf t = none := by
    rw [resultOf, setTask, Table.get?_insert_self]
    rfl
  refine h.of_insert (fun k slot hk => ?_) (fun k hkt => ?_) (fun outcome hk => ?_)
    (fun x k hx => hx) rfl (fun _ => hnone) (fun _ _ h => by cases h) (fun _ _ h => by cases h)
    (fun _ _ _ h => by cases h) (fun _ h => by cases h) (fun s hs => ?_)
  · rw [setTask, Table.get?_insert] at hk
    split at hk
    · next hkt => exact hkt ▸ hplaced.fresh t _ hget
    · exact h.slot_lt k slot hk
  · rw [resultOf, setTask, Table.get?_insert_of_ne _ _ hkt, resultOf]
  · rw [h.pending t _ hget rfl] at hk
    cases hk
  · rw [hnone] at hs
    cases hs

/-- The fetch that opens a sink is the one to fill its slot with it. -/
theorem Answered.opens (h : Answered f) {resource : ResolvedResource}
    (hget : f.tasks.get? t = some (.fetch uri (.build resource)))
    (hfresh : f.cells.get? txid = none) :
    Answered (f.opensSink t uri resource txid) := by
  have hpending := h.pending t _ hget rfl
  refine h.of_insert h.slot_lt (fun _ _ => rfl) (fun outcome hk => hk) (fun x k hx => ?_) rfl
    (fun _ => hpending) nofun nofun nofun (fun s hs => ?_) (fun s hs => ?_)
  · have hne : x ≠ txid := fun heq => by
      rw [slotOf, heq, hfresh] at hx
      cases hx
    rw [slotOf, opensSink, setTask, Table.get?_insert_of_ne _ _ hne]
    exact hx
  · cases hs
    rw [slotOf, opensSink, setTask, serve, Table.get?_insert_self]
    rfl
  · cases hpending.symm.trans hs

/-- A slot gets its result. -/
theorem Answered.fills (h : Answered f) {outcome : Outcome}
    (hget : f.tasks.get? t = some (.fetch uri (.fill outcome))) :
    Answered ({ f with
      slots := f.slots.modify t fun slot => { slot with result := some outcome } }.setTask t
        (.fetch uri (.notify outcome))) := by
  have hcarried : ∀ serving, outcome = .ok serving → f.slotOf serving.txid = some t := by
    rintro serving rfl
    exact h.carried t _ serving hget rfl
  refine h.of_insert (fun k slot hk => ?_) (fun k hkt => ?_) (fun o hk => ?_) (fun x k hx => hx) rfl
    nofun nofun nofun nofun (fun s hs => ?_) (fun s hs => ?_)
  · rw [setTask, Table.get?_modify] at hk
    split at hk
    · next hkt =>
      obtain ⟨slot', hslot', -⟩ := Option.map_eq_some_iff.1 hk
      exact hkt ▸ h.slot_lt t slot' hslot'
    · exact h.slot_lt k slot hk
  · rw [resultOf, setTask, Table.get?_modify, if_neg hkt, resultOf]
  · rw [h.pending t _ hget rfl] at hk
    cases hk
  · cases outcome with
    | error e => cases hs
    | ok s' =>
      cases hs
      exact hcarried s rfl
  · rw [resultOf, setTask, Table.get?_modify, if_pos rfl] at hs
    obtain ⟨slot, hslot, hresult⟩ := Option.bind_eq_some_iff.1 hs
    obtain ⟨slot', -, rfl⟩ := Option.map_eq_some_iff.1 hslot
    cases hresult
    exact hcarried s rfl

theorem wake_answers (k : ℕ) (task : Task) :
    ((wake k task).unfilled = true → task.unfilled = true) ∧
    (wake k task).reads = task.reads ∧ (wake k task).claims = task.claims ∧
      (wake k task).finds = task.finds ∧ (wake k task).carries = task.carries := by
  unfold wake
  split
  · split <;> exact ⟨nofun, rfl, rfl, rfl, rfl⟩
  · exact ⟨fun hun => hun, rfl, rfl, rfl, rfl⟩

theorem resultOf_notify {k : ℕ} {tasks : Table ℕ Task} :
    resultOf { f with
      slots := f.slots.modify t fun slot => { slot with notified := true }
      tasks := tasks } k = f.resultOf k := by
  rw [resultOf, Table.get?_modify]
  split
  · next hk =>
    rw [resultOf, hk]
    cases f.slots.get? t <;> rfl
  · rfl

theorem Answered.wakes (h : Answered f) {k : ℕ} : Answered { f with
    slots := f.slots.modify k fun slot => { slot with notified := true }
    tasks := f.tasks.mapValues fun _ => wake k } := by
  refine ⟨fun j slot hj => ?_, fun t task hget hun => ?_, fun t task j outcome hget hr => ?_,
    fun t task j response hget hc => ?_, fun t task u s response hget hf => ?_,
    fun t task s hget hc => ?_, fun j s hj => ?_⟩
  · rw [Table.get?_modify] at hj
    split at hj
    · next hjk =>
      obtain ⟨slot', hslot', -⟩ := Option.map_eq_some_iff.1 hj
      exact hjk ▸ h.slot_lt k slot' hslot'
    · exact h.slot_lt j slot hj
  · obtain ⟨task', hget', rfl⟩ := Table.of_get?_mapValues hget
    exact resultOf_notify.trans (h.pending t task' hget' ((wake_answers k task').1 hun))
  · obtain ⟨task', hget', rfl⟩ := Table.of_get?_mapValues hget
    exact resultOf_notify.trans
      (h.reading t task' j outcome hget' ((wake_answers k task').2.1 ▸ hr))
  · obtain ⟨task', hget', rfl⟩ := Table.of_get?_mapValues hget
    obtain ⟨outcome, hj, hresponse⟩ :=
      h.claimed t task' j response hget' ((wake_answers k task').2.2.1 ▸ hc)
    exact ⟨outcome, resultOf_notify.trans hj, hresponse⟩
  · obtain ⟨task', hget', rfl⟩ := Table.of_get?_mapValues hget
    exact h.found t task' u s response hget' ((wake_answers k task').2.2.2.1 ▸ hf)
  · obtain ⟨task', hget', rfl⟩ := Table.of_get?_mapValues hget
    exact h.carried t task' s hget' ((wake_answers k task').2.2.2.2 ▸ hc)
  · exact h.filled j s (resultOf_notify.symm.trans hj)

/-- A task that is no fetch answers nothing here. -/
theorem Answered.of_other (h : Answered f) (hget : f.tasks.get? t = some old)
    (hslots : f'.slots = f.slots) (hnext : f'.next = f.next)
    (hslotOf : ∀ x, f'.slotOf x = f.slotOf x) (htasks : f'.tasks = f.tasks.insert t task)
    (hother : task.unfilled = false ∧ task.reads = none ∧ task.claims = none ∧
      task.finds = none ∧ task.carries = none) : Answered f' := by
  obtain ⟨hun, hreads, hclaims, hfinds, hcarries⟩ := hother
  refine h.of_aside hget hslots hnext hslotOf htasks (fun h => ?_) (fun k outcome h => ?_)
    (fun k response h => ?_) (fun u s response h => ?_) (.inl hcarries)
  · rw [hun] at h
    cases h
  · rw [hreads] at h
    cases h
  · rw [hclaims] at h
    cases h
  · rw [hfinds] at h
    cases h

theorem Answered.effect (h : Answered f) (hplaced : Placed f) (heffect : Effect f a f') :
    Answered f' := by
  cases heffect with
  | @spawns _ task hbegins =>
    obtain ⟨hreads, hclaims, hfinds, hcarries⟩ := answers_of_begins hbegins
    have hnone : f.slots.get? f.next = none := by
      cases hslot : f.slots.get? f.next with
      | none => rfl
      | some slot => exact absurd (h.slot_lt _ slot hslot) (Nat.lt_irrefl _)
    have hresult : f.resultOf f.next = none := by rw [resultOf, hnone, Option.bind_none]
    refine h.of_insert (fun k slot hk => Nat.lt_succ_of_lt (h.slot_lt k slot hk)) (fun _ _ => rfl)
      (fun outcome hk => hk) (fun x k hx => hx) rfl (fun _ => hresult) (fun k outcome hr => ?_)
      (fun k response hc => ?_) (fun u s response hf => ?_) (fun s hc => ?_)
      (fun s hs => h.filled _ s hs)
    · rw [hreads] at hr
      cases hr
    · rw [hclaims] at hc
      cases hc
    · rw [hfinds] at hf
      cases hf
    · rw [hcarries] at hc
      cases hc
  | moves hget hmoves => exact h.moves hplaced hget hmoves
  | cancels hget hcancel =>
    exact h.of_other hget rfl rfl (fun _ => rfl) rfl (answers_of_cancelled hcancel)
  | places hget hnone => exact h.places hplaced hget
  | opens hget hfresh => exact h.opens hget hfresh
  | publishes hget =>
    exact h.of_aside hget rfl rfl (fun _ => slotOf_setCell fun _ => rfl) rfl (fun _ => rfl) nofun
      nofun nofun (.inr rfl)
  | @retracts t uri e hget =>
    have hsame := f.sameBut_publish_error t uri e
    exact h.of_aside hget hsame.slots hsame.next
      (fun x => congrArg (fun cells => (cells.get? x).map Cell.slot) hsame.cells)
      (congrArg (Table.insert · t _) hsame.tasks) (fun _ => rfl) nofun nofun nofun (.inl rfl)
  | fills hget => exact h.fills hget
  | @notifies t uri outcome hget =>
    refine h.wakes.of_aside (get?_wakes_notify hget) rfl rfl (fun _ => rfl) rfl nofun nofun nofun
      nofun (.inr ?_)
    cases outcome <;> rfl
  | accepts hget =>
    exact h.of_other hget rfl rfl (fun _ => slotOf_setCell fun _ => rfl) rfl
      ⟨rfl, rfl, rfl, rfl, rfl⟩
  | @hands t txidHex serving hget =>
    have hmoved : Answered (f.handsOver t txidHex serving) :=
      h.of_other hget rfl rfl (fun _ => slotOf_setCell fun _ => rfl) rfl ⟨rfl, rfl, rfl, rfl, rfl⟩
    exact hmoved.of_insert (fun k slot hk => Nat.lt_succ_of_lt (hmoved.slot_lt k slot hk))
      (fun _ _ => rfl) (fun outcome hk => hk) (fun x k hx => hx) rfl nofun nofun nofun nofun nofun
      (fun s hs => hmoved.filled _ s hs)
  | controls change hget hcontrols =>
    refine h.of_other hget rfl rfl (fun _ => slotOf_setCell fun _ => rfl) rfl ?_
    cases hcontrols <;> exact ⟨rfl, rfl, rfl, rfl, rfl⟩
  | evicts hget =>
    refine h.of_other hget rfl rfl (fun _ => slotOf_setCell fun cell => ?_) rfl
      ⟨rfl, rfl, rfl, rfl, rfl⟩
    split <;> rfl
  | claims hget =>
    exact h.of_other hget rfl rfl (fun _ => slotOf_setCell fun _ => rfl) rfl
      ⟨rfl, rfl, rfl, rfl, rfl⟩
  | skips hget hskips =>
    refine h.of_other hget rfl rfl (fun _ => rfl) rfl ?_
    cases hskips <;> exact ⟨rfl, rfl, rfl, rfl, rfl⟩
  | starts hget => exact h.of_other hget rfl rfl (fun _ => rfl) rfl ⟨rfl, rfl, rfl, rfl, rfl⟩
  | @removes t uri txid aborted hget =>
    have hsame := f.sameBut_removeServing txid
    exact h.of_other hget hsame.slots hsame.next
      (fun x => congrArg (fun cells => (cells.get? x).map Cell.slot) hsame.cells)
      (congrArg (Table.insert · t _) hsame.tasks) ⟨rfl, rfl, rfl, rfl, rfl⟩
  | ends hget hends =>
    refine h.of_other hget rfl rfl (fun _ => slotOf_setCell fun _ => rfl) rfl ?_
    cases hends <;> exact ⟨rfl, rfl, rfl, rfl, rfl⟩

/-! ## The whole service -/

/-- A handler is dropped. -/
def Action.isCancel : Action → Bool
  | .cancel _ => true
  | _ => false

theorem tidy_of_not_isCancel (h : a.isCancel = false) (f : FetchService) : Tidy f a := by
  cases a with
  | cancel => cases h
  | fetch | fetchBegin | fetchPause | fetchResume | fetchAbort | advance | resolved | opened
  | served | control => trivial

/-- Tables, gates and answers. -/
structure Sound (f : FetchService) : Prop where
  placed : Placed f
  served : Served f
  answered : Answered f

theorem sound_new : Sound new := ⟨placed_new, served_new, answered_new⟩

theorem Sound.effect (h : Sound f) (htidy : Tidy f a) (heffect : Effect f a f') : Sound f' :=
  ⟨h.placed.effect h.served htidy heffect, h.served.effect h.placed heffect,
    h.answered.effect h.placed heffect⟩

/-- Two listed servings of one uri are the same. -/
theorem Placed.txid_eq (h : Placed f) {x y : TxId} {s s' : Serving}
    (hs : f.byTxid.get? x = some s) (hs' : f.byTxid.get? y = some s') (huri : s.uri = s'.uri) :
    x = y := by
  have hx := (h.listed x s hs).1
  have hy := (h.listed y s' hs').1
  have hready := (h.ready s.uri s).2 ⟨hx ▸ hs, rfl⟩
  have hready' := (h.ready s.uri s').2 ⟨hy ▸ hs', huri.symm⟩
  rw [hready, Option.some.injEq, UriEntry.ready.injEq] at hready'
  rw [← hx, ← hy, hready']

/-- Two fetches in `provider.resolve` for one uri are the same. -/
theorem Placed.resolver_eq (h : Placed f) {t' : ℕ}
    (hget : f.tasks.get? t = some (.fetch uri .resolve))
    (hget' : f.tasks.get? t' = some (.fetch uri .resolve)) : t = t' := by
  have howns : ∀ k, f.tasks.get? k = some (.fetch uri .resolve) →
      f.byUri.get? uri = some (.resolving k) := by
    intro k hk
    rw [h.resolving, hk]
    exact decide_eq_true rfl
  have heq := (howns t hget).symm.trans (howns t' hget')
  rw [Option.some.injEq, UriEntry.resolving.injEq] at heq
  exact heq

/-- Before a start its gate was taken; before it and after it there is no
other of that transaction. -/
theorem orderly_split {log later earlier : List Event} (h : Orderly log)
    (hlog : log = later ++ .serveStarted uri txid :: earlier) :
    .beginAccepted txid ∈ earlier ∧ ∀ u, .serveStarted u txid ∉ later ++ earlier := by
  induction later generalizing log with
  | nil =>
    subst hlog
    exact ⟨h.1, h.2.1⟩
  | cons e later ih =>
    subst hlog
    have htail : Orderly (later ++ .serveStarted uri txid :: earlier) := by
      cases e with
      | serveStarted => exact h.2.2
      | beginAccepted | terminal | skipped => exact h
    obtain ⟨haccepted, honce⟩ := ih htail rfl
    refine ⟨haccepted, fun u hmem => ?_⟩
    rcases List.mem_cons.1 hmem with heq | hmem
    · -- a later start of the same transaction would find this one in the log
      rw [← heq] at h
      exact h.2.1 uri (List.mem_append_right later List.mem_cons_self)
    · exact honce u hmem

/-- **A run without cancellation.** A uri has a ready entry exactly where
the serving is listed under its transaction, so at most one serving of a uri
is; at most one resolve of a uri is in flight; a provider starts to serve a
transaction once, after a begin of it was accepted; and a fetch answers with
the serving it found, or with what the fetch it joined came to, which is
the serving over the sink that fetch opened. -/
theorem service_consistent {acts : List Action} (hcalm : ∀ a ∈ acts, a.isCancel = false)
    (hrun : run step new acts = some f) :
    (∀ uri serving, f.byUri.get? uri = some (.ready serving) ↔
      f.byTxid.get? serving.txid = some serving ∧ serving.uri = uri) ∧
    (∀ x y s s', f.byTxid.get? x = some s → f.byTxid.get? y = some s' → s.uri = s'.uri →
      x = y) ∧
    (∀ uri t t', f.tasks.get? t = some (.fetch uri .resolve) →
      f.tasks.get? t' = some (.fetch uri .resolve) → t = t') ∧
    (∀ uri txid later earlier, f.log = later ++ .serveStarted uri txid :: earlier →
      .beginAccepted txid ∈ earlier ∧ ∀ u, .serveStarted u txid ∉ later ++ earlier) ∧
    (∀ t uri serving response,
      f.tasks.get? t = some (.fetch uri (.done (.found serving) response)) →
        serving.uri = uri ∧ response.txid? = some (formatTransactionId serving.txid)) ∧
    (∀ t uri k response, f.tasks.get? t = some (.fetch uri (.done (.joined k) response)) →
      ∃ outcome, f.resultOf k = some outcome ∧ response = outcomeResponse outcome ∧
        ∀ serving, outcome = .ok serving → f.slotOf serving.txid = some k ∧
          response.txid? = some (formatTransactionId serving.txid)) := by
  have hmeets : RunMeets step Tidy new acts :=
    RunMeets.of_mem fun a ha f => tidy_of_not_isCancel (hcalm a ha) f
  obtain ⟨hplaced, hserved, hanswered⟩ : Sound f := run_induct_of (I := Sound)
    (fun _ _ _ h htidy hstep => h.effect htidy (step_effect hstep)) sound_new hmeets hrun
  refine ⟨hplaced.ready, fun x y s s' hs hs' => hplaced.txid_eq hs hs',
    fun uri t t' => hplaced.resolver_eq,
    fun uri txid later earlier => orderly_split hserved.orderly, fun t uri s response hget => ?_,
    fun t uri k response hget => ?_⟩
  · obtain ⟨huri, hresponse⟩ := hanswered.found t _ uri s response hget rfl
    rw [hresponse]
    exact ⟨huri, txid?_readyResponse s⟩
  · obtain ⟨outcome, hresult, hresponse⟩ := hanswered.claimed t _ k response hget rfl
    refine ⟨outcome, hresult, hresponse, ?_⟩
    rintro s rfl
    rw [hresponse]
    exact ⟨hanswered.filled k s hresult, txid?_readyResponse s⟩

/-- One fetch resolves, the second joins it and the third finds the entry;
a begin then starts the provider. -/
theorem service_consistent_sample :
    ∃ f, run step new (Sample.joining ++ Sample.resolving ++
        [.advance 1, .advance 1, .fetch "res", .advance 2, .fetchBegin (formatTransactionId zeroId),
          .advance 3, .advance 3, .advance 4]) = some f ∧
      f.byTxid.get? zeroId = some (serve "res" Sample.resource zeroId) ∧
      (∃ response, f.tasks.get? 1 = some (.fetch "res" (.done (.joined 0) response)) ∧
        response.txid? = some (formatTransactionId zeroId)) ∧
      (∃ response, f.tasks.get? 2 = some (.fetch "res"
          (.done (.found (serve "res" Sample.resource zeroId)) response)) ∧
        response.txid? = some (formatTransactionId zeroId)) ∧
      f.log = [.serveStarted "res" zeroId, .beginAccepted zeroId] ∧
      f.byUri.get? "res" = some (.ready (serve "res" Sample.resource zeroId)) := by
  obtain ⟨f, hrun, hlisted, hjoined, hfound, hresult, hlog⟩ :
      ∃ f, run step new (Sample.joining ++ Sample.resolving ++
          [.advance 1, .advance 1, .fetch "res", .advance 2,
            .fetchBegin (formatTransactionId zeroId), .advance 3, .advance 3,
            .advance 4]) = some f ∧
        f.byTxid.get? zeroId = some (serve "res" Sample.resource zeroId) ∧
        f.tasks.get? 1 = some (.fetch "res" (.done (.joined 0)
          (outcomeResponse (.ok (serve "res" Sample.resource zeroId))))) ∧
        f.tasks.get? 2 = some (.fetch "res" (.done (.found (serve "res" Sample.resource zeroId))
          (readyResponse (serve "res" Sample.resource zeroId).ready))) ∧
        f.resultOf 0 = some (.ok (serve "res" Sample.resource zeroId)) ∧
        f.log = [.serveStarted "res" zeroId, .beginAccepted zeroId] := by decide +kernel
  obtain ⟨hready, -, -, -, hfinds, hjoins⟩ := service_consistent (by decide) hrun
  obtain ⟨outcome, houtcome, -, htxid⟩ := hjoins 1 "res" 0 _ hjoined
  rw [hresult, Option.some.injEq] at houtcome
  exact ⟨_, hrun, hlisted, ⟨_, hjoined, (htxid _ houtcome.symm).2⟩,
    ⟨_, hfound, (hfinds 2 "res" _ _ hfound).2⟩, hlog, (hready "res" _).2 ⟨hlisted, rfl⟩⟩

end FetchService

end Fetch

end Xacpp
