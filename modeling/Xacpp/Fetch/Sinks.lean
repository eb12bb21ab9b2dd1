import Xacpp.Fetch.Owners
/-!
# Terminal operations

`Arc::try_unwrap` gives a sink up where another reference is left: the
fetches that came to their answer through the slot of its resolve, the begin
that spawned the serving task, and aborts that found it begun all keep an
`Arc<Serving>` until they return. `Careful` asks that they have returned by
the time a serving is taken out of the tables to be ended; under it the sink
is never shared when it is unwrapped, and is ended exactly once.
-/

namespace Xacpp

namespace Fetch

/-- A fetch that has made no slot. -/
def Task.early : Task → Bool
  | .fetch _ .check | .fetch _ .recheck => true
  | _ => false

/-- A begin or an abort that still has the serving. -/
def Task.lingers (txid : TxId) : Task → Bool
  | .fetchBegin _ (.takeRx s) | .fetchBegin _ (.spawned s) | .fetchAbort _ (.swap s)
  | .fetchAbort _ (.signal s) | .fetchAbort _ (.signalled s) => decide (s.txid = txid)
  | _ => false

/-- The transaction of a begin that has spawned its serving task. -/
def Task.spawns : Task → Option TxId
  | .fetchBegin _ (.spawned s) => some s.txid
  | _ => none

/-- The transaction of a serving task that is past its eviction. -/
def Task.closing : Task → Option TxId
  | .serving _ x (.unwrap _) | .serving _ x (.ending _) | .serving _ x (.done _) => some x
  | _ => none

namespace FetchService

variable {f f' : FetchService} {t k : ℕ} {task old : Task} {a : Action} {uri : String}
  {serving : Serving} {txid x : TxId}

theorem slotHeld_iff : f.slotHeld k = true ↔
    ∃ t task, f.tasks.get? t = some task ∧ holdsSlot k t task = true := by
  rw [slotHeld, List.any_eq_true]
  constructor
  · rintro ⟨⟨t, task⟩, hmem, hholds⟩
    exact ⟨t, task, Table.mem_toList.1 hmem, hholds⟩
  · rintro ⟨t, task, hget, hholds⟩
    exact ⟨(t, task), Table.mem_toList.2 hget, hholds⟩

/-- Some handler has the serving of the transaction, or the slot of its
resolve. -/
def inUse (f : FetchService) (txid : TxId) : Bool :=
  (f.slotOf txid).any f.slotHeld || f.tasks.toList.any fun e => e.2.lingers txid

theorem inUse_eq_false_iff : f.inUse x = false ↔
    (∀ k, f.slotOf x = some k → f.slotHeld k = false) ∧
      ∀ t task, f.tasks.get? t = some task → task.lingers x = false := by
  rw [inUse, Bool.or_eq_false_iff, Option.any_eq_false, List.any_eq_false]
  refine and_congr Iff.rfl ⟨fun h t task hget => ?_, ?_⟩
  · exact Bool.eq_false_iff.2 (h (t, task) (Table.mem_toList.2 hget))
  · rintro h ⟨t, task⟩ hmem
    exact Bool.eq_false_iff.1 (h t task (Table.mem_toList.1 hmem))

/-- **Handlers that have let go**, at one transaction. -/
structure ApartAt (f : FetchService) (x : TxId) : Prop where
  made : ∀ k, f.slotOf x = some k → ∃ task, f.tasks.get? k = some task ∧ task.early = false
  aborter : ∀ t k, f.holderOf x = some (.aborter t) → f.slotOf x = some k → f.slotHeld k = false
  spawned : ∀ t task, f.tasks.get? t = some task → task.spawns = some x →
    ∃ t', f.holderOf x = some (.server t')
  closing : ∀ t task, f.tasks.get? t = some task → task.closing = some x →
    f.byTxid.get? x = none ∧ f.inUse x = false
  unskipped : .skipped x ∉ f.log

theorem apartAt_new : ApartAt new x where
  made k h := by simp [slotOf] at h
  aborter t k h := by simp [holderOf] at h
  spawned t task h := by simp at h
  closing t task h := by simp at h
  unskipped := List.not_mem_nil

/-! ## One step -/

/-- A slot nobody has stays so, unless the task that goes on takes it. -/
theorem slotHeld_insert (hfree : f.slotHeld k = false)
    (htasks : f'.tasks = f.tasks.insert t task)
    (hslot : holdsSlot k t task = true → f.slotHeld k = true) : f'.slotHeld k = false := by
  refine Bool.eq_false_iff.2 fun hheld => ?_
  obtain ⟨t', task', hget, hholds⟩ := slotHeld_iff.1 hheld
  have hold : f.slotHeld k = true := by
    rw [htasks] at hget
    rcases Table.of_get?_insert hget with ⟨rfl, rfl⟩ | ⟨-, hget⟩
    · exact hslot hholds
    · exact slotHeld_iff.2 ⟨t', task', hget, hholds⟩
  rw [hfree] at hold
  cases hold

theorem inUse_insert (hfree : f.inUse x = false) (hslotOf : f'.slotOf x = f.slotOf x)
    (htasks : f'.tasks = f.tasks.insert t task)
    (hslot : ∀ k, f.slotOf x = some k → holdsSlot k t task = true → f.slotHeld k = true)
    (hlingers : task.lingers x = false) : f'.inUse x = false := by
  obtain ⟨hslots, htasks'⟩ := inUse_eq_false_iff.1 hfree
  refine inUse_eq_false_iff.2 ⟨fun k hk => ?_, fun t' task' hget => ?_⟩
  · rw [hslotOf] at hk
    exact slotHeld_insert (hslots k hk) htasks (hslot k hk)
  · rw [htasks] at hget
    rcases Table.of_get?_insert hget with ⟨rfl, rfl⟩ | ⟨-, hget⟩
    · exact hlingers
    · exact htasks' t' task' hget

/-- What a task that goes on may do to a transaction. -/
structure Aloof (f : FetchService) (x : TxId) (t : ℕ) (task : Task) : Prop where
  early : (f.tasks.get? t).any (fun old => !old.early) = true → task.early = false
  slot : ∀ k, f.slotOf x = some k → holdsSlot k t task = true → f.slotHeld k = true
  lingers : task.lingers x = true → f.byTxid.get? x = none →
    (f.tasks.get? t).any (Task.lingers x) = true

theorem ApartAt.frame (h : ApartAt f x) (hslotOf : f'.slotOf x = f.slotOf x)
    (hserver : ∀ t', f.holderOf x = some (.server t') → f'.holderOf x = some (.server t'))
    (haborter : ∀ t', f'.holderOf x = some (.aborter t') → f.holderOf x = some (.aborter t') ∨
      ∀ k, f.slotOf x = some k → f.slotHeld k = false)
    (hnone : ∀ t', f.holderOf x = some (.server t') → f.byTxid.get? x = none →
      f'.byTxid.get? x = none)
    (hserves : ∀ t task, f.tasks.get? t = some task → task.closing = some x →
      f.holderOf x = some (.server t))
    (hlog : .skipped x ∉ f'.log) (htasks : f'.tasks = f.tasks.insert t task)
    (haloof : Aloof f x t task)
    (hspawns : task.spawns = some x → ∃ t', f'.holderOf x = some (.server t'))
    (hclosing : task.closing = some x → (f.tasks.get? t).bind Task.closing = some x ∨
      f'.byTxid.get? x = none ∧ f.inUse x = false) : ApartAt f' x := by
  -- a handler that lingers has done so before, or found the serving in the tables
  have hfree : f.byTxid.get? x = none → f.inUse x = false → f'.inUse x = false := by
    intro hgone hfree
    refine inUse_insert hfree hslotOf htasks haloof.slot (Bool.eq_false_iff.2 fun hlinger => ?_)
    obtain ⟨old, hget, hold⟩ := (Option.any_eq_true _ _).1 (haloof.lingers hlinger hgone)
    rw [(inUse_eq_false_iff.1 hfree).2 t old hget] at hold
    cases hold
  refine ⟨fun k hk => ?_, fun t' k hholds hk => ?_, fun t' task' hget hspawn => ?_,
    fun t' task' hget hclose => ?_, hlog⟩
  · rw [hslotOf] at hk
    obtain ⟨task', hget, hlate⟩ := h.made k hk
    by_cases hkt : k = t
    · refine ⟨task, by rw [htasks, hkt, Table.get?_insert_self], haloof.early ?_⟩
      rw [← hkt, hget, Option.any_some, hlate]
      rfl
    · exact ⟨task', by rw [htasks, Table.get?_insert_of_ne _ _ hkt]; exact hget, hlate⟩
  · rw [hslotOf] at hk
    have hold : f.slotHeld k = false := by
      rcases haborter t' hholds with hsame | hfree
      · exact h.aborter t' k hsame hk
      · exact hfree k hk
    exact slotHeld_insert hold htasks (haloof.slot k hk)
  · rw [htasks] at hget
    rcases Table.of_get?_insert hget with ⟨rfl, rfl⟩ | ⟨-, hget⟩
    · exact hspawns hspawn
    · obtain ⟨t'', hholds⟩ := h.spawned t' task' hget hspawn
      exact ⟨t'', hserver t'' hholds⟩
  · rw [htasks] at hget
    have hstays : ∀ t task, f.tasks.get? t = some task → task.closing = some x →
        f'.byTxid.get? x = none ∧ f'.inUse x = false := by
      intro t task hget hclose
      obtain ⟨hgone, huse⟩ := h.closing t task hget hclose
      exact ⟨hnone t (hserves t task hget hclose) hgone, hfree hgone huse⟩
    rcases Table.of_get?_insert hget with ⟨rfl, rfl⟩ | ⟨-, hget⟩
    · rcases hclosing hclose with hsame | ⟨hgone, huse⟩
      · obtain ⟨old, hold, hclose⟩ := Option.bind_eq_some_iff.1 hsame
        exact hstays _ old hold hclose
      · refine ⟨hgone, inUse_insert huse hslotOf htasks haloof.slot ?_⟩
        cases task' with
        | serving => rfl
        | fetch | fetchBegin | fetchFlow | fetchAbort => cases hclose
    · exact hstays t' task' hget hclose

theorem closing_server (hserved : Served f) (hget : f.tasks.get? t = some task)
    (hclose : task.closing = some x) : f.holderOf x = some (.server t) := by
  refine hserved.serving t task x hget ?_
  cases task with
  | serving u y pc => cases pc <;> first | exact hclose | cases hclose
  | fetch | fetchBegin | fetchFlow | fetchAbort => cases hclose

/-- Who holds the sink, the tables and the slot are as they were. -/
theorem ApartAt.of_aloof (h : ApartAt f x) (hserved : Served f)
    (hslotOf : f'.slotOf x = f.slotOf x) (hholder : f'.holderOf x = f.holderOf x)
    (hbyTxid : f'.byTxid = f.byTxid) (hlog : .skipped x ∉ f'.log)
    (htasks : f'.tasks = f.tasks.insert t task) (haloof : Aloof f x t task)
    (hspawns : task.spawns = none)
    (hclosing : task.closing = some x → (f.tasks.get? t).bind Task.closing = some x) :
    ApartAt f' x := by
  refine h.frame hslotOf (fun t' hholds => hholder.trans hholds)
    (fun t' hholds => .inl (hholder.symm.trans hholds)) (fun t' _ hnone => ?_)
    (fun t' task' hget hclose => closing_server hserved hget hclose) hlog htasks haloof
    (fun hspawn => ?_) (fun hclose => .inl (hclosing hclose))
  · rw [hbyTxid]
    exact hnone
  · rw [hspawns] at hspawn
    cases hspawn

/-- The task keeps what it had. -/
theorem Aloof.of_old (hget : f.tasks.get? t = some old) (hearly : old.early = false →
      task.early = false) (hslot : ∀ k, holdsSlot k t task = true → holdsSlot k t old = true)
    (hlingers : task.lingers x = true → old.lingers x = true) : Aloof f x t task where
  early h := by
    rw [hget, Option.any_some, Bool.not_eq_true'] at h
    exact hearly h
  slot k _ h := slotHeld_iff.2 ⟨t, old, hget, hslot k h⟩
  lingers h _ := by
    rw [hget]
    exact hlingers h

/-- A fetch that keeps its slot. -/
theorem Aloof.of_slot (hget : f.tasks.get? t = some old) (hearly : task.early = false)
    (hslot : ∀ k, holdsSlot k t task = holdsSlot k t old) (hlingers : task.lingers x = false) :
    Aloof f x t task := by
  refine .of_old hget (fun _ => hearly) (fun k hk => hslot k ▸ hk) fun hlinger => ?_
  rw [hlingers] at hlinger
  cases hlinger

/-- A task that has neither a slot nor a serving. -/
theorem Aloof.of_plain (hearly : task.early = false) (hslot : ∀ k, holdsSlot k t task = false)
    (hlingers : task.lingers x = false) : Aloof f x t task where
  early _ := hearly
  slot k _ h := by
    rw [hslot] at h
    cases h
  lingers h _ := by
    rw [hlingers] at h
    cases h

theorem ApartAt.of_quiet (h : ApartAt f x) (hserved : Served f)
    (hslotOf : f'.slotOf x = f.slotOf x) (hholder : f'.holderOf x = f.holderOf x)
    (hbyTxid : f'.byTxid = f.byTxid) (hlog : .skipped x ∉ f'.log)
    (htasks : f'.tasks = f.tasks.insert t task) (haloof : Aloof f x t task)
    (hspawns : task.spawns = none) (hclosing : task.closing = none) : ApartAt f' x := by
  refine h.of_aloof hserved hslotOf hholder hbyTxid hlog htasks haloof hspawns fun hclose => ?_
  rw [hclosing] at hclose
  cases hclose

/-- Who has a placeholder has its slot. -/
theorem slotHeld_of_resolving (hplaced : Placed f)
    (hresolving : f.byUri.get? uri = some (.resolving k)) : f.slotHeld k = true := by
  obtain ⟨task, hget, howns⟩ := (Option.any_eq_true _ _).1 ((hplaced.resolving uri k).1 hresolving)
  refine slotHeld_iff.2 ⟨k, task, hget, ?_⟩
  cases task with
  | fetch u pc => cases pc <;> first | exact decide_eq_true rfl | cases howns
  | fetchBegin | fetchFlow | fetchAbort | serving => cases howns

theorem Moves.aloof (h : Moves f t old task) (hplaced : Placed f)
    (hget : f.tasks.get? t = some old) : Aloof f x t task := by
  cases h with
  | @joins uri pc slot hpc hresolving =>
    refine ⟨fun _ => rfl, fun k _ hholds => ?_, nofun⟩
    have hk : slot = k := of_decide_eq_true hholds
    rw [← hk]
    exact slotHeld_of_resolving hplaced hresolving
  | misses => exact .of_old hget nofun nofun nofun
  | builds | reads | misreads | parks => exact .of_old hget (fun _ => rfl) (fun _ hk => hk) nofun
  | fails hpc =>
    refine .of_old hget (fun _ => rfl) (fun k hk => ?_) nofun
    rcases hpc with rfl | ⟨_, rfl⟩ <;> exact hk
  | findsBegun => exact .of_old hget (fun _ => rfl) nofun fun hx => hx
  | finds | answers | returns | beginReturns | refuses | flowReturns | abortReturns | owns | stops
  | leaves | unwraps => exact .of_old hget (fun _ => rfl) nofun nofun

theorem Moves.closing_eq (h : Moves f t old task) : task.spawns = none ∧
    (task.closing = some x → old.closing = some x) := by
  cases h with
  | unwraps => exact ⟨rfl, fun hx => hx⟩
  | finds | joins | misses | builds | fails | reads | misreads | parks | answers | returns
  | beginReturns | refuses | flowReturns | abortReturns | findsBegun | owns | stops | leaves =>
    exact ⟨rfl, nofun⟩

theorem aloof_of_begins (hnew : f.tasks.get? t = none) (h : task.Begins) :
    Aloof f x t task ∧ task.spawns = none ∧ task.closing = none := by
  have hearly : (f.tasks.get? t).any (fun old => !old.early) = true → task.early = false := by
    rw [hnew]
    exact nofun
  cases task with
  | fetch uri pc =>
    have hpc : pc = .check := h
    subst hpc
    exact ⟨⟨hearly, nofun, nofun⟩, rfl, rfl⟩
  | fetchBegin txidHex pc =>
    have hpc : pc = .lookup := h
    subst hpc
    exact ⟨⟨hearly, nofun, nofun⟩, rfl, rfl⟩
  | fetchFlow => exact ⟨⟨hearly, nofun, nofun⟩, rfl, rfl⟩
  | fetchAbort txidHex pc =>
    have hpc : pc = .lookup := h
    subst hpc
    exact ⟨⟨hearly, nofun, nofun⟩, rfl, rfl⟩
  | serving => exact absurd h id

theorem aloof_of_cancelled (hget : f.tasks.get? t = some old) (h : cancelled old = some task) :
    Aloof f x t task ∧ task.spawns = none ∧ task.closing = none := by
  unfold cancelled at h
  split at h <;> cases h <;>
    exact ⟨.of_old hget (fun _ => rfl) nofun nofun, rfl, rfl⟩

theorem wake_aloof (j : ℕ) (task : Task) : (wake j task).early = task.early ∧
    (∀ k t, holdsSlot k t (wake j task) = holdsSlot k t task) ∧
    (∀ x, (wake j task).lingers x = task.lingers x) ∧ (wake j task).spawns = task.spawns ∧
      (wake j task).closing = task.closing := by
  unfold wake
  split
  · split <;> exact ⟨rfl, fun _ _ => rfl, fun _ => rfl, rfl, rfl⟩
  · exact ⟨rfl, fun _ _ => rfl, fun _ => rfl, rfl, rfl⟩

theorem ApartAt.wakes (h : ApartAt f x) {j : ℕ} {slots : Table ℕ ResolveSlot} :
    ApartAt { f with slots := slots, tasks := f.tasks.mapValues fun _ => wake j } x := by
  have hslot : ∀ k, f.slotHeld k = false → slotHeld { f with
      slots := slots, tasks := f.tasks.mapValues fun _ => wake j } k = false := by
    intro k hfree
    refine Bool.eq_false_iff.2 fun hheld => Bool.eq_false_iff.1 hfree ?_
    obtain ⟨t, task, hget, hholds⟩ := slotHeld_iff.1 hheld
    obtain ⟨task', hget', rfl⟩ := Table.of_get?_mapValues hget
    exact slotHeld_iff.2 ⟨t, task', hget', ((wake_aloof j task').2.1 k t).symm.trans hholds⟩
  refine ⟨fun k hk => ?_, fun t k hholds hk => hslot k (h.aborter t k hholds hk),
    fun t task hget hspawn => ?_, fun t task hget hclose => ?_, h.unskipped⟩
  · obtain ⟨task, hget, hlate⟩ := h.made k hk
    refine ⟨wake j task, ?_, (wake_aloof j task).1.trans hlate⟩
    rw [Table.get?_mapValues, hget]
    rfl
  · obtain ⟨task', hget', rfl⟩ := Table.of_get?_mapValues hget
    exact h.spawned t task' hget' ((wake_aloof j task').2.2.2.1 ▸ hspawn)
  · obtain ⟨task', hget', rfl⟩ := Table.of_get?_mapValues hget
    obtain ⟨hgone, huse⟩ := h.closing t task' hget' ((wake_aloof j task').2.2.2.2 ▸ hclose)
    obtain ⟨hslots, hlingers⟩ := inUse_eq_false_iff.1 huse
    refine ⟨hgone, inUse_eq_false_iff.2 ⟨fun k hk => hslot k (hslots k hk), fun t task hget => ?_⟩⟩
    obtain ⟨task', hget', rfl⟩ := Table.of_get?_mapValues hget
    exact ((wake_aloof j task').2.2.1 x).trans (hlingers t task' hget')

/-! ## The steps that pass a sink on -/

theorem ApartAt.opens (h : ApartAt f x) (hserved : Served f) {resource : ResolvedResource}
    (hget : f.tasks.get? t = some (.fetch uri (.build resource)))
    (hfresh : f.cells.get? txid = none) :
    ApartAt (f.opensSink t uri resource txid) x := by
  by_cases hx : x = txid
  · subst hx
    have hnone : f.holderOf x = none := by rw [holderOf, hfresh, Option.map_none]
    have hcell : (f.cells.insert x ⟨false, false, [], none, t, .fetch t⟩).get? x =
        some ⟨false, false, [], none, t, .fetch t⟩ := Table.get?_insert_self _ _ _
    refine ⟨fun k hk => ?_, fun t' k hholds => ?_, fun t' task' hget' hspawn => ?_,
      fun t' task' hget' hclose => ?_, h.unskipped⟩
    · rw [slotOf, opensSink, setTask, hcell] at hk
      cases hk
      exact ⟨_, Table.get?_insert_self _ _ _, rfl⟩
    · rw [holderOf, opensSink, setTask, hcell] at hholds
      cases hholds
    · rcases Table.of_get?_insert hget' with ⟨rfl, rfl⟩ | ⟨-, hget'⟩
      · cases hspawn
      · obtain ⟨t'', hholds⟩ := h.spawned t' task' hget' hspawn
        cases hnone.symm.trans hholds
    · rcases Table.of_get?_insert hget' with ⟨rfl, rfl⟩ | ⟨-, hget'⟩
      · cases hclose
      · cases hnone.symm.trans (closing_server hserved hget' hclose)
  · have hsame : (f.cells.insert txid ⟨false, false, [], none, t, .fetch t⟩).get? x =
        f.cells.get? x := Table.get?_insert_of_ne _ _ hx
    exact h.of_aloof hserved (congrArg (Option.map Cell.slot) hsame)
      (congrArg (Option.map Cell.holder) hsame) rfl h.unskipped rfl
      (.of_old hget (fun _ => rfl) (fun _ hk => hk) (fun h => by cases h)) rfl (fun h => by cases h)

/-- Before a sink is begun or aborted, its cell changes hands freely. -/
theorem ApartAt.passes (h : ApartAt f x) (hserved : Served f) {change : Cell → Cell}
    {first : Holder} (hholds : f.holderOf txid = some first) (hfirst : ∀ t, first ≠ .server t)
    (hcells : f'.cells = (f.setCell txid change).cells)
    (hslot : ∀ cell, (change cell).slot = cell.slot)
    (hnext : ∀ cell t', (change cell).holder ≠ .aborter t')
    (hbyTxid : ∀ y, y ≠ txid → f'.byTxid.get? y = f.byTxid.get? y)
    (hlog : .skipped x ∉ f'.log) (htasks : f'.tasks = f.tasks.insert t task)
    (haloof : Aloof f x t task)
    (hspawns : task.spawns = some x → ∃ t', f'.holderOf x = some (.server t'))
    (hclosing : task.closing = none) : ApartAt f' x := by
  have hholder : f'.holderOf x = (f.setCell txid change).holderOf x := holderOf_congr hcells
  rw [holderOf_setCell] at hholder
  have hother : ∀ t', f.holderOf x = some (.server t') → x ≠ txid := by
    intro t' hserver heq
    rw [heq, hholds, Option.some.injEq] at hserver
    exact hfirst t' hserver
  refine h.frame ?_ (fun t' hserver => ?_) (fun t' habort => .inl ?_) (fun t' hserver hnone => ?_)
    (fun t' task' hget hclose => closing_server hserved hget hclose) hlog htasks haloof hspawns
    (fun hclose => ?_)
  · have hslotOf : f'.slotOf x = (f.setCell txid change).slotOf x := by rw [slotOf, hcells, slotOf]
    exact hslotOf.trans (slotOf_setCell hslot)
  · rw [hholder, if_neg (hother t' hserver)]
    exact hserver
  · rw [hholder] at habort
    split at habort
    · obtain ⟨cell, -, heq⟩ := Option.map_eq_some_iff.1 habort
      exact absurd heq (hnext cell t')
    · exact habort
  · rw [hbyTxid x (hother t' hserver)]
    exact hnone
  · rw [hclosing] at hclose
    cases hclose

theorem ApartAt.hands (h : ApartAt f x) (hserved : Served f)
    {txidHex : String} (hget : f.tasks.get? t = some (.fetchBegin txidHex (.takeRx serving))) :
    ApartAt (f.spawnsServing t txidHex serving) x := by
  have hholds := hserved.taking t _ serving.txid hget rfl
  have hmoved : ApartAt (f.handsOver t txidHex serving) x := by
    refine h.passes hserved hholds nofun rfl (fun _ => rfl) nofun (fun _ _ => rfl) h.unskipped rfl
      (.of_old hget (fun _ => rfl) nofun fun hx => hx) (fun hspawn => ⟨f.next, ?_⟩) rfl
    cases hspawn
    obtain ⟨cell, hcell, -⟩ := Option.map_eq_some_iff.1 hholds
    exact (reads_of_get? (f := f.setCell serving.txid fun cell =>
      { cell with rxTaken := true, holder := .server f.next }) (get?_setCell_self hcell)).1
  refine hmoved.frame rfl (fun t' hserver => hserver) (fun t' habort => .inl habort)
    (fun t' _ hnone => hnone) (fun t' task' hget' hclose => ?_) h.unskipped rfl
    ⟨fun _ => rfl, nofun, nofun⟩ nofun nofun
  rcases Table.of_get?_insert hget' with ⟨rfl, rfl⟩ | ⟨-, hget'⟩
  · cases hclose
  · have hserver := closing_server hserved hget' hclose
    refine (holderOf_setCell.trans (if_neg fun heq => ?_)).trans hserver
    rw [heq] at hserver
    cases hholds.symm.trans hserver

theorem ApartAt.evicts (h : ApartAt f x) (hplaced : Placed f) (hserved : Served f)
    {txidHex : String} (hlisted : f.byTxid.get? txid = some serving)
    (hfree : f.begunOf serving.txid = false → f.inUse serving.txid = false) :
    ApartAt (((f.evict serving txid).setCell serving.txid fun cell =>
      if cell.begun then cell else { cell with holder := .aborter t }).setTask t
        (.fetchAbort txidHex (.swap serving))) x := by
  have hself := (hplaced.listed txid serving hlisted).1
  have hholder : (((f.evict serving txid).setCell serving.txid fun cell =>
      if cell.begun then cell else { cell with holder := .aborter t }).setTask t
        (.fetchAbort txidHex (.swap serving))).holderOf x =
      if x = serving.txid then (f.cells.get? serving.txid).map fun cell =>
        (if cell.begun then cell else { cell with holder := .aborter t }).holder
      else f.holderOf x := holderOf_setCell
  refine h.frame ?_ (fun t' hserver => ?_) (fun t' habort => ?_) (fun t' _ hnone => ?_)
    (fun t' task' hget' hclose => closing_server hserved hget' hclose) h.unskipped rfl
    ⟨fun _ => rfl, nofun, fun hlinger hnone => ?_⟩ nofun nofun
  · refine slotOf_setCell fun cell => ?_
    split <;> rfl
  · rw [hholder]
    split
    · next hx =>
      rw [hx] at hserver
      obtain ⟨cell, hcell, hkind⟩ := Option.map_eq_some_iff.1 hserver
      have hbegun := (hserved.begun _ cell hcell (by rw [hkind]; rfl)).1
      rw [hcell, Option.map_some, if_pos hbegun, hkind]
    · exact hserver
  · rw [hholder] at habort
    split at habort
    · next hx =>
      obtain ⟨cell, hcell, hkind⟩ := Option.map_eq_some_iff.1 habort
      split at hkind
      · refine .inl ?_
        rw [hx, holderOf, hcell, Option.map_some, hkind]
      · next hopen =>
        refine .inr fun k hk => ?_
        have hbegun : f.begunOf serving.txid = false := by
          rw [(reads_of_get? hcell).2.2.1]
          exact Bool.eq_false_iff.2 hopen
        exact (inUse_eq_false_iff.1 (hfree hbegun)).1 k (hx ▸ hk)
    · exact .inl habort
  · refine (Table.get?_erase _ _ _).trans ?_
    rw [hnone, ite_self]
  · have hx : serving.txid = x := of_decide_eq_true hlinger
    rw [← hx, hself, hlisted] at hnone
    cases hnone

/-! ## References -/

/-- A fetch that has a serving has the slot of its resolve. -/
theorem Answered.holdsServing (h : Answered f) (hget : f.tasks.get? t = some task)
    (hholds : holdsServing x task = true) :
    task.lingers x = true ∨ ∃ k, f.slotOf x = some k ∧ f.slotHeld k = true := by
  -- a serving the fetch itself has built, or one it has read from a slot
  have hbuilt : ∀ s : Serving, task.carries = some s → s.txid = x → holdsSlot t t task = true →
      ∃ k, f.slotOf x = some k ∧ f.slotHeld k = true := by
    intro s hcarries hs hslot
    exact ⟨t, hs ▸ h.carried t task s hget hcarries, slotHeld_iff.2 ⟨t, task, hget, hslot⟩⟩
  cases task with
  | fetch u pc =>
    refine .inr ?_
    cases pc with
    | publish outcome | fill outcome | notify outcome | returning outcome =>
      cases outcome with
      | ok s => exact hbuilt s rfl (of_decide_eq_true hholds) (decide_eq_true rfl)
      | error => cases hholds
    | answer k outcome =>
      cases outcome with
      | ok s =>
        have hs : s.txid = x := of_decide_eq_true hholds
        refine ⟨k, hs ▸ h.filled k s (h.reading t _ k _ hget rfl), ?_⟩
        exact slotHeld_iff.2 ⟨t, _, hget, decide_eq_true rfl⟩
      | error => cases hholds
    | check | recheck | resolve | build | wait | park | parked | done | cancelled => cases hholds
  | fetchBegin hex pc =>
    refine .inl ?_
    cases pc with
    | takeRx | spawned => exact hholds
    | lookup | done | cancelled => cases hholds
  | fetchAbort hex pc =>
    refine .inl ?_
    cases pc with
    | swap | signal | signalled => exact hholds
    | lookup | unwrap | aborting | done | cancelled => cases hholds
  | fetchFlow | serving => cases hholds

/-- A serving that is not listed and not in use is gone. -/
theorem servingAlive_eq_false (hsound : Sound f) (hgone : f.byTxid.get? x = none)
    (hfree : f.inUse x = false) : f.servingAlive x = false := by
  obtain ⟨hslots, hlingers⟩ := inUse_eq_false_iff.1 hfree
  have hunheld : ∀ k, f.slotOf x = some k → ¬ f.slotHeld k = true := fun k hk =>
    Bool.eq_false_iff.1 (hslots k hk)
  refine Bool.eq_false_iff.2 fun halive => ?_
  simp only [servingAlive, Bool.or_eq_true, List.any_eq_true, Table.mem_values] at halive
  rcases halive with ((⟨s, ⟨y, hget⟩, hs⟩ | ⟨entry, ⟨u, hget⟩, hentry⟩) |
    ⟨task, ⟨t, hget⟩, hholds⟩) | ⟨⟨k, slot⟩, hmem, hslot⟩
  · -- the transaction table
    have hs' : s.txid = x := of_decide_eq_true hs
    rw [← hs', (hsound.placed.listed y s hget).1, hget] at hgone
    cases hgone
  · -- the uri table
    cases entry with
    | resolving => cases hentry
    | ready s =>
      have hs : s.txid = x := of_decide_eq_true hentry
      rw [← hs, ((hsound.placed.ready u s).1 hget).1] at hgone
      cases hgone
  · -- a handler
    rcases hsound.answered.holdsServing hget hholds with hlinger | ⟨k, hk, hheld⟩
    · rw [hlingers t task hget] at hlinger
      cases hlinger
    · exact hunheld k hk hheld
  · -- a slot that is still around
    have hget := Table.mem_toList.1 hmem
    obtain ⟨hhas, halive⟩ := (Bool.and_eq_true _ _).mp hslot
    have hk : f.slotOf x = some k := by
      unfold ResolveSlot.hasServing at hhas
      split at hhas
      · next s hresult =>
        have hs : s.txid = x := of_decide_eq_true hhas
        rw [← hs]
        refine hsound.answered.filled k s ?_
        rw [resultOf, hget]
        exact hresult
      · cases hhas
    rw [slotAlive, Bool.or_eq_true] at halive
    rcases halive with hheld | hresolving
    · exact hunheld k hk hheld
    · obtain ⟨entry, hmem, hentry⟩ := List.any_eq_true.1 hresolving
      obtain ⟨u, hplaceholder⟩ := Table.mem_values.1 hmem
      rw [of_decide_eq_true hentry] at hplaceholder
      exact hunheld k hk (slotHeld_of_resolving hsound.placed hplaceholder)

/-- Who has an `Arc<BinarySink>` of its own holds the sink. -/
theorem holder_of_holdsSink (hserved : Served f) (howned : OwnedAt f x)
    (hget : f.tasks.get? t = some task) (hholds : holdsSink x task = true) :
    ∃ holder, f.holderOf x = some holder ∧ holder.task? = some t := by
  cases task with
  | fetchBegin hex pc =>
    cases pc with
    | takeRx s =>
      have hs : s.txid = x := of_decide_eq_true hholds
      exact ⟨_, hserved.taking t _ x hget (congrArg some hs), rfl⟩
    | lookup | spawned | done | cancelled => cases hholds
  | fetchAbort hex pc =>
    cases pc with
    | unwrap y =>
      have hy : y = x := of_decide_eq_true hholds
      exact ⟨_, (howned.entitled t _ hget).discards (congrArg some hy), rfl⟩
    | lookup | swap | signal | signalled | aborting | done | cancelled => cases hholds
  | serving u y pc =>
    have hy : y = x := by
      cases pc with
      | start | running | joining | evict | unwrap => exact of_decide_eq_true hholds
      | ending | done => cases hholds
    exact ⟨_, hserved.serving t _ x hget (congrArg some hy), rfl⟩
  | fetch | fetchFlow => cases hholds

/-- When an abort is to end a sink itself, no other handler has its
serving. -/
theorem ApartAt.of_discards (h : ApartAt f x) (hsound : Sound f) (howned : OwnedAt f x)
    (hget : f.tasks.get? t = some task) (hdiscards : task.discards = some x) :
    f.byTxid.get? x = none ∧ f.inUse x = false := by
  have hholds := (howned.entitled t task hget).discards hdiscards
  refine ⟨?_, inUse_eq_false_iff.2
    ⟨fun k hk => h.aborter t k hholds hk, fun t' task' hget' => ?_⟩⟩
  · cases hlisted : f.byTxid.get? x with
    | none => rfl
    | some s =>
      obtain ⟨-, holder, hholds', hlist⟩ := hsound.placed.listed x s hlisted
      rw [hholds, Option.some.injEq] at hholds'
      rw [← hholds'] at hlist
      cases hlist
  refine Bool.eq_false_iff.2 fun hlinger => ?_
  cases task' with
  | fetchBegin hex pc =>
    cases pc with
    | takeRx s =>
      have hs : s.txid = x := of_decide_eq_true hlinger
      cases hholds.symm.trans (hsound.served.taking t' _ x hget' (congrArg some hs))
    | spawned s =>
      have hs : s.txid = x := of_decide_eq_true hlinger
      obtain ⟨t'', hserver⟩ := h.spawned t' _ hget' (congrArg some hs)
      cases hholds.symm.trans hserver
    | lookup | done | cancelled => cases hlinger
  | fetchAbort hex pc =>
    have habort : (Task.fetchAbort hex pc).aborts = some x := by
      cases pc with
      | swap s | signal s | signalled s => exact congrArg some (of_decide_eq_true hlinger)
      | lookup | unwrap | aborting | done | cancelled => cases hlinger
    -- an abort that has the serving and is to end the sink has not unwrapped it
    obtain ⟨-, holder, hholds', hkind⟩ := (howned.entitled t' _ hget').aborts habort
    rw [hholds, Option.some.injEq] at hholds'
    rcases hkind with heq | hbegun
    · rw [heq, Holder.aborter.injEq] at hholds'
      rw [← hholds', hget, Option.some.injEq] at hget'
      rw [hget'] at hdiscards
      cases pc with
      | unwrap | aborting => cases habort
      | lookup | swap | signal | signalled | done | cancelled => cases hdiscards
    · rw [← hholds'] at hbegun
      cases hbegun
  | fetch | fetchFlow | serving => cases hlinger

/-- **The sink is not shared when it is unwrapped.** -/
theorem sinkShared_eq_false (hsound : Sound f) (howned : OwnedAt f x) (hapart : ApartAt f x)
    (hget : f.tasks.get? t = some task) (hunwraps : task.unwraps = some x) :
    f.sinkShared t x = false := by
  -- the task that unwraps the sink holds it, and all others have let go
  have hfacts : (∃ holder, f.holderOf x = some holder ∧ holder.task? = some t) ∧
      f.byTxid.get? x = none ∧ f.inUse x = false := by
    cases task with
    | serving u y pc =>
      cases pc <;> cases hunwraps
      exact ⟨⟨_, hsound.served.serving t _ x hget rfl, rfl⟩, hapart.closing t _ hget rfl⟩
    | fetchAbort hex pc =>
      cases pc <;> cases hunwraps
      exact ⟨⟨_, (howned.entitled t _ hget).discards rfl, rfl⟩,
        hapart.of_discards hsound howned hget rfl⟩
    | fetch | fetchBegin | fetchFlow => cases hunwraps
  obtain ⟨⟨holder, hholds, ht⟩, hgone, hfree⟩ := hfacts
  rw [sinkShared, servingAlive_eq_false hsound hgone hfree, Bool.false_or, List.any_eq_false]
  rintro ⟨t', task'⟩ hmem hshares
  obtain ⟨hne, hsink⟩ := (Bool.and_eq_true _ _).mp hshares
  obtain ⟨holder', hholds', ht'⟩ :=
    holder_of_holdsSink hsound.served howned (Table.mem_toList.1 hmem) hsink
  rw [hholds, Option.some.injEq] at hholds'
  rw [← hholds', ht, Option.some.injEq] at ht'
  exact of_decide_eq_true hne ht'.symm

/-! ## Runs -/

/-- The transaction the task is to take out of the tables in order to end
its sink. -/
def retires (f : FetchService) : Task → Option TxId
  | .serving _ x (.evict _) => some x
  | .fetchAbort txidHex .lookup =>
    match parseTransactionId txidHex with
    | .ok x => if (f.byTxid.get? x).isSome && !f.begunOf x then some x else none
    | .error _ => none
  | _ => none

/-- A serving is taken out of the tables to be ended when every handler that
has it, or the slot of its resolve, has returned; and no handler is dropped
while it owns a placeholder or a sink. -/
def Careful (f : FetchService) : Action → Prop
  | .cancel t => (f.tasks.get? t).all Task.droppable = true
  | .advance t => ((f.tasks.get? t).bind f.retires).all (fun txid => !f.inUse txid) = true
  | _ => True

instance decidableCareful : ∀ a, Decidable (Careful f a)
  | .cancel _ => inferInstanceAs (Decidable (_ = true))
  | .advance _ => inferInstanceAs (Decidable (_ = true))
  | .fetch .. | .fetchBegin .. | .fetchPause .. | .fetchResume .. | .fetchAbort .. | .resolved ..
  | .opened .. | .served .. | .control .. => isTrue trivial

theorem kept_of_careful (hsound : Sound f) (howned : ∀ x, OwnedAt f x) (hapart : ∀ x, ApartAt f x)
    (h : Careful f a) : Kept f a := by
  cases a with
  | cancel t => exact h
  | advance t =>
    refine (Option.all_eq_true _ _).2 fun x hbind => ?_
    obtain ⟨task, hget, hunwraps⟩ := Option.bind_eq_some_iff.1 hbind
    rw [sinkShared_eq_false hsound (howned x) (hapart x) hget hunwraps]
    rfl
  | fetch | fetchBegin | fetchPause | fetchResume | fetchAbort | resolved | opened | served
  | control => trivial

theorem Careful.free (h : Careful f (.advance t)) (hget : f.tasks.get? t = some task)
    (hretires : f.retires task = some x) : f.inUse x = false := by
  have hfree : ((f.tasks.get? t).bind f.retires).all (fun y => !f.inUse y) = true := h
  rw [hget, Option.bind_some, hretires, Option.all_some, Bool.not_eq_true'] at hfree
  exact hfree

/-- A serve that takes its serving out of the tables is alone with the
sink. -/
theorem ApartAt.removes (h : ApartAt f x) (hserved : Served f) {aborted : Bool}
    (hget : f.tasks.get? t = some (.serving uri txid (.evict aborted)))
    (hfree : f.inUse txid = false) :
    ApartAt ((f.removeServing txid).setTask t (.serving uri txid (.unwrap aborted))) x := by
  have hsame := f.sameBut_removeServing txid
  have hlisted : ∀ y, ((f.removeServing txid).setTask t
      (.serving uri txid (.unwrap aborted))).byTxid.get? y =
        if y = txid then none else f.byTxid.get? y := fun y => get?_removeServing
  have hcells : ((f.removeServing txid).setTask t (.serving uri txid (.unwrap aborted))).cells =
      f.cells := hsame.cells
  have hholder : ((f.removeServing txid).setTask t
      (.serving uri txid (.unwrap aborted))).holderOf x = f.holderOf x := holderOf_congr hcells
  refine h.frame (congrArg (fun cells => (cells.get? x).map Cell.slot) hsame.cells)
    (fun t' hserver => hholder.trans hserver) (fun t' habort => .inl (hholder.symm.trans habort))
    (fun t' _ hnone => ?_) (fun t' task' hget' hclose => closing_server hserved hget' hclose)
    (hsame.log ▸ h.unskipped) (congrArg (Table.insert · t _) hsame.tasks)
    (.of_old hget (fun _ => rfl) nofun nofun) nofun (fun hclose => .inr ?_)
  · rw [hlisted, hnone, ite_self]
  · cases hclose
    exact ⟨(hlisted _).trans (if_pos rfl), hfree⟩

theorem not_skipped_cons {e : Event} (h : .skipped x ∉ f.log) (he : e ≠ .skipped x) :
    .skipped x ∉ e :: f.log := fun hmem =>
  (List.mem_cons.1 hmem).elim (fun heq => he heq.symm) h

theorem apart_effect (h : ∀ x, ApartAt f x) (hsound : Sound f) (hcareful : Careful f a)
    (hkept : Kept f a) (heffect : Effect f a f') (x : TxId) : ApartAt f' x := by
  have hserved := hsound.served
  cases heffect with
  | spawns hbegins =>
    obtain ⟨haloof, hspawns, hclosing⟩ := aloof_of_begins hsound.placed.get?_next hbegins
    exact (h x).of_quiet hserved rfl rfl rfl (h x).unskipped rfl haloof hspawns hclosing
  | moves hget hmoves =>
    refine (h x).of_aloof hserved rfl rfl rfl (h x).unskipped rfl (hmoves.aloof hsound.placed hget)
      (hmoves.closing_eq (x := x)).1 fun hclose => ?_
    rw [hget]
    exact hmoves.closing_eq.2 hclose
  | cancels hget hcancel =>
    obtain ⟨haloof, hspawns, hclosing⟩ := aloof_of_cancelled hget hcancel
    exact (h x).of_quiet hserved rfl rfl rfl (h x).unskipped rfl haloof hspawns hclosing
  | @places t uri hget hnone =>
    refine (h x).of_quiet hserved rfl rfl rfl (h x).unskipped rfl
      ⟨fun _ => rfl, fun k hk hholds => ?_, fun h => by cases h⟩ rfl rfl
    -- the slot is new: its fetch had opened no sink
    have hkt : t = k := of_decide_eq_true hholds
    obtain ⟨task, hget', hlate⟩ := (h x).made k hk
    rw [← hkt, hget, Option.some.injEq] at hget'
    rw [← hget'] at hlate
    cases hlate
  | opens hget hfresh => exact (h x).opens hserved hget hfresh
  | @publishes t uri serving hget =>
    exact (h x).passes hserved (hsound.placed.built t _ uri serving hget rfl).2
      (fun _ h => by cases h) rfl (fun _ => rfl) (fun _ _ h => by cases h)
      (fun y hy => Table.get?_insert_of_ne _ _ hy) (h x).unskipped rfl
      (.of_slot hget rfl (fun _ => rfl) rfl) (fun h => by cases h) rfl
  | @retracts t uri e hget =>
    have hsame := f.sameBut_publish_error t uri e
    refine (h x).of_quiet hserved (congrArg (fun cells => (cells.get? x).map Cell.slot) hsame.cells)
      (congrArg (fun cells => (cells.get? x).map Cell.holder) hsame.cells)
      (f.byTxid_publish_error t uri e) ?_ (congrArg (Table.insert · t _) hsame.tasks)
      (.of_slot hget rfl (fun _ => rfl) rfl) rfl rfl
    exact hsame.log ▸ (h x).unskipped
  | fills hget =>
    exact (h x).of_quiet hserved rfl rfl rfl (h x).unskipped rfl
      (.of_slot hget rfl (fun _ => rfl) rfl) rfl rfl
  | @notifies t uri outcome hget =>
    exact ApartAt.of_quiet (h x).wakes hserved.wakes rfl rfl rfl (h x).unskipped rfl
      (.of_slot (get?_wakes_notify hget) rfl (fun _ => rfl) rfl) rfl rfl
  | @accepts t txidHex txid serving hget hparse hlisted hbegun =>
    obtain ⟨hself, htables⟩ := tables_of_listed hsound.placed hserved hlisted hbegun
    refine (h x).passes hserved htables (fun _ h => by cases h) rfl (fun _ => rfl)
      (fun _ _ h => by cases h) (fun _ _ => rfl)
      (not_skipped_cons (h x).unskipped fun h => by cases h) rfl
      ⟨fun _ => rfl, (fun _ _ h => by cases h), fun hlinger hnone => ?_⟩ (fun h => by cases h) rfl
    have hx : serving.txid = x := of_decide_eq_true hlinger
    rw [← hx, hself, hlisted] at hnone
    cases hnone
  | hands hget => exact (h x).hands hserved hget
  | controls change hget hcontrols =>
    cases hcontrols with
    | flow | keeps | stops =>
      exact (h x).of_quiet hserved (slotOf_setCell fun _ => rfl)
        (holderOf_setCell_of_same fun _ => rfl) rfl (h x).unskipped rfl
        (.of_plain rfl (fun _ => rfl) rfl) rfl rfl
    | signal =>
      exact (h x).of_quiet hserved (slotOf_setCell fun _ => rfl)
        (holderOf_setCell_of_same fun _ => rfl) rfl (h x).unskipped rfl
        (.of_old hget (fun _ => rfl) (fun _ hk => hk) fun hx => hx) rfl rfl
  | @evicts t txidHex txid serving hget hparse hlisted =>
    refine (h x).evicts hsound.placed hserved hlisted fun hbegun => ?_
    have hself := (hsound.placed.listed txid serving hlisted).1
    have hretires : f.retires (.fetchAbort txidHex .lookup) = some serving.txid := by
      rw [retires, hparse]
      simp only [hlisted, Option.isSome_some, Bool.true_and]
      rw [← hself, hbegun]
      rfl
    exact Careful.free hcareful hget hretires
  | claims hget =>
    exact (h x).of_quiet hserved (slotOf_setCell fun _ => rfl)
      (holderOf_setCell_of_same fun _ => rfl) rfl (h x).unskipped rfl
      (.of_plain rfl (fun _ => rfl) rfl) rfl rfl
  | skips hget hskips hshared => exact (hkept.not_skips hget hskips hshared).elim
  | starts hget =>
    exact (h x).of_quiet hserved rfl rfl rfl
      (not_skipped_cons (h x).unskipped fun h => by cases h) rfl
      (.of_plain rfl (fun _ => rfl) rfl) rfl rfl
  | removes hget => exact (h x).removes hserved hget (Careful.free hcareful hget rfl)
  | ends hget hends =>
    cases hends with
    | abort =>
      exact (h x).of_quiet hserved (slotOf_setCell fun _ => rfl)
        (holderOf_setCell_of_same fun _ => rfl) rfl
        (not_skipped_cons (h x).unskipped fun h => by cases h) rfl
        (.of_plain rfl (fun _ => rfl) rfl) rfl rfl
    | serving =>
      refine (h x).of_aloof hserved (slotOf_setCell fun _ => rfl)
        (holderOf_setCell_of_same fun _ => rfl) rfl
        (not_skipped_cons (h x).unskipped fun h => by cases h) rfl
        (.of_plain rfl (fun _ => rfl) rfl) rfl fun hclose => ?_
      rw [hget]
      exact hclose

theorem apart_of_run {acts : List Action} (hmeets : RunMeets step Careful new acts)
    (hrun : run step new acts = some f) :
    Sound f ∧ (∀ x, OwnedAt f x) ∧ ∀ x, ApartAt f x := by
  refine run_induct_of (I := fun f => Sound f ∧ (∀ x, OwnedAt f x) ∧ ∀ x, ApartAt f x) ?_
    ⟨sound_new, fun _ => ownedAt_new, fun _ => apartAt_new⟩ hmeets hrun
  rintro f a f' ⟨hsound, howned, hapart⟩ hcareful hstep
  have hkept := kept_of_careful hsound howned hapart hcareful
  have heffect := step_effect hstep
  exact ⟨hsound.effect (tidy_of_kept hkept) heffect,
    owned_effect howned hsound.placed hsound.served hkept heffect,
    apart_effect hapart hsound hcareful hkept heffect⟩

/-- **Every sink is ended exactly once** where a serving is taken out of the
tables only after the other handlers that have it have returned. No
`try_unwrap` finds the sink shared; a serving task that is through has ended
its sink, once, and before that nobody has; and an abort that found the gate
open has aborted the sink, or still has it in hand. -/
theorem sinks_end_once {acts : List Action} (hmeets : RunMeets step Careful new acts)
    (hrun : run step new acts = some f) :
    (∀ t task x, f.tasks.get? t = some task → task.unwraps = some x →
      f.sinkShared t x = false) ∧
    (∀ x, .skipped x ∉ f.log) ∧
    (∀ t uri x op, f.tasks.get? t = some (.serving uri x (.done op)) →
      ∃ terminal, op = some terminal ∧ f.terminals x = [terminal]) ∧
    (∀ t uri x pc, f.tasks.get? t = some (.serving uri x pc) → (∀ op, pc ≠ .done op) →
      f.terminals x = []) ∧
    (∀ t x, f.holderOf x = some (.aborter t) → f.terminals x = [.abort] ∨
      f.terminals x = [] ∧
        ∃ task, f.tasks.get? t = some task ∧ task.inHand x (f.begunOf x) = true) := by
  obtain ⟨hsound, howned, hapart⟩ := apart_of_run hmeets hrun
  refine ⟨fun t task x hget => sinkShared_eq_false hsound (howned x) (hapart x) hget,
    fun x => (hapart x).unskipped, fun t uri x op hget => ?_, fun t uri x pc hget hrunning => ?_,
    fun t x hholds => ?_⟩
  · have hholds := hsound.served.serving t _ x hget rfl
    have hheld := (howned x).held _ t hholds rfl
    have hended := ((howned x).entitled t _ hget).through op rfl
    rw [hget, hended] at hheld
    cases op with
    | none => cases hheld
    | some terminal =>
      refine ⟨terminal, rfl, ?_⟩
      rw [(howned x).logged, hended]
      rfl
  · have hholds := hsound.served.serving t _ x hget rfl
    have hhand : (Task.serving uri x pc).inHand x (f.begunOf x) = true := by
      cases pc with
      | done op => exact absurd rfl (hrunning op)
      | start | running | joining | evict | unwrap | ending => exact decide_eq_true rfl
    rw [(howned x).logged, (howned x).not_ended hholds rfl hget hhand]
    rfl
  · have hheld := (howned x).held _ t hholds rfl
    rcases (howned x).aborted t hholds with hopen | haborted
    · refine .inr ⟨?_, ?_⟩
      · rw [(howned x).logged, hopen]
        rfl
      · rw [hopen] at hheld
        exact (Option.any_eq_true _ _).1 hheld
    · refine .inl ?_
      rw [(howned x).logged, haborted]
      rfl

namespace Sample

/-- Task 0 fetches the resource and returns. -/
def fetched : List Action :=
  [.fetch "res", .advance 0, .advance 0] ++ resolving ++ [.advance 0]

/-- Task 1 begins it: task 2 is its serving task. -/
def begun : List Action :=
  fetched ++ [.fetchBegin (formatTransactionId zeroId), .advance 1, .advance 1]

/-- The begin returns, and the serving task serves and finishes. -/
def finished : List Action :=
  begun ++ [.advance 1, .advance 2, .served 2 true, .advance 2, .advance 2, .advance 2]

end Sample

theorem sinks_end_once_sample :
    ∃ f, run step new Sample.finished = some f ∧
      f.tasks.get? 2 = some (.serving "res" zeroId (.done (some .finish))) ∧
      f.terminals zeroId = [.finish] := by
  have hmeets : RunMeets step Careful new Sample.finished := by decide +kernel
  obtain ⟨f, hrun, hdone⟩ : ∃ f, run step new Sample.finished = some f ∧
      f.tasks.get? 2 = some (.serving "res" zeroId (.done (some .finish))) := by decide +kernel
  obtain ⟨terminal, heq, hterminals⟩ :=
    (sinks_end_once hmeets hrun).2.2.1 2 "res" zeroId (some .finish) hdone
  cases heq
  exact ⟨_, hrun, hdone, hterminals⟩

/-- The serving task is through before the begin that spawned it has
returned: its terminal operation is skipped. And an abort, by who has found
the entry ready, before the resolving fetch has returned skips its own. -/
theorem ended_while_shared :
    (∃ f, run step new (Sample.begun ++
        [.advance 2, .served 2 true, .advance 2, .advance 2]) = some f ∧
      f.tasks.get? 2 = some (.serving "res" zeroId (.done none)) ∧ f.terminals zeroId = [] ∧
      .skipped zeroId ∈ f.log) ∧
    ∃ f, run step new ([.fetch "res", .advance 0, .advance 0, .resolved 0 (.ok Sample.resource),
        .opened 0 (.ok zeroId), .advance 0, .fetch "res", .advance 1,
        .fetchAbort (formatTransactionId zeroId), .advance 2, .advance 2, .advance 2]) = some f ∧
      f.holderOf zeroId = some (.aborter 2) ∧
      f.tasks.get? 2 = some (.fetchAbort (formatTransactionId zeroId) (.done .acknowledge)) ∧
      f.terminals zeroId = [] ∧ .skipped zeroId ∈ f.log := by
  decide +kernel

end FetchService

end Fetch

end Xacpp
