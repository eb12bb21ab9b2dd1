import Xacpp.Fetch.Steps
/-!
# The tables of the fetch service

A placeholder in `by_uri` is that of a fetch that has still to publish, and
there is one for each such fetch (`Placed.resolving`); so a uri is resolved
by one fetch at a time, and that fetch swaps its own placeholder. The two
tables list the same servings (`Placed.ready`): a serving is published into
both, and every way out of them takes it from both.
-/

namespace Xacpp

namespace Fetch

/-- The fetch has a placeholder for the uri. -/
def Task.owns (uri : String) : Task → Bool
  | .fetch u .resolve | .fetch u (.build _) | .fetch u (.publish _) => decide (u = uri)
  | _ => false

/-- The serving the fetch has built and not yet published. -/
def Task.built : Task → Option (String × Serving)
  | .fetch uri (.publish (.ok s)) => some (uri, s)
  | _ => none

/-- The sink is that of a serving in the tables. -/
def Holder.listed : Holder → Bool
  | .tables | .taker _ | .server _ => true
  | .fetch _ | .aborter _ => false

namespace FetchService

variable {f f' : FetchService} {t : ℕ} {task old : Task} {a : Action} {uri : String}
  {serving : Serving} {txid : TxId}

/-- Who is to end the sink of a transaction. -/
def holderOf (f : FetchService) (txid : TxId) : Option Holder := (f.cells.get? txid).map Cell.holder

theorem holderOf_congr (h : f'.cells = f.cells) : f'.holderOf txid = f.holderOf txid := by
  rw [holderOf, h, holderOf]

theorem map_setCell {β : Type*} {g : Cell → β} {change : Cell → Cell} {x : TxId} :
    ((f.setCell txid change).cells.get? x).map g =
      if x = txid then (f.cells.get? txid).map fun cell => g (change cell)
      else (f.cells.get? x).map g := by
  rw [setCell, Table.get?_modify]
  split
  · rw [Option.map_map]
    rfl
  · rfl

/-- A change that leaves alone what is read of a cell. -/
theorem map_setCell_of_same {β : Type*} {g : Cell → β} {change : Cell → Cell} {x : TxId}
    (hsame : ∀ cell, g (change cell) = g cell) :
    ((f.setCell txid change).cells.get? x).map g = (f.cells.get? x).map g := by
  rw [map_setCell]
  split
  · next hx => simp only [hsame, hx]
  · rfl

theorem holderOf_setCell {change : Cell → Cell} {x : TxId} :
    (f.setCell txid change).holderOf x =
      if x = txid then (f.cells.get? txid).map fun cell => (change cell).holder
      else f.holderOf x := map_setCell

/-- A cell after a change is one before it, or the one changed. -/
theorem of_get?_setCell {change : Cell → Cell} {x : TxId} {cell : Cell}
    (h : (f.setCell txid change).cells.get? x = some cell) :
    ∃ cell', f.cells.get? x = some cell' ∧ (cell = cell' ∨ x = txid ∧ cell = change cell') := by
  rw [setCell, Table.get?_modify] at h
  split at h
  · next hx =>
    obtain ⟨cell', hcell', rfl⟩ := Option.map_eq_some_iff.1 h
    exact ⟨cell', hx ▸ hcell', .inr ⟨hx, rfl⟩⟩
  · exact ⟨cell, h, .inl rfl⟩

/-- A change that leaves the holder alone. -/
theorem holderOf_setCell_of_same {change : Cell → Cell} {x : TxId}
    (hsame : ∀ cell, (change cell).holder = cell.holder) :
    (f.setCell txid change).holderOf x = f.holderOf x := map_setCell_of_same hsame

/-- **What the tables list.** -/
structure Placed (f : FetchService) : Prop where
  fresh : ∀ t task, f.tasks.get? t = some task → t < f.next
  resolving : ∀ uri t, f.byUri.get? uri = some (.resolving t) ↔
    (f.tasks.get? t).any (Task.owns uri) = true
  ready : ∀ uri serving, f.byUri.get? uri = some (.ready serving) ↔
    f.byTxid.get? serving.txid = some serving ∧ serving.uri = uri
  listed : ∀ txid serving, f.byTxid.get? txid = some serving →
    serving.txid = txid ∧ ∃ holder, f.holderOf txid = some holder ∧ holder.listed = true
  built : ∀ t task uri serving, f.tasks.get? t = some task → task.built = some (uri, serving) →
    serving.uri = uri ∧ f.holderOf serving.txid = some (.fetch t)

theorem placed_new : Placed new where
  fresh t task h := by simp at h
  resolving uri t := by simp
  ready uri serving := by simp
  listed txid serving h := by simp at h
  built t task uri serving h := by simp at h

theorem fresh_insert {next : ℕ} (hfresh : ∀ t task, f.tasks.get? t = some task → t < f.next)
    (hnext : f.next ≤ next) (ht : t < next) :
    ∀ t' task', (f.tasks.insert t task).get? t' = some task' → t' < next := by
  intro t' task' hget
  rw [Table.get?_insert] at hget
  split at hget
  · omega
  · have hlt := hfresh t' task' hget
    omega

/-- A task goes on, the tables being what they were; who holds the sink of a
listed serving may change. -/
theorem Placed.of_insert (h : Placed f) (huri : f'.byUri = f.byUri) (htxid : f'.byTxid = f.byTxid)
    (hlisted : ∀ x holder, f.holderOf x = some holder → holder.listed = true →
      ∃ holder', f'.holderOf x = some holder' ∧ holder'.listed = true)
    (hfetch : ∀ x t, f.holderOf x = some (.fetch t) → f'.holderOf x = some (.fetch t))
    (hnext : f.next ≤ f'.next) (htasks : f'.tasks = f.tasks.insert t task) (ht : t < f'.next)
    (howns : ∀ uri, task.owns uri = (f.tasks.get? t).any (Task.owns uri))
    (hbuilt : task.built = none) : Placed f' := by
  refine ⟨?_, fun uri t' => ?_, ?_, fun x serving hget => ?_,
    fun t' task' uri serving hget hb => ?_⟩
  · rw [htasks]
    exact fresh_insert h.fresh hnext ht
  · rw [huri, h.resolving, htasks, Table.get?_insert]
    split
    · next heq => rw [heq, Option.any_some, howns]
    · rfl
  · rw [huri, htxid]
    exact h.ready
  · rw [htxid] at hget
    obtain ⟨hx, holder, hholds, hlist⟩ := h.listed x serving hget
    exact ⟨hx, hlisted x holder hholds hlist⟩
  · rw [htasks, Table.get?_insert] at hget
    split at hget
    · cases hget
      rw [hbuilt] at hb
      cases hb
    · obtain ⟨hu, hholds⟩ := h.built t' task' uri serving hget hb
      exact ⟨hu, hfetch _ _ hholds⟩

/-- The same for a task that had started, and holders that stay. -/
theorem Placed.of_moved (h : Placed f) (hget : f.tasks.get? t = some old)
    (huri : f'.byUri = f.byUri) (htxid : f'.byTxid = f.byTxid)
    (hholder : ∀ x, f'.holderOf x = f.holderOf x) (hnext : f'.next = f.next)
    (htasks : f'.tasks = f.tasks.insert t task) (howns : ∀ uri, task.owns uri = old.owns uri)
    (hbuilt : task.built = none) : Placed f' := by
  refine h.of_insert huri htxid (fun x holder hholds hlist => ⟨holder, ?_, hlist⟩)
    (fun x t hholds => ?_) hnext.ge htasks (hnext ▸ h.fresh t old hget) (fun uri => ?_) hbuilt
  · rw [hholder, hholds]
  · rw [hholder, hholds]
  · rw [hget, Option.any_some]
    exact howns uri

theorem owns_of_begins (h : task.Begins) :
    (∀ uri, task.owns uri = false) ∧ task.built = none := by
  cases task with
  | fetch u pc =>
    have hpc : pc = .check := h
    rw [hpc]
    exact ⟨fun _ => rfl, rfl⟩
  | fetchBegin | fetchFlow | fetchAbort | serving => exact ⟨fun _ => rfl, rfl⟩

theorem owns_of_cancelled (h : cancelled old = some task) :
    (∀ uri, task.owns uri = false) ∧ task.built = none := by
  unfold cancelled at h
  split at h <;> cases h <;> exact ⟨fun _ => rfl, rfl⟩

theorem Placed.get?_next (h : Placed f) : f.tasks.get? f.next = none := by
  cases hget : f.tasks.get? f.next with
  | none => rfl
  | some task => exact absurd (h.fresh f.next task hget) (Nat.lt_irrefl _)

theorem Placed.spawns (h : Placed f) (howns : ∀ uri, task.owns uri = false)
    (hbuilt : task.built = none) : Placed (f.spawn task) := by
  refine h.of_insert rfl rfl (fun x holder hholds hlist => ⟨holder, hholds, hlist⟩)
    (fun x t hholds => hholds) (Nat.le_succ _) rfl (Nat.lt_succ_self _) (fun uri => ?_) hbuilt
  rw [h.get?_next]
  exact howns uri

/-- A fetch without an entry puts its placeholder there. -/
theorem Placed.places (h : Placed f) (hget : f.tasks.get? t = some (.fetch uri .recheck))
    (hnone : f.byUri.get? uri = none) :
    Placed ({ f with
      byUri := f.byUri.insert uri (.resolving t)
      slots := f.slots.insert t ⟨none, false⟩ }.setTask t (.fetch uri .resolve)) := by
  refine ⟨fun t' task' hget' => ?_, fun u t' => ?_, fun u serving => ?_, h.listed,
    fun t' task' u serving hget' hb => ?_⟩
  · exact fresh_insert h.fresh (Nat.le_refl _) (h.fresh t _ hget) t' task' hget'
  · simp only [setTask, Table.get?_insert]
    by_cases hu : u = uri
    · -- the fetches that own the uri: this one, and none before
      subst hu
      have hothers : (f.tasks.get? t').any (Task.owns u) = false := by
        rw [Bool.eq_false_iff, ne_eq, ← h.resolving, hnone]
        exact fun h => by cases h
      by_cases ht : t' = t
      · subst ht
        simp [Task.owns]
      · rw [if_pos rfl, if_neg ht, hothers]
        simp [Ne.symm ht]
    · rw [if_neg hu, h.resolving]
      by_cases ht : t' = t
      · rw [ht, if_pos rfl, hget]
        simp [Task.owns, Ne.symm hu]
      · rw [if_neg ht]
  · simp only [setTask, Table.get?_insert]
    by_cases hu : u = uri
    · subst hu
      rw [if_pos rfl]
      refine iff_of_false (fun h => by cases h) fun hlisted => ?_
      have hready := (h.ready u serving).2 hlisted
      rw [hnone] at hready
      cases hready
    · rw [if_neg hu]
      exact h.ready u serving
  · rw [setTask, Table.get?_insert] at hget'
    split at hget'
    · cases hget'
      cases hb
    · exact h.built t' task' u serving hget' hb

/-- The sink it opens is nobody else's. -/
theorem Placed.opens (h : Placed f) {resource : ResolvedResource}
    (hget : f.tasks.get? t = some (.fetch uri (.build resource)))
    (hfresh : f.cells.get? txid = none) :
    Placed (f.opensSink t uri resource txid) := by
  have hnone : f.holderOf txid = none := by rw [holderOf, hfresh]; rfl
  have hholder : ∀ x, x ≠ txid → (f.opensSink t uri resource txid).holderOf x = f.holderOf x := by
    intro x hx
    rw [holderOf, opensSink, setTask, Table.get?_insert_of_ne _ _ hx]
    rfl
  refine ⟨fun t' task' hget' => ?_, fun u t' => ?_, h.ready, fun x s hlisted => ?_,
    fun t' task' u s hget' hb => ?_⟩
  · exact fresh_insert h.fresh (Nat.le_refl _) (h.fresh t _ hget) t' task' hget'
  · simp only [setTask, Table.get?_insert]
    rw [h.resolving]
    by_cases ht : t' = t
    · rw [ht, if_pos rfl, hget]
      rfl
    · rw [if_neg ht]
  · obtain ⟨htxid, holder, hholds, hlist⟩ := h.listed x s hlisted
    have hx : x ≠ txid := fun hx => by
      rw [hx, hnone] at hholds
      cases hholds
    exact ⟨htxid, holder, (hholder x hx).trans hholds, hlist⟩
  · rw [opensSink, setTask, Table.get?_insert] at hget'
    split at hget'
    · next heq =>
      cases hget'
      cases hb
      refine ⟨rfl, ?_⟩
      rw [heq, holderOf, opensSink, setTask]
      exact congrArg _ (Table.get?_insert_self _ _ _)
    · obtain ⟨hu, hholds⟩ := h.built t' task' u s hget' hb
      have hx : s.txid ≠ txid := fun hx => by
        rw [hx, hnone] at hholds
        cases hholds
      exact ⟨hu, (hholder _ hx).trans hholds⟩

theorem Placed.own_entry (h : Placed f) {outcome : Except XacppError Serving}
    (hget : f.tasks.get? t = some (.fetch uri (.publish outcome))) :
    f.byUri.get? uri = some (.resolving t) := by
  rw [h.resolving, hget]
  exact decide_eq_true rfl

/-- With the placeholder the fetch leaves the owners. -/
theorem Placed.resolving_published (h : Placed f) {outcome : Except XacppError Serving}
    (hget : f.tasks.get? t = some (.fetch uri (.publish outcome))) (entry : Option UriEntry)
    (hentry : ∀ k, entry ≠ some (.resolving k)) (u : String) (t' : ℕ) :
    (if u = uri then entry else f.byUri.get? u) = some (.resolving t') ↔
      ((f.tasks.insert t (.fetch uri (.fill outcome))).get? t').any (Task.owns u) = true := by
  rw [Table.get?_insert]
  by_cases hu : u = uri
  · rw [if_pos hu]
    refine iff_of_false (hentry t') fun howner => ?_
    split at howner
    · cases howner
    · next ht =>
      rw [← h.resolving, hu, h.own_entry hget, Option.some.injEq,
        UriEntry.resolving.injEq] at howner
      exact ht howner.symm
  · rw [if_neg hu, h.resolving]
    by_cases ht : t' = t
    · rw [ht, if_pos rfl, hget]
      simp [Task.owns, Ne.symm hu]
    · rw [if_neg ht]

/-- The serving enters both tables. -/
theorem Placed.ready_published (h : Placed f)
    (hget : f.tasks.get? t = some (.fetch uri (.publish (.ok serving))))
    (hnone : f.byTxid.get? serving.txid = none) (u : String) (s : Serving) :
    (f.byUri.insert uri (.ready serving)).get? u = some (.ready s) ↔
      (f.byTxid.insert serving.txid serving).get? s.txid = some s ∧ s.uri = u := by
  have hentry := h.own_entry hget
  have huri := (h.built t _ uri serving hget rfl).1
  rw [Table.get?_insert, Table.get?_insert]
  by_cases hs : s = serving
  · subst hs
    rw [if_pos rfl]
    by_cases hu : u = uri
    · simp [hu, huri]
    · rw [if_neg hu]
      refine iff_of_false (fun hready => ?_) fun hlisted => hu (hlisted.2.symm.trans huri)
      rw [h.ready, hnone] at hready
      exact absurd hready.1 nofun
  · have hleft : f.byUri.get? u = some (.ready s) ↔
        (if u = uri then some (.ready serving) else f.byUri.get? u) = some (.ready s) := by
      by_cases hu : u = uri
      · rw [if_pos hu, hu, hentry]
        simp [Ne.symm hs]
      · rw [if_neg hu]
    have hright : (if s.txid = serving.txid then some serving else f.byTxid.get? s.txid) =
        some s ↔ f.byTxid.get? s.txid = some s := by
      by_cases hx : s.txid = serving.txid
      · rw [if_pos hx, hx, hnone]
        simp [Ne.symm hs]
      · rw [if_neg hx]
    rw [← hleft, hright]
    exact h.ready u s

/-- The fetch swaps its own placeholder. -/
theorem Placed.publishes (h : Placed f)
    (hget : f.tasks.get? t = some (.fetch uri (.publish (.ok serving)))) :
    Placed ((f.publish t uri (.ok serving)).setTask t (.fetch uri (.fill (.ok serving)))) := by
  obtain ⟨huri, hholds⟩ := h.built t _ uri serving hget rfl
  have hnone : f.byTxid.get? serving.txid = none := by
    cases hlisted : f.byTxid.get? serving.txid with
    | none => rfl
    | some s =>
      obtain ⟨-, holder, hholds', hlist⟩ := h.listed _ s hlisted
      rw [hholds, Option.some.injEq] at hholds'
      rw [← hholds'] at hlist
      cases hlist
  have hholder : ∀ x, ((f.publish t uri (.ok serving)).setTask t
      (.fetch uri (.fill (.ok serving)))).holderOf x =
        if x = serving.txid then some .tables else f.holderOf x := by
    intro x
    refine (holderOf_setCell (x := x)).trans ?_
    split
    · obtain ⟨cell, hcell, -⟩ := Option.map_eq_some_iff.1 hholds
      have hcell' : f.cells.get? serving.txid = some cell := hcell
      rw [hcell']
      rfl
    · rfl
  refine ⟨fun t' task' hget' => ?_, fun u t' => ?_, fun u s => ?_, fun x s hlisted => ?_,
    fun t' task' u s hget' hb => ?_⟩
  · exact fresh_insert h.fresh (Nat.le_refl _) (h.fresh t _ hget) t' task' hget'
  · refine Iff.trans ?_ (h.resolving_published hget (some (.ready serving))
      (fun _ h => by cases h) u t')
    rw [← Table.get?_insert]
    rfl
  · exact h.ready_published hget hnone u s
  · rw [hholder]
    change (f.byTxid.insert serving.txid serving).get? x = some s at hlisted
    rw [Table.get?_insert] at hlisted
    split at hlisted
    · next hx =>
      cases hlisted
      exact ⟨hx.symm, .tables, if_pos hx, rfl⟩
    · next hx =>
      rw [if_neg hx]
      exact h.listed x s hlisted
  · change (f.tasks.insert t (.fetch uri (.fill (.ok serving)))).get? t' = some task' at hget'
    rw [Table.get?_insert] at hget'
    split at hget'
    · cases hget'
      cases hb
    · next ht =>
      obtain ⟨hu, hholds'⟩ := h.built t' task' u s hget' hb
      have hx : s.txid ≠ serving.txid := fun hx => by
        rw [hx, hholds, Option.some.injEq, Holder.fetch.injEq] at hholds'
        exact ht hholds'.symm
      rw [hholder, if_neg hx]
      exact ⟨hu, hholds'⟩

/-- Or it takes it away. -/
theorem Placed.retracts (h : Placed f) {e : XacppError}
    (hget : f.tasks.get? t = some (.fetch uri (.publish (.error e)))) :
    Placed ((f.publish t uri (.error e)).setTask t (.fetch uri (.fill (.error e)))) := by
  have hentry := h.own_entry hget
  have hpublish : f.publish t uri (.error e) = { f with byUri := f.byUri.erase uri } := by
    rw [publish, if_pos hentry]
  rw [hpublish]
  refine ⟨fun t' task' hget' => ?_, fun u t' => ?_, fun u s => ?_, h.listed,
    fun t' task' u s hget' hb => ?_⟩
  · exact fresh_insert h.fresh (Nat.le_refl _) (h.fresh t _ hget) t' task' hget'
  · refine Iff.trans ?_ (h.resolving_published hget none (fun _ h => by cases h) u t')
    rw [← Table.get?_erase]
    rfl
  · simp only [setTask, Table.get?_erase]
    by_cases hu : u = uri
    · rw [if_pos hu, ← h.ready, hu, hentry]
      exact iff_of_false (fun h => by cases h) fun h => by cases h
    · rw [if_neg hu]
      exact h.ready u s
  · rw [setTask, Table.get?_insert] at hget'
    split at hget'
    · cases hget'
      cases hb
    · exact h.built t' task' u s hget' hb

/-- A listed serving leaves both tables. -/
theorem Placed.evict_eq (h : Placed f) (hlisted : f.byTxid.get? txid = some serving) :
    f.evict serving txid = { f with
      byTxid := f.byTxid.erase txid
      byUri := f.byUri.erase serving.uri } := by
  obtain ⟨htxid, -⟩ := h.listed txid serving hlisted
  have hready : f.byUri.get? serving.uri = some (.ready serving) :=
    (h.ready serving.uri serving).2 ⟨htxid ▸ hlisted, rfl⟩
  have hself : ((f.byUri.get? serving.uri).map (UriEntry.isServing txid)).getD false = true := by
    rw [hready]
    exact decide_eq_true htxid
  rw [evict, if_pos hself]

theorem Placed.evicted (h : Placed f) (hlisted : f.byTxid.get? txid = some serving)
    (hget : f.tasks.get? t = some old) (huri : f'.byUri = f.byUri.erase serving.uri)
    (htxid : f'.byTxid = f.byTxid.erase txid)
    (hholder : ∀ x, x ≠ txid → f'.holderOf x = f.holderOf x) (hnext : f'.next = f.next)
    (htasks : f'.tasks = f.tasks.insert t task) (hold : ∀ uri, old.owns uri = false)
    (howns : ∀ uri, task.owns uri = false) (hbuilt : task.built = none) : Placed f' := by
  obtain ⟨hself, holder, hholds, hlist⟩ := h.listed txid serving hlisted
  have hready : f.byUri.get? serving.uri = some (.ready serving) :=
    (h.ready serving.uri serving).2 ⟨hself ▸ hlisted, rfl⟩
  refine ⟨?_, fun u t' => ?_, fun u s => ?_, fun x s hget' => ?_, fun t' task' u s hget' hb => ?_⟩
  · rw [htasks]
    exact fresh_insert h.fresh hnext.ge (hnext ▸ h.fresh t old hget)
  · have howner : ((f.tasks.insert t task).get? t').any (Task.owns u) =
        (f.tasks.get? t').any (Task.owns u) := by
      rw [Table.get?_insert]
      split
      · next ht => rw [ht, hget, Option.any_some, Option.any_some, howns, hold]
      · rfl
    rw [huri, htasks, howner, ← h.resolving, Table.get?_erase]
    by_cases hu : u = serving.uri
    · rw [if_pos hu, hu, hready]
      exact iff_of_false (fun h => by cases h) fun h => by cases h
    · rw [if_neg hu]
  · rw [huri, htxid, Table.get?_erase, Table.get?_erase]
    by_cases hs : s = serving
    · subst hs
      rw [if_pos hself]
      refine iff_of_false (fun hentry => ?_) fun hlisted => absurd hlisted.1 fun h => by cases h
      split at hentry
      · cases hentry
      · next hu => exact hu ((h.ready u s).1 hentry).2.symm
    · -- another serving has another uri and another id
      have hleft : f.byUri.get? u = some (.ready s) → u ≠ serving.uri := by
        intro hentry hu
        rw [hu, hready, Option.some.injEq, UriEntry.ready.injEq] at hentry
        exact hs hentry.symm
      have hright : f.byTxid.get? s.txid = some s → s.txid ≠ txid := by
        intro hentry hx
        rw [hx, hlisted, Option.some.injEq] at hentry
        exact hs hentry.symm
      constructor
      · intro hentry
        split at hentry
        · cases hentry
        · have hboth := (h.ready u s).1 hentry
          exact ⟨by rw [if_neg (hright hboth.1)]; exact hboth.1, hboth.2⟩
      · rintro ⟨hentry, hu⟩
        split at hentry
        · cases hentry
        · have hback := (h.ready u s).2 ⟨hentry, hu⟩
          rw [if_neg (hleft hback)]
          exact hback
  · rw [htxid] at hget'
    obtain ⟨hx, hlisted⟩ := Table.of_get?_erase hget'
    rw [hholder x hx]
    exact h.listed x s hlisted
  · rw [htasks, Table.get?_insert] at hget'
    split at hget'
    · cases hget'
      rw [hbuilt] at hb
      cases hb
    · obtain ⟨hu, hfetch⟩ := h.built t' task' u s hget' hb
      have hx : s.txid ≠ txid := fun hx => by
        rw [hx, hholds, Option.some.injEq] at hfetch
        rw [hfetch] at hlist
        cases hlist
      exact ⟨hu, (hholder _ hx).trans hfetch⟩

/-- The wake-up moves waiters only. -/
theorem wake_owns (k : ℕ) (task : Task) :
    (∀ uri, (wake k task).owns uri = task.owns uri) ∧ (wake k task).built = task.built := by
  unfold wake
  split
  · split <;> exact ⟨fun _ => rfl, rfl⟩
  · exact ⟨fun _ => rfl, rfl⟩

theorem Placed.wakes (h : Placed f) {k : ℕ} {slots : Table ℕ ResolveSlot} :
    Placed { f with slots := slots, tasks := f.tasks.mapValues fun _ => wake k } := by
  refine ⟨fun t task hget => ?_, fun u t => ?_, h.ready, h.listed, fun t task u s hget hb => ?_⟩
  · obtain ⟨task', hget', -⟩ := Table.of_get?_mapValues hget
    exact h.fresh t task' hget'
  · rw [h.resolving, Table.get?_mapValues]
    cases f.tasks.get? t with
    | none => rfl
    | some task =>
      rw [Option.map_some, Option.any_some, Option.any_some, (wake_owns k task).1]
  · obtain ⟨task', hget', rfl⟩ := Table.of_get?_mapValues hget
    rw [(wake_owns k task').2] at hb
    exact h.built t task' u s hget' hb

/-- The gate of a listed serving changes hands. -/
theorem Placed.holds (h : Placed f) {x : TxId} {holder : Holder} (holder' : Holder)
    (hget : f.tasks.get? t = some old) (hholds : f.holderOf x = some holder)
    (hlist : holder.listed = true) (hlist' : holder'.listed = true)
    (huri : f'.byUri = f.byUri) (htxid : f'.byTxid = f.byTxid)
    (hholder : ∀ y, f'.holderOf y = if y = x then some holder' else f.holderOf y)
    (hnext : f'.next = f.next) (htasks : f'.tasks = f.tasks.insert t task)
    (howns : ∀ uri, task.owns uri = old.owns uri) (hbuilt : task.built = none) : Placed f' := by
  refine h.of_insert huri htxid (fun y other hy hother => ?_) (fun y t' hy => ?_) hnext.ge htasks
    (hnext ▸ h.fresh t old hget) (fun uri => ?_) hbuilt
  · rw [hholder]
    split
    · exact ⟨holder', rfl, hlist'⟩
    · exact ⟨other, hy, hother⟩
  · rw [hholder, if_neg fun heq => ?_]
    · exact hy
    · rw [heq, hholds, Option.some.injEq] at hy
      rw [hy] at hlist
      cases hlist
  · rw [hget, Option.any_some]
    exact howns uri

end FetchService

end Fetch

end Xacpp
