import Xacpp.Fetch.Tables
/-!
# The gate of a serving

The gate of a transaction is taken under the lock of the tables, so one
begin gets it, and the serving task that begin spawns starts the provider
once (`Served`). The tables (`Placed`) stay as they should where no fetch
with a placeholder is cancelled (`Tidy`).
-/

namespace Xacpp

namespace Fetch

/-- The transaction whose gate the begin has taken, before it spawns. -/
def Task.takes : Task → Option TxId
  | .fetchBegin _ (.takeRx s) => some s.txid
  | _ => none

/-- The transaction of a serving task. -/
def Task.serves : Task → Option TxId
  | .serving _ txid _ => some txid
  | _ => none

/-- A serving task that has started its provider. -/
def Task.hasStarted (txid : TxId) : Task → Bool
  | .serving _ x pc => decide (x = txid) && decide (pc ≠ .start)
  | _ => false

def Holder.begun : Holder → Bool
  | .taker _ | .server _ => true
  | .fetch _ | .tables | .aborter _ => false

/-- A provider is started once for a transaction, after its gate was
taken. The log has its latest event first. -/
def Orderly : List Event → Prop
  | [] => True
  | .serveStarted _ txid :: log =>
    .beginAccepted txid ∈ log ∧ (∀ uri, .serveStarted uri txid ∉ log) ∧ Orderly log
  | _ :: log => Orderly log

/-- The event does not start a provider. -/
def Event.quiet : Event → Bool
  | .serveStarted _ _ => false
  | .beginAccepted _ | .terminal _ _ | .skipped _ => true

theorem orderly_cons {e : Event} {log : List Event} (hquiet : e.quiet = true) :
    Orderly (e :: log) ↔ Orderly log := by
  cases e with
  | serveStarted => cases hquiet
  | beginAccepted | terminal | skipped => exact Iff.rfl

namespace FetchService

variable {f f' : FetchService} {t : ℕ} {task old : Task} {a : Action} {uri : String}
  {serving : Serving} {txid : TxId}

/-- **Who serves.** A gate that is taken belongs to one begin, and then to
the serving task it spawns. -/
structure Served (f : FetchService) : Prop where
  taking : ∀ t task txid, f.tasks.get? t = some task → task.takes = some txid →
    f.holderOf txid = some (.taker t)
  serving : ∀ t task txid, f.tasks.get? t = some task → task.serves = some txid →
    f.holderOf txid = some (.server t)
  begun : ∀ txid cell, f.cells.get? txid = some cell → cell.holder.begun = true →
    cell.begun = true ∧ .beginAccepted txid ∈ f.log
  started : ∀ uri txid, .serveStarted uri txid ∈ f.log →
    ∃ t task, f.tasks.get? t = some task ∧ task.hasStarted txid = true
  orderly : Orderly f.log

theorem served_new : Served new where
  taking t task txid h := by simp at h
  serving t task txid h := by simp at h
  begun txid cell h := by simp at h
  started uri txid h := absurd h List.not_mem_nil
  orderly := trivial

/-- A task goes on, and who holds a taken gate keeps it. -/
theorem Served.of_insert (h : Served f)
    (hholder : ∀ x holder, f.holderOf x = some holder → holder.begun = true →
      f'.holderOf x = some holder)
    (hbegun : ∀ x cell, f'.cells.get? x = some cell → cell.holder.begun = true →
      cell.begun = true ∧ .beginAccepted x ∈ f'.log)
    (hlog : f'.log = f.log ∨ ∃ e, e.quiet = true ∧ f'.log = e :: f.log)
    (htasks : f'.tasks = f.tasks.insert t task)
    (htakes : ∀ x, task.takes = some x → f'.holderOf x = some (.taker t))
    (hserves : ∀ x, task.serves = some x → f'.holderOf x = some (.server t))
    (hstarted : ∀ x, (f.tasks.get? t).any (Task.hasStarted x) = true →
      task.hasStarted x = true) : Served f' := by
  refine ⟨fun t' task' x hget htake => ?_, fun t' task' x hget hserve => ?_, hbegun,
    fun uri x hmem => ?_, ?_⟩
  · rw [htasks, Table.get?_insert] at hget
    split at hget
    · next ht =>
      cases hget
      exact ht ▸ htakes x htake
    · exact hholder x _ (h.taking t' task' x hget htake) rfl
  · rw [htasks, Table.get?_insert] at hget
    split at hget
    · next ht =>
      cases hget
      exact ht ▸ hserves x hserve
    · exact hholder x _ (h.serving t' task' x hget hserve) rfl
  · have hold : .serveStarted uri x ∈ f.log := by
      rcases hlog with hsame | ⟨e, hquiet, hcons⟩
      · exact hsame ▸ hmem
      · rw [hcons, List.mem_cons] at hmem
        rcases hmem with rfl | hmem
        · cases hquiet
        · exact hmem
    obtain ⟨t', task', hget, hpast⟩ := h.started uri x hold
    by_cases ht : t' = t
    · refine ⟨t, task, by rw [htasks, Table.get?_insert_self], hstarted x ?_⟩
      rw [← ht, hget]
      exact hpast
    · exact ⟨t', task', by rw [htasks, Table.get?_insert_of_ne _ _ ht]; exact hget, hpast⟩
  · rcases hlog with hsame | ⟨e, hquiet, hcons⟩
    · rw [hsame]
      exact h.orderly
    · rw [hcons, orderly_cons hquiet]
      exact h.orderly

/-- A task that neither takes a gate nor serves, before and after; the cells
keep their holders. -/
theorem Served.of_aside (h : Served f) (hget : f.tasks.get? t = some old)
    (hcells : ∀ x cell, f'.cells.get? x = some cell → ∃ cell', f.cells.get? x = some cell' ∧
      cell.holder = cell'.holder ∧ (cell'.begun = true → cell.begun = true))
    (hholder : ∀ x, f'.holderOf x = f.holderOf x)
    (hlog : f'.log = f.log ∨ ∃ e, e.quiet = true ∧ f'.log = e :: f.log)
    (htasks : f'.tasks = f.tasks.insert t task) (htakes : task.takes = none)
    (hserves : task.serves = old.serves)
    (hstarted : ∀ x, old.hasStarted x = true → task.hasStarted x = true) : Served f' := by
  refine h.of_insert (fun x holder hx _ => (hholder x).trans hx)
    (fun x cell hcell hbegun => ?_) hlog htasks (fun x htake => ?_) (fun x hserve => ?_)
    (fun x hpast => ?_)
  · obtain ⟨cell', hcell', hsame, hmono⟩ := hcells x cell hcell
    obtain ⟨hbegun', hlogged⟩ := h.begun x cell' hcell' (hsame ▸ hbegun)
    refine ⟨hmono hbegun', ?_⟩
    rcases hlog with heq | ⟨e, -, heq⟩
    · exact heq ▸ hlogged
    · rw [heq]
      exact List.mem_cons_of_mem e hlogged
  · rw [htakes] at htake
    cases htake
  · rw [hholder]
    exact h.serving t old x hget (hserves ▸ hserve)
  · rw [hget] at hpast
    exact hstarted x hpast

/-- The cells are what they were. -/
theorem Served.of_same (h : Served f) (hget : f.tasks.get? t = some old)
    (hcells : f'.cells = f.cells)
    (hlog : f'.log = f.log ∨ ∃ e, e.quiet = true ∧ f'.log = e :: f.log)
    (htasks : f'.tasks = f.tasks.insert t task) (htakes : task.takes = none)
    (hserves : task.serves = old.serves)
    (hstarted : ∀ x, old.hasStarted x = true → task.hasStarted x = true) : Served f' :=
  h.of_aside hget (fun _ cell hcell => ⟨cell, hcells ▸ hcell, rfl, fun hbegun => hbegun⟩)
    (fun _ => holderOf_congr hcells) hlog htasks htakes hserves hstarted

/-- A cell is changed, but not who holds it. -/
theorem Served.of_change (h : Served f) (hget : f.tasks.get? t = some old) {change : Cell → Cell}
    (hcells : f'.cells = (f.setCell txid change).cells)
    (hsame : ∀ cell, (change cell).holder = cell.holder)
    (hmono : ∀ cell, cell.begun = true → (change cell).begun = true)
    (hlog : f'.log = f.log ∨ ∃ e, e.quiet = true ∧ f'.log = e :: f.log)
    (htasks : f'.tasks = f.tasks.insert t task) (htakes : task.takes = none)
    (hserves : task.serves = old.serves)
    (hstarted : ∀ x, old.hasStarted x = true → task.hasStarted x = true) : Served f' := by
  refine h.of_aside hget (fun x cell hcell => ?_) (fun x => ?_) hlog htasks htakes hserves hstarted
  · rw [hcells] at hcell
    obtain ⟨cell', hcell', rfl | ⟨-, rfl⟩⟩ := of_get?_setCell hcell
    · exact ⟨cell, hcell', rfl, fun hbegun => hbegun⟩
    · exact ⟨cell', hcell', hsame cell', hmono cell'⟩
  · exact (holderOf_congr hcells).trans (holderOf_setCell_of_same hsame)

/-- The task goes on as the handler it is. -/
structure Goes (old task : Task) : Prop where
  owns : ∀ uri, task.owns uri = old.owns uri
  built : task.built = none
  takes : task.takes = none
  serves : task.serves = old.serves
  started : ∀ x, old.hasStarted x = true → task.hasStarted x = true

theorem Moves.goes (h : Moves f t old task) : Goes old task := by
  cases h with
  | finds hpc | joins hpc =>
    rcases hpc with rfl | rfl <;> exact ⟨fun _ => rfl, rfl, rfl, rfl, fun x hx => hx⟩
  | fails hpc =>
    rcases hpc with rfl | ⟨resource, rfl⟩ <;> exact ⟨fun _ => rfl, rfl, rfl, rfl, fun x hx => hx⟩
  | leaves hpc =>
    rcases hpc with rfl | rfl <;> exact ⟨fun _ => rfl, rfl, rfl, rfl, fun x hx => hx⟩
  | misses | builds | reads | misreads | parks | answers | returns | beginReturns | refuses
  | flowReturns | abortReturns | findsBegun | owns | stops | unwraps =>
    exact ⟨fun _ => rfl, rfl, rfl, rfl, fun x hx => hx⟩

theorem Controls.goes (h : Controls txid old task) : Goes old task := by
  cases h <;> exact ⟨fun _ => rfl, rfl, rfl, rfl, fun x hx => hx⟩

theorem Skips.goes (h : Skips txid old task) : Goes old task := by
  cases h <;> exact ⟨fun _ => rfl, rfl, rfl, rfl, fun x hx => hx⟩

theorem Ends.goes {op : Terminal} (h : Ends txid op old task) : Goes old task := by
  cases h <;> exact ⟨fun _ => rfl, rfl, rfl, rfl, fun x hx => hx⟩

theorem serves_of_begins (h : task.Begins) : task.takes = none ∧ task.serves = none := by
  cases task with
  | fetchBegin txidHex pc =>
    have hpc : pc = .lookup := h
    rw [hpc]
    exact ⟨rfl, rfl⟩
  | fetch | fetchFlow | fetchAbort => exact ⟨rfl, rfl⟩
  | serving => exact absurd h id

theorem serves_of_cancelled (h : cancelled old = some task) :
    task.takes = none ∧ task.serves = old.serves ∧
      ∀ x, old.hasStarted x = true → task.hasStarted x = true := by
  unfold cancelled at h
  split at h <;> cases h <;> exact ⟨rfl, rfl, fun x hx => hx⟩

/-- A new sink has no gate yet. -/
theorem Served.opens (h : Served f) {resource : ResolvedResource}
    (hget : f.tasks.get? t = some (.fetch uri (.build resource)))
    (hfresh : f.cells.get? txid = none) :
    Served (f.opensSink t uri resource txid) := by
  refine h.of_insert (fun x holder hx _ => ?_) (fun x cell hcell hbegun => ?_) (.inl rfl) rfl nofun
    nofun (fun x hx => ?_)
  · obtain ⟨cell, hcell, -⟩ := Option.map_eq_some_iff.1 hx
    have hne : x ≠ txid := fun heq => by
      rw [heq, hfresh] at hcell
      cases hcell
    rw [holderOf, opensSink, setTask, Table.get?_insert_of_ne _ _ hne]
    exact hx
  · rw [opensSink, setTask, Table.get?_insert] at hcell
    split at hcell
    · cases hcell
      cases hbegun
    · exact h.begun x cell hcell hbegun
  · rw [hget] at hx
    cases hx

/-- The gate of a published serving is open. -/
theorem Served.publishes (h : Served f)
    (hget : f.tasks.get? t = some (.fetch uri (.publish (.ok serving))))
    (hholds : f.holderOf serving.txid = some (.fetch t)) :
    Served ((f.publish t uri (.ok serving)).setTask t (.fetch uri (.fill (.ok serving)))) := by
  refine h.of_insert (fun x holder hx hbegun => ?_) (fun x cell hcell hbegun => ?_) (.inl rfl) rfl
    nofun nofun (fun x hx => ?_)
  · have hne : x ≠ serving.txid := fun heq => by
      rw [heq, hholds, Option.some.injEq] at hx
      rw [← hx] at hbegun
      cases hbegun
    exact (holderOf_setCell.trans (if_neg hne)).trans hx
  · obtain ⟨cell', hcell', rfl | ⟨-, rfl⟩⟩ := of_get?_setCell hcell
    · exact h.begun x cell hcell' hbegun
    · cases hbegun
  · rw [hget] at hx
    cases hx

/-- One begin gets through. -/
theorem Served.accepts (h : Served f) {cell : Cell} {txidHex : String}
    (hget : f.tasks.get? t = some (.fetchBegin txidHex .lookup))
    (hcell : f.cells.get? serving.txid = some cell) (hbegun : cell.begun = false) :
    Served (((f.setCell serving.txid fun cell =>
      { cell with begun := true, holder := .taker t }).record
        (.beginAccepted serving.txid)).setTask t (.fetchBegin txidHex (.takeRx serving))) := by
  refine h.of_insert (fun x holder hx hholder => ?_) (fun x cell' hcell' hholder => ?_)
    (.inr ⟨_, rfl, rfl⟩) rfl (fun x hx => ?_) nofun (fun x hx => ?_)
  · -- whoever had the gate before would have closed it
    have hne : x ≠ serving.txid := fun heq => by
      subst heq
      obtain ⟨cell', hcell', rfl⟩ := Option.map_eq_some_iff.1 hx
      rw [hcell, Option.some.injEq] at hcell'
      subst hcell'
      rw [(h.begun _ cell hcell hholder).1] at hbegun
      cases hbegun
    exact (holderOf_setCell.trans (if_neg hne)).trans hx
  · obtain ⟨cell'', hcell'', rfl | ⟨hx, rfl⟩⟩ := of_get?_setCell hcell'
    · obtain ⟨hb, hlogged⟩ := h.begun x cell' hcell'' hholder
      exact ⟨hb, List.mem_cons_of_mem _ hlogged⟩
    · exact ⟨rfl, hx ▸ List.mem_cons_self⟩
  · cases hx
    refine (holderOf_setCell.trans (if_pos rfl)).trans ?_
    rw [hcell]
    rfl
  · rw [hget] at hx
    cases hx

/-- An abort takes the gate nobody has, or leaves it to who has it. -/
theorem Served.evicts (h : Served f) {txidHex : String}
    (hget : f.tasks.get? t = some (.fetchAbort txidHex .lookup)) :
    Served (((f.evict serving txid).setCell serving.txid fun cell =>
      if cell.begun then cell else { cell with holder := .aborter t }).setTask t
        (.fetchAbort txidHex (.swap serving))) := by
  refine h.of_insert (fun x holder hx hbegun => ?_) (fun x cell hcell hbegun => ?_) (.inl rfl) rfl
    nofun nofun (fun x hx => ?_)
  · refine holderOf_setCell.trans ?_
    split
    · next heq =>
      subst heq
      obtain ⟨cell, hcell, rfl⟩ := Option.map_eq_some_iff.1 hx
      have hcell' : (f.evict serving txid).cells.get? serving.txid = some cell := hcell
      rw [hcell', Option.map_some, if_pos (h.begun _ cell hcell hbegun).1]
    · exact hx
  · obtain ⟨cell', hcell', rfl | ⟨-, rfl⟩⟩ := of_get?_setCell hcell
    · exact h.begun x cell hcell' hbegun
    · split at hbegun
      · next hclosed =>
        rw [if_pos hclosed]
        exact h.begun x cell' hcell' hbegun
      · cases hbegun
  · rw [hget] at hx
    cases hx

/-- The provider is started for the first time. -/
theorem Served.starts (h : Served f) (hget : f.tasks.get? t = some (.serving uri txid .start)) :
    Served ((f.record (.serveStarted uri txid)).setTask t (.serving uri txid .running)) := by
  have hholds := h.serving t _ txid hget rfl
  obtain ⟨cell, hcell, hholder⟩ := Option.map_eq_some_iff.1 hholds
  have haccepted := (h.begun txid cell hcell (by rw [hholder]; rfl)).2
  -- a serving task that had started would be this one
  have hfirst : ∀ u, .serveStarted u txid ∉ f.log := by
    intro u hmem
    obtain ⟨t', task', hget', hpast⟩ := h.started u txid hmem
    have hserves : task'.serves = some txid := by
      cases task' with
      | serving u' x pc =>
        simp only [Task.hasStarted, Bool.and_eq_true, decide_eq_true_eq] at hpast
        rw [Task.serves, hpast.1]
      | fetch | fetchBegin | fetchFlow | fetchAbort => cases hpast
    have hholds' := h.serving t' task' txid hget' hserves
    rw [hholds, Option.some.injEq, Holder.server.injEq] at hholds'
    rw [← hholds', hget, Option.some.injEq] at hget'
    rw [← hget'] at hpast
    simp [Task.hasStarted] at hpast
  have hmoved : Served (f.setTask t (.serving uri txid .running)) :=
    h.of_same hget rfl (.inl rfl) rfl rfl rfl fun x hx => by simp [Task.hasStarted] at hx
  refine ⟨hmoved.taking, hmoved.serving, fun x cell hcell hbegun => ?_, fun u x hmem => ?_, ?_⟩
  · obtain ⟨hb, hlogged⟩ := h.begun x cell hcell hbegun
    exact ⟨hb, List.mem_cons_of_mem _ hlogged⟩
  · rcases List.mem_cons.1 hmem with heq | hmem
    · cases heq
      refine ⟨t, _, Table.get?_insert_self _ _ _, ?_⟩
      simp [Task.hasStarted]
    · exact hmoved.started u x hmem
  · exact ⟨haccepted, hfirst, h.orderly⟩

theorem wake_serves (k : ℕ) (task : Task) : (wake k task).takes = task.takes ∧
    (wake k task).serves = task.serves ∧ ∀ x, (wake k task).hasStarted x = task.hasStarted x := by
  unfold wake
  split
  · split <;> exact ⟨rfl, rfl, fun _ => rfl⟩
  · exact ⟨rfl, rfl, fun _ => rfl⟩

theorem Served.wakes (h : Served f) {k : ℕ} {slots : Table ℕ ResolveSlot} :
    Served { f with slots := slots, tasks := f.tasks.mapValues fun _ => wake k } := by
  refine ⟨fun t task x hget htake => ?_, fun t task x hget hserve => ?_, h.begun,
    fun u x hmem => ?_, h.orderly⟩
  · obtain ⟨task', hget', rfl⟩ := Table.of_get?_mapValues hget
    exact h.taking t task' x hget' ((wake_serves k task').1 ▸ htake)
  · obtain ⟨task', hget', rfl⟩ := Table.of_get?_mapValues hget
    exact h.serving t task' x hget' ((wake_serves k task').2.1 ▸ hserve)
  · obtain ⟨t, task, hget, hpast⟩ := h.started u x hmem
    refine ⟨t, wake k task, ?_, ((wake_serves k task).2.2 x).trans hpast⟩
    rw [Table.get?_mapValues, hget]
    rfl

/-- A begin that is through spawns the one serving task. -/
theorem Served.hands (h : Served f) {txidHex : String}
    (hfresh : ∀ t task, f.tasks.get? t = some task → t < f.next)
    (hget : f.tasks.get? t = some (.fetchBegin txidHex (.takeRx serving))) :
    Served (f.spawnsServing t txidHex serving) := by
  have hholds := h.taking t _ serving.txid hget rfl
  obtain ⟨cell, hcell, hholder⟩ := Option.map_eq_some_iff.1 hholds
  have hself : ∀ x, (f.spawnsServing t txidHex serving).holderOf x =
      if x = serving.txid then some (.server f.next) else f.holderOf x := by
    intro x
    refine holderOf_setCell.trans ?_
    rw [hcell]
    rfl
  -- a task that is neither of the two held another gate
  have hothers : ∀ x holder, holder ≠ .taker t → f.holderOf x = some holder →
      (f.spawnsServing t txidHex serving).holderOf x = some holder := by
    intro x holder hne hx
    rw [hself, if_neg fun heq => ?_]
    · exact hx
    · rw [heq, hholds, Option.some.injEq] at hx
      exact hne hx.symm
  refine ⟨fun t' task' x hget' htake => ?_, fun t' task' x hget' hserve => ?_,
    fun x cell' hcell' hbegun => ?_, fun u x hmem => ?_, h.orderly⟩
  · rcases Table.of_get?_insert hget' with ⟨-, rfl⟩ | ⟨-, hget'⟩
    · cases htake
    · rcases Table.of_get?_insert hget' with ⟨-, rfl⟩ | ⟨ht, hget'⟩
      · cases htake
      · exact hothers x _ (fun heq => ht (Holder.taker.inj heq)) (h.taking t' task' x hget' htake)
  · rcases Table.of_get?_insert hget' with ⟨rfl, rfl⟩ | ⟨-, hget'⟩
    · cases hserve
      rw [hself, if_pos rfl]
      rfl
    · rcases Table.of_get?_insert hget' with ⟨-, rfl⟩ | ⟨-, hget'⟩
      · cases hserve
      · exact hothers x _ (fun h => by cases h) (h.serving t' task' x hget' hserve)
  · obtain ⟨cell'', hcell'', rfl | ⟨hx, rfl⟩⟩ := of_get?_setCell hcell'
    · exact h.begun x cell' hcell'' hbegun
    · have hsame : cell'' = cell := by
        rw [hx, hcell, Option.some.injEq] at hcell''
        exact hcell''.symm
      exact h.begun x cell'' hcell'' (by rw [hsame, hholder]; rfl)
  · obtain ⟨t', task', hget', hpast⟩ := h.started u x hmem
    have hne : t' ≠ t := fun heq => by
      rw [heq, hget] at hget'
      cases hget'
      cases hpast
    have hlt := hfresh t' task' hget'
    exact ⟨t', task', (Table.get?_insert_of_ne _ _ (Nat.ne_of_lt hlt)).trans
      ((Table.get?_insert_of_ne _ _ hne).trans hget'), hpast⟩

theorem Served.effect (h : Served f) (hplaced : Placed f) (heffect : Effect f a f') :
    Served f' := by
  cases heffect with
  | @spawns _ task hbegins =>
    obtain ⟨htakes, hserves⟩ := serves_of_begins hbegins
    refine h.of_insert (fun x holder hx _ => hx) h.begun (.inl rfl) rfl (fun x hx => ?_)
      (fun x hx => ?_) (fun x hx => ?_)
    · rw [htakes] at hx
      cases hx
    · rw [hserves] at hx
      cases hx
    · rw [hplaced.get?_next] at hx
      cases hx
  | moves hget hmoves =>
    have hgoes := hmoves.goes
    exact h.of_same hget rfl (.inl rfl) rfl hgoes.takes hgoes.serves hgoes.started
  | cancels hget hcancel =>
    obtain ⟨htakes, hserves, hstarted⟩ := serves_of_cancelled hcancel
    exact h.of_same hget rfl (.inl rfl) rfl htakes hserves hstarted
  | places hget hnone | fills hget => exact h.of_same hget rfl (.inl rfl) rfl rfl rfl nofun
  | opens hget hfresh => exact h.opens hget hfresh
  | publishes hget => exact h.publishes hget (hplaced.built _ _ _ _ hget rfl).2
  | @retracts t uri e hget =>
    have hsame := f.sameBut_publish_error t uri e
    exact h.of_same hget hsame.cells (.inl hsame.log) (congrArg (Table.insert · t _) hsame.tasks)
      rfl rfl nofun
  | @removes t uri txid aborted hget =>
    have hsame := f.sameBut_removeServing txid
    exact h.of_same hget hsame.cells (.inl hsame.log) (congrArg (Table.insert · t _) hsame.tasks)
      rfl rfl fun x hx => hx
  | @notifies t uri outcome hget =>
    exact Served.of_same h.wakes (get?_wakes_notify hget) rfl (.inl rfl) rfl rfl rfl nofun
  | @accepts t txidHex txid serving hget hparse hlisted hbegun =>
    obtain ⟨hself, holder, hholds, -⟩ := hplaced.listed txid serving hlisted
    obtain ⟨cell, hcell, -⟩ := Option.map_eq_some_iff.1 (hself ▸ hholds)
    rw [hcell] at hbegun
    exact h.accepts hget hcell hbegun
  | hands hget => exact h.hands hplaced.fresh hget
  | @controls a t old task txid change hget hcontrols =>
    have hgoes := hcontrols.goes
    exact h.of_change hget rfl (fun _ => rfl) (fun _ hbegun => hbegun) (.inl rfl) rfl hgoes.takes
      hgoes.serves hgoes.started
  | evicts hget hparse hlisted => exact h.evicts hget
  | claims hget hbegun =>
    exact h.of_change hget rfl (fun _ => rfl) (fun _ _ => rfl) (.inl rfl) rfl rfl rfl nofun
  | @skips t old task txid hget hskips hshared =>
    have hgoes := hskips.goes
    exact h.of_same hget rfl (.inr ⟨_, rfl, rfl⟩) rfl hgoes.takes hgoes.serves hgoes.started
  | starts hget => exact h.starts hget
  | @ends t old task txid op hget hends =>
    have hgoes := hends.goes
    exact h.of_change hget rfl (fun _ => rfl) (fun _ hbegun => hbegun) (.inr ⟨_, rfl, rfl⟩) rfl
      hgoes.takes hgoes.serves hgoes.started

/-! ## Tables and gates together -/

/-- No fetch with a placeholder is cancelled. -/
def Tidy (f : FetchService) : Action → Prop
  | .cancel t => ∀ task, f.tasks.get? t = some task → ∀ uri, task.owns uri = false
  | _ => True

theorem Placed.effect (h : Placed f) (hserved : Served f) (htidy : Tidy f a)
    (heffect : Effect f a f') : Placed f' := by
  cases heffect with
  | spawns hbegins =>
    exact h.spawns (owns_of_begins hbegins).1 (owns_of_begins hbegins).2
  | moves hget hmoves =>
    exact h.of_moved hget rfl rfl (fun _ => rfl) rfl rfl hmoves.goes.owns hmoves.goes.built
  | cancels hget hcancel =>
    refine h.of_moved hget rfl rfl (fun _ => rfl) rfl rfl (fun uri => ?_)
      (owns_of_cancelled hcancel).2
    rw [(owns_of_cancelled hcancel).1, htidy _ hget]
  | places hget hnone => exact h.places hget hnone
  | opens hget hfresh => exact h.opens hget hfresh
  | publishes hget => exact h.publishes hget
  | retracts hget => exact h.retracts hget
  | fills hget => exact h.of_moved hget rfl rfl (fun _ => rfl) rfl rfl (fun _ => rfl) rfl
  | @notifies t uri outcome hget =>
    exact Placed.of_moved h.wakes (get?_wakes_notify hget) rfl rfl (fun _ => rfl) rfl rfl
      (fun _ => rfl) rfl
  | @accepts t txidHex txid serving hget hparse hlisted hbegun =>
    obtain ⟨hself, holder, hholds, hlist⟩ := h.listed txid serving hlisted
    obtain ⟨cell, hcell, -⟩ := Option.map_eq_some_iff.1 hholds
    refine h.holds (.taker t) hget hholds hlist rfl rfl rfl (fun y => ?_) rfl rfl
      (fun _ => rfl) rfl
    refine holderOf_setCell.trans ?_
    rw [hself, hcell]
    rfl
  | @hands t txidHex serving hget =>
    have hholds := hserved.taking t _ serving.txid hget rfl
    obtain ⟨cell, hcell, -⟩ := Option.map_eq_some_iff.1 hholds
    have hmoved : Placed (f.handsOver t txidHex serving) := by
      refine h.holds (.server f.next) hget hholds rfl rfl rfl rfl (fun y => ?_) rfl rfl
        (fun _ => rfl) rfl
      refine holderOf_setCell.trans ?_
      rw [hcell]
      rfl
    exact hmoved.spawns (fun _ => rfl) rfl
  | @controls a t old task txid change hget hcontrols =>
    have hgoes := hcontrols.goes
    exact h.of_moved hget rfl rfl (fun _ => holderOf_setCell_of_same fun _ => rfl) rfl rfl
      hgoes.owns hgoes.built
  | @evicts t txidHex txid serving hget hparse hlisted =>
    obtain ⟨hself, -⟩ := h.listed txid serving hlisted
    have hevict := h.evict_eq hlisted
    refine h.evicted hlisted hget (congrArg FetchService.byUri hevict)
      (congrArg FetchService.byTxid hevict) (fun x hx => ?_) rfl rfl (fun _ => rfl) (fun _ => rfl)
      rfl
    exact holderOf_setCell.trans (if_neg fun heq => hx (heq.trans hself))
  | claims hget hbegun =>
    exact h.of_moved hget rfl rfl (fun _ => holderOf_setCell_of_same fun _ => rfl) rfl rfl
      (fun _ => rfl) rfl
  | @skips t old task txid hget hskips hshared =>
    have hgoes := hskips.goes
    exact h.of_moved hget rfl rfl (fun _ => rfl) rfl rfl hgoes.owns hgoes.built
  | starts hget => exact h.of_moved hget rfl rfl (fun _ => rfl) rfl rfl (fun _ => rfl) rfl
  | @removes t uri txid aborted hget =>
    cases hlisted : f.byTxid.get? txid with
    | none =>
      have hremove : f.removeServing txid = f := by rw [removeServing, hlisted]
      rw [hremove]
      exact h.of_moved hget rfl rfl (fun _ => rfl) rfl rfl (fun _ => rfl) rfl
    | some serving =>
      have hremove : f.removeServing txid = { f with
          byTxid := f.byTxid.erase txid
          byUri := f.byUri.erase serving.uri } := by
        rw [removeServing, hlisted]
        exact h.evict_eq hlisted
      rw [hremove]
      exact h.evicted hlisted hget rfl rfl (fun _ _ => rfl) rfl rfl (fun _ => rfl) (fun _ => rfl)
        rfl
  | @ends t old task txid op hget hends =>
    have hgoes := hends.goes
    exact h.of_moved hget rfl rfl (fun _ => holderOf_setCell_of_same fun _ => rfl) rfl rfl
      hgoes.owns hgoes.built

end FetchService

end Fetch

end Xacpp
