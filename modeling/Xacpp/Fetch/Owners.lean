import Xacpp.Fetch.Answers
/-!
# Who owns a sink

A sink is first its fetch's, then the tables', and from there it goes to
the begin that takes its gate and the serving task that begin spawns, or to
the abort that finds the gate open. `OwnedAt` says so of one transaction: its
owner has it in hand until it is ended, and it is ended once.

Two things break the chain: a handler dropped while the sink is its own, and
a terminal operation skipped because the sink is shared. `Kept` excludes
both; under it no sink is lost.
-/

namespace Xacpp

namespace Fetch

/-- The task the sink is with. -/
def Holder.task? : Holder → Option ℕ
  | .fetch t | .taker t | .server t | .aborter t => some t
  | .tables => none

/-- The sink has not been begun or aborted. -/
def Holder.early : Holder → Bool
  | .fetch _ | .tables => true
  | .taker _ | .server _ | .aborter _ => false

theorem Holder.begun_of_early {holder : Holder} (h : holder.early = true) :
    holder.begun = false := by
  cases holder with
  | fetch | tables => rfl
  | taker | server | aborter => cases h

/-- The task is to record the sink of the transaction, or to end it. An
abort that finds the gate taken leaves that to who took it. -/
def Task.inHand (txid : TxId) (begun : Bool) : Task → Bool
  | .fetch _ (.publish (.ok s)) | .fetchBegin _ (.takeRx s) => decide (s.txid = txid)
  | .fetchAbort _ (.swap s) => decide (s.txid = txid) && !begun
  | .fetchAbort _ (.unwrap x) | .fetchAbort _ (.aborting x) => decide (x = txid)
  | .serving _ _ (.done _) => false
  | .serving _ x _ => decide (x = txid)
  | _ => false

/-- The transaction an abort has taken out of the tables, as long as it has
the serving. -/
def Task.aborts : Task → Option TxId
  | .fetchAbort _ (.swap s) | .fetchAbort _ (.signal s) | .fetchAbort _ (.signalled s) =>
    some s.txid
  | _ => none

/-- The transaction whose sink an abort ends itself. -/
def Task.discards : Task → Option TxId
  | .fetchAbort _ (.unwrap x) | .fetchAbort _ (.aborting x) => some x
  | _ => none

/-- The transaction of a serving task that is through, with how it ended the
sink. -/
def Task.through : Task → Option (TxId × Option Terminal)
  | .serving _ x (.done op) => some (x, op)
  | _ => none

/-- A handler that can be dropped without a trace. -/
def Task.droppable : Task → Bool
  | .fetch _ (.resolve) | .fetch _ (.build _) | .fetch _ (.publish _)
  | .fetchBegin _ (.takeRx _) | .fetchAbort _ (.aborting _) => false
  | _ => true

/-- The transaction whose sink the task is about to unwrap. -/
def Task.unwraps : Task → Option TxId
  | .fetchAbort _ (.unwrap x) | .serving _ x (.unwrap _) => some x
  | _ => none

/-- How the event ends the sink of the transaction. -/
def Event.ends (txid : TxId) : Event → Option Terminal
  | .terminal x op => if x = txid then some op else none
  | .beginAccepted _ | .serveStarted _ _ | .skipped _ => none

/-- A cell without what the chain does not read: its controls and its slot. -/
def Cell.fate (cell : Cell) : Cell := { cell with controls := [], slot := 0 }

namespace FetchService

variable {f f' : FetchService} {t : ℕ} {task old : Task} {a : Action} {uri : String}
  {serving : Serving} {txid x : TxId}

variable {txidHex : String}

/-- The gate of a transaction is taken. -/
def begunOf (f : FetchService) (txid : TxId) : Bool :=
  ((f.cells.get? txid).map Cell.begun).getD false

/-- How the sink of a transaction was ended. -/
def endedOf (f : FetchService) (txid : TxId) : Option Terminal :=
  ((f.cells.get? txid).map Cell.ended).getD none

/-- The terminal operations on a sink, latest first. -/
def terminals (f : FetchService) (txid : TxId) : List Terminal := f.log.filterMap (Event.ends txid)

/-- The control channel of a transaction has been taken. -/
def rxTakenOf (f : FetchService) (txid : TxId) : Bool :=
  ((f.cells.get? txid).map Cell.rxTaken).getD false

def fateOf (f : FetchService) (txid : TxId) : Option Cell := (f.cells.get? txid).map Cell.fate

/-- All that the chain reads goes by the fate. -/
theorem reads_congr (h : f'.fateOf x = f.fateOf x) : f'.holderOf x = f.holderOf x ∧
    f'.endedOf x = f.endedOf x ∧ f'.begunOf x = f.begunOf x ∧ f'.rxTakenOf x = f.rxTakenOf x := by
  have hread : ∀ {β : Type} (g : Cell → β), (∀ cell : Cell, g cell.fate = g cell) →
      (f'.cells.get? x).map g = (f.cells.get? x).map g := by
    intro β g hg
    have hmap := congrArg (Option.map g) h
    rw [fateOf, fateOf, Option.map_map, Option.map_map] at hmap
    rw [show g ∘ Cell.fate = g from funext hg] at hmap
    exact hmap
  refine ⟨hread Cell.holder fun _ => rfl, ?_, ?_, ?_⟩
  · rw [endedOf, hread Cell.ended fun _ => rfl, endedOf]
  · rw [begunOf, hread Cell.begun fun _ => rfl, begunOf]
  · rw [rxTakenOf, hread Cell.rxTaken fun _ => rfl, rxTakenOf]

/-- What the task does about the sink it may do: an abort has found it in no
table, an abort that is to end it is its holder, and a serving task that is
through has ended it. -/
structure Entitled (f : FetchService) (x : TxId) (t : ℕ) (task : Task) : Prop where
  aborts : task.aborts = some x → f.byTxid.get? x = none ∧
    ∃ holder, f.holderOf x = some holder ∧ (holder = .aborter t ∨ holder.begun = true)
  discards : task.discards = some x → f.holderOf x = some (.aborter t)
  through : ∀ op, task.through = some (x, op) → f.endedOf x = op

/-- **The chain of owners**, at one transaction. -/
structure OwnedAt (f : FetchService) (x : TxId) : Prop where
  recorded : f.holderOf x = some .tables → (f.byTxid.get? x).isSome = true ∧ f.endedOf x = none
  held : ∀ holder t, f.holderOf x = some holder → holder.task? = some t →
    (f.tasks.get? t).any (Task.inHand x (f.begunOf x)) = (f.endedOf x).isNone
  entitled : ∀ t task, f.tasks.get? t = some task → Entitled f x t task
  closed : f.begunOf x = true →
    ∃ holder, f.holderOf x = some holder ∧ (holder.begun = true ∨ ∃ t, holder = .aborter t)
  taken : f.rxTakenOf x = true → ∃ t, f.holderOf x = some (.server t)
  aborted : ∀ t, f.holderOf x = some (.aborter t) → f.endedOf x = none ∨ f.endedOf x = some .abort
  logged : f.terminals x = (f.endedOf x).toList

theorem ownedAt_new : OwnedAt new x where
  recorded h := by simp [holderOf] at h
  held holder t h := by simp [holderOf] at h
  entitled t task h := by simp at h
  closed h := by simp [begunOf] at h
  taken h := by simp [rxTakenOf] at h
  aborted t h := by simp [holderOf] at h
  logged := by simp [terminals, endedOf, new]

theorem reads_of_get? {cell : Cell} (h : f.cells.get? x = some cell) :
    f.holderOf x = some cell.holder ∧ f.endedOf x = cell.ended ∧ f.begunOf x = cell.begun ∧
      f.rxTakenOf x = cell.rxTaken := by
  simp [holderOf, endedOf, begunOf, rxTakenOf, h]

/-- A sink in hand is not ended. -/
theorem OwnedAt.not_ended (h : OwnedAt f x) {holder : Holder} (hholds : f.holderOf x = some holder)
    (ht : holder.task? = some t) (hget : f.tasks.get? t = some task)
    (hhand : task.inHand x (f.begunOf x) = true) : f.endedOf x = none := by
  have hheld := h.held holder t hholds ht
  rw [hget] at hheld
  exact Option.isNone_iff_eq_none.1 (hheld.symm.trans hhand)

/-- The sink has its holder and its end, and no table has it anew. -/
theorem Entitled.congr (h : Entitled f x t task) (hholder : f'.holderOf x = f.holderOf x)
    (hended : f'.endedOf x = f.endedOf x)
    (hnone : f.byTxid.get? x = none → f'.byTxid.get? x = none) : Entitled f' x t task where
  aborts habort := by
    rw [hholder]
    exact (h.aborts habort).imp_left hnone
  discards hdiscard := hholder.trans (h.discards hdiscard)
  through op hend := hended.trans (h.through op hend)

/-- **One task goes on**: what it does it may do, and so it is with the
others. -/
theorem entitled_insert {tasks : Table ℕ Task} (htask : Entitled f x t task)
    (hothers : ∀ t' task', t' ≠ t → tasks.get? t' = some task' → Entitled f x t' task') :
    ∀ t' task', (tasks.insert t task).get? t' = some task' → Entitled f x t' task' := by
  intro t' task' hget
  rcases Table.of_get?_insert hget with ⟨rfl, rfl⟩ | ⟨hne, hget⟩
  · exact htask
  · exact hothers t' task' hne hget

/-- The task has nothing to do with the end of the sink. -/
structure Uninvolved (x : TxId) (task : Task) : Prop where
  aborts : task.aborts ≠ some x
  discards : task.discards ≠ some x
  through : ∀ op, task.through ≠ some (x, op)

theorem Uninvolved.entitled (h : Uninvolved x task) : Entitled f x t task where
  aborts habort := absurd habort h.aborts
  discards hdiscard := absurd hdiscard h.discards
  through op hend := absurd hend (h.through op)

/-! ## Steps aside -/

/-- The fate of the sink is the same, and the task that goes on has it in
hand as before. -/
theorem OwnedAt.frame (h : OwnedAt f x) (hfate : f'.fateOf x = f.fateOf x)
    (hnone : f.byTxid.get? x = none → f'.byTxid.get? x = none)
    (hsome : f.holderOf x = some .tables → (f.byTxid.get? x).isSome = true →
      (f'.byTxid.get? x).isSome = true)
    (hlog : f'.terminals x = f.terminals x) (htasks : f'.tasks = f.tasks.insert t task)
    (hhand : task.inHand x (f.begunOf x) = (f.tasks.get? t).any (Task.inHand x (f.begunOf x)))
    (htask : Entitled f' x t task) : OwnedAt f' x := by
  obtain ⟨hholder, hended, hbegun, hrx⟩ := reads_congr hfate
  refine ⟨fun htables => ?_, fun holder t' hholds ht' => ?_, ?_, fun hclosed => ?_,
    fun htaken => ?_, fun t' hholds => ?_, ?_⟩
  · rw [hholder] at htables
    obtain ⟨hlisted, hopen⟩ := h.recorded htables
    rw [hended]
    exact ⟨hsome htables hlisted, hopen⟩
  · rw [hholder] at hholds
    rw [hended, hbegun, ← h.held holder t' hholds ht', htasks, Table.get?_insert]
    split
    · next heq =>
      rw [heq]
      exact hhand
    · rfl
  · rw [htasks]
    exact entitled_insert htask fun t' task' _ hget =>
      (h.entitled t' task' hget).congr hholder hended hnone
  · rw [hholder]
    exact h.closed (hbegun ▸ hclosed)
  · rw [hholder]
    exact h.taken (hrx ▸ htaken)
  · rw [hended]
    exact h.aborted t' (hholder ▸ hholds)
  · rw [hlog, hended]
    exact h.logged

/-- The task that goes on does nothing new to the sink. -/
structure Aside (x : TxId) (begun : Bool) (old : Option Task) (task : Task) : Prop where
  hand : task.inHand x begun = old.any (Task.inHand x begun)
  aborts : task.aborts = some x → old.bind Task.aborts = some x
  discards : task.discards = some x → old.bind Task.discards = some x
  through : ∀ op, task.through = some (x, op) → old.bind Task.through = some (x, op)

/-- The fate of the sink is the same, and the task does nothing new to it. -/
theorem OwnedAt.of_fate (h : OwnedAt f x) (hfate : f'.fateOf x = f.fateOf x)
    (hnone : f.byTxid.get? x = none → f'.byTxid.get? x = none)
    (hsome : f.holderOf x = some .tables → (f.byTxid.get? x).isSome = true →
      (f'.byTxid.get? x).isSome = true)
    (hlog : f'.terminals x = f.terminals x) (htasks : f'.tasks = f.tasks.insert t task)
    (haside : Aside x (f.begunOf x) (f.tasks.get? t) task) : OwnedAt f' x := by
  obtain ⟨hholder, hended, -, -⟩ := reads_congr hfate
  have hold : ∀ old, f.tasks.get? t = some old → Entitled f' x t old := fun old hget =>
    (h.entitled t old hget).congr hholder hended hnone
  refine h.frame hfate hnone hsome hlog htasks haside.hand ⟨fun habort => ?_,
    fun hdiscard => ?_, fun op hthrough => ?_⟩
  · obtain ⟨old, hget, habort⟩ := Option.bind_eq_some_iff.1 (haside.aborts habort)
    exact (hold old hget).aborts habort
  · obtain ⟨old, hget, hdiscard⟩ := Option.bind_eq_some_iff.1 (haside.discards hdiscard)
    exact (hold old hget).discards hdiscard
  · obtain ⟨old, hget, hthrough⟩ := Option.bind_eq_some_iff.1 (haside.through op hthrough)
    exact (hold old hget).through op hthrough

/-- Cells and tables are as they were. -/
theorem OwnedAt.of_aside (h : OwnedAt f x) (hcells : f'.cells = f.cells)
    (hbyTxid : f'.byTxid = f.byTxid) (hlog : f'.terminals x = f.terminals x)
    (htasks : f'.tasks = f.tasks.insert t task)
    (haside : Aside x (f.begunOf x) (f.tasks.get? t) task) : OwnedAt f' x := by
  refine h.of_fate ?_ (fun hnone => ?_) (fun _ hsome => ?_) hlog htasks haside
  · rw [fateOf, hcells, fateOf]
  · rw [hbyTxid]
    exact hnone
  · rw [hbyTxid]
    exact hsome

theorem aside_of_begins {begun : Bool} (h : task.Begins) : Aside x begun none task := by
  cases task with
  | fetch uri pc =>
    have hpc : pc = .check := h
    rw [hpc]
    exact ⟨rfl, nofun, nofun, nofun⟩
  | fetchBegin txidHex pc =>
    have hpc : pc = .lookup := h
    rw [hpc]
    exact ⟨rfl, nofun, nofun, nofun⟩
  | fetchFlow => exact ⟨rfl, nofun, nofun, nofun⟩
  | fetchAbort txidHex pc =>
    have hpc : pc = .lookup := h
    rw [hpc]
    exact ⟨rfl, nofun, nofun, nofun⟩
  | serving => exact absurd h id

theorem Moves.aside (h : Moves f t old task)
    (hopen : ∀ y, old.takes = some y → f.rxTakenOf y = false) :
    Aside x (f.begunOf x) (some old) task := by
  cases h with
  | finds hpc | joins hpc =>
    rcases hpc with rfl | rfl <;> exact ⟨rfl, nofun, nofun, nofun⟩
  | fails hpc | beginReturns hpc | abortReturns hpc =>
    rcases hpc with rfl | ⟨_, rfl⟩ <;> exact ⟨rfl, nofun, nofun, nofun⟩
  | leaves hpc => rcases hpc with rfl | rfl <;> exact ⟨rfl, nofun, nofun, nofun⟩
  | misses | builds | reads | misreads | parks | answers | returns | flowReturns | stops
  | unwraps =>
    exact ⟨rfl, nofun, nofun, nofun⟩
  | owns => exact ⟨rfl, nofun, fun hx => hx, nofun⟩
  | @refuses txidHex s response hrx =>
    have hclosed : f.rxTakenOf s.txid = true := hrx
    rw [hopen s.txid rfl] at hclosed
    cases hclosed
  | @findsBegun txidHex s hbegun =>
    refine ⟨?_, fun hx => hx, nofun, nofun⟩
    by_cases hx : s.txid = x
    · rw [← hx, begunOf, hbegun]
      simp [Task.inHand]
    · simp [Task.inHand, hx]

theorem aside_of_cancelled {begun : Bool} (hdrop : old.droppable = true)
    (h : cancelled old = some task) : Aside x begun (some old) task := by
  unfold cancelled at h
  split at h <;> cases h <;>
    first
      | exact ⟨rfl, nofun, nofun, nofun⟩
      | cases hdrop

theorem wake_aside (k : ℕ) (task : Task) : (∀ begun, (wake k task).inHand x begun =
      task.inHand x begun) ∧ (wake k task).aborts = task.aborts ∧
    (wake k task).discards = task.discards ∧ (wake k task).through = task.through := by
  unfold wake
  split
  · split <;> exact ⟨fun _ => rfl, rfl, rfl, rfl⟩
  · exact ⟨fun _ => rfl, rfl, rfl, rfl⟩

theorem OwnedAt.wakes (h : OwnedAt f x) {k : ℕ} {slots : Table ℕ ResolveSlot} :
    OwnedAt { f with slots := slots, tasks := f.tasks.mapValues fun _ => wake k } x := by
  refine ⟨h.recorded, fun holder t hholds ht => ?_, fun t task hget => ?_, h.closed, h.taken,
    h.aborted, h.logged⟩
  · refine Eq.trans ?_ (h.held holder t hholds ht)
    rw [Table.get?_mapValues, Option.any_map]
    exact congrArg (Option.any · _) (funext fun task => (wake_aside k task).1 _)
  · obtain ⟨old, hold, rfl⟩ := Table.of_get?_mapValues hget
    obtain ⟨-, haborts, hdiscards, hthrough⟩ := wake_aside (x := x) k old
    have hmay := h.entitled t old hold
    exact ⟨fun habort => hmay.aborts (haborts ▸ habort),
      fun hdiscard => hmay.discards (hdiscards ▸ hdiscard),
      fun op hend => hmay.through op (hthrough ▸ hend)⟩

/-! ## Steps that pass the sink on -/

theorem serves_of_through {op : Option Terminal} (h : task.through = some (x, op)) :
    task.serves = some x := by
  cases task with
  | serving u y pc =>
    cases pc <;> cases h
    rfl
  | fetch | fetchBegin | fetchFlow | fetchAbort => cases h

/-- As long as the sink is its fetch's or the tables', no abort and no
serving task has to do with it. -/
theorem OwnedAt.untouched (h : OwnedAt f x) (hserved : Served f)
    (hearly : ∀ holder, f.holderOf x = some holder → holder.early = true)
    (hget : f.tasks.get? t = some task) :
    Uninvolved x task := by
  refine ⟨fun habort => ?_, fun hdiscard => ?_, fun op hthrough => ?_⟩
  · obtain ⟨-, holder, hholds, hkind⟩ := (h.entitled t task hget).aborts habort
    have hfirst := hearly holder hholds
    rcases hkind with rfl | hbegun
    · cases hfirst
    · rw [Holder.begun_of_early hfirst] at hbegun
      cases hbegun
  · have hfirst := hearly _ ((h.entitled t task hget).discards hdiscard)
    cases hfirst
  · have hfirst := hearly _ (hserved.serving t task x hget (serves_of_through hthrough))
    cases hfirst

/-- And its gate is open. -/
theorem OwnedAt.open_of_early (h : OwnedAt f x)
    (hearly : ∀ holder, f.holderOf x = some holder → holder.early = true) :
    f.begunOf x = false ∧ f.rxTakenOf x = false := by
  refine ⟨Bool.eq_false_iff.2 fun hbegun => ?_, Bool.eq_false_iff.2 fun htaken => ?_⟩
  · obtain ⟨holder, hholds, hkind⟩ := h.closed hbegun
    have hfirst := hearly holder hholds
    rcases hkind with hbegun | ⟨t, rfl⟩
    · rw [Holder.begun_of_early hfirst] at hbegun
      cases hbegun
    · cases hfirst
  · obtain ⟨t, hholds⟩ := h.taken htaken
    have hfirst := hearly _ hholds
    cases hfirst

/-- The sink goes to the tables or to the task that goes on. -/
theorem OwnedAt.passes {cell : Cell}
    (hothers : ∀ t task, f.tasks.get? t = some task → Uninvolved x task)
    (hcell : f'.cells.get? x = some cell) (hended : cell.ended = none)
    (hrx : cell.rxTaken = false) (hlog : f'.terminals x = [])
    (htasks : f'.tasks = f.tasks.insert t task)
    (hrecorded : cell.holder = .tables → (f'.byTxid.get? x).isSome = true)
    (hclosed : cell.begun = true → cell.holder.begun = true)
    (hheld : ∀ t', cell.holder.task? = some t' → t' = t ∧ task.inHand x cell.begun = true)
    (haborts : task.aborts = some x → f'.byTxid.get? x = none ∧ cell.holder = .aborter t)
    (hdiscards : task.discards = none) (hthrough : task.through = none) : OwnedAt f' x := by
  obtain ⟨hholder', hended', hbegun', hrx'⟩ := reads_of_get? hcell
  rw [hended] at hended'
  refine ⟨fun htables => ?_, fun holder t' hholds ht' => ?_, ?_, fun hbegun => ?_,
    fun htaken => ?_, fun _ _ => .inl hended', by rw [hlog, hended']; rfl⟩
  · rw [hholder', Option.some.injEq] at htables
    exact ⟨hrecorded htables, hended'⟩
  · rw [hholder', Option.some.injEq] at hholds
    obtain ⟨rfl, hhand⟩ := hheld t' (hholds ▸ ht')
    rw [htasks, Table.get?_insert_self, hended', hbegun']
    exact hhand
  · rw [htasks]
    refine entitled_insert ⟨fun habort => ?_, fun hdiscard => ?_, fun op hend => ?_⟩
      fun t' task' _ hget => (hothers t' task' hget).entitled
    · obtain ⟨hnone, heq⟩ := haborts habort
      exact ⟨hnone, cell.holder, hholder', .inl heq⟩
    · rw [hdiscards] at hdiscard
      cases hdiscard
    · rw [hthrough] at hend
      cases hend
  · exact ⟨cell.holder, hholder', .inl (hclosed (hbegun' ▸ hbegun))⟩
  · rw [hrx', hrx] at htaken
    cases htaken

/-- Without a terminal event the log ends no sink. -/
theorem terminals_cons {e : Event} (hlog : f'.log = e :: f.log)
    (he : Event.ends x e = none) : f'.terminals x = f.terminals x := by
  rw [terminals, hlog, List.filterMap_cons_none he, terminals]

/-- The fate of the other sinks, when one cell is changed. -/
theorem fateOf_setCell_of_ne {change : Cell → Cell} (hx : x ≠ txid) :
    (f.setCell txid change).fateOf x = f.fateOf x := map_setCell.trans (if_neg hx)

theorem get?_setCell_self {change : Cell → Cell} {cell : Cell} (h : f.cells.get? txid = some cell) :
    (f.setCell txid change).cells.get? txid = some (change cell) := by
  rw [setCell, Table.get?_modify, if_pos rfl, h]
  rfl

/-- A new sink is its fetch's. -/
theorem OwnedAt.opens (h : OwnedAt f x) (hserved : Served f) {resource : ResolvedResource}
    (hget : f.tasks.get? t = some (.fetch uri (.build resource)))
    (hfresh : f.cells.get? txid = none) :
    OwnedAt (f.opensSink t uri resource txid) x := by
  by_cases hx : x = txid
  · subst hx
    have hnone : f.holderOf x = none := by rw [holderOf, hfresh, Option.map_none]
    refine OwnedAt.passes
      (fun t' task' hget' => h.untouched hserved (fun holder hholds => ?_) hget')
      (Table.get?_insert_self _ _ _) rfl rfl ?_ rfl (fun h => by cases h) (fun h => by cases h)
      (fun t' ht' => ?_) (fun h => by cases h) rfl rfl
    · rw [hnone] at hholds
      cases hholds
    · refine h.logged.trans ?_
      rw [endedOf, hfresh]
      rfl
    · cases ht'
      exact ⟨rfl, decide_eq_true rfl⟩
  · refine h.of_fate ?_ (fun hnone => hnone) (fun _ hsome => hsome) rfl rfl
      ⟨?_, (fun h => by cases h), (fun h => by cases h), fun _ h => by cases h⟩
    · rw [fateOf, opensSink, setTask, Table.get?_insert_of_ne _ _ hx, fateOf]
    · rw [hget]
      exact decide_eq_false fun heq => hx heq.symm

/-- A published sink is the tables'. -/
theorem OwnedAt.publishes (h : OwnedAt f x) (hserved : Served f)
    (hget : f.tasks.get? t = some (.fetch uri (.publish (.ok serving))))
    (hholds : f.holderOf serving.txid = some (.fetch t)) :
    OwnedAt ((f.publish t uri (.ok serving)).setTask t (.fetch uri (.fill (.ok serving)))) x := by
  by_cases hx : x = serving.txid
  · subst hx
    obtain ⟨cell, hcell, hholder⟩ := Option.map_eq_some_iff.1 hholds
    obtain ⟨-, hended, hbegun, hrx⟩ := reads_of_get? hcell
    -- as its fetch's it was not ended, and no begin had it
    have hopen := h.not_ended hholds rfl hget (decide_eq_true rfl)
    have hearly : ∀ holder, f.holderOf serving.txid = some holder → holder.early = true := by
      intro holder hholds'
      rw [hholds] at hholds'
      cases hholds'
      rfl
    obtain ⟨hgate, huntaken⟩ := h.open_of_early hearly
    rw [hbegun] at hgate
    rw [hrx] at huntaken
    refine OwnedAt.passes (fun t' task' hget' => h.untouched hserved hearly hget')
      (get?_setCell_self hcell) (hended.symm.trans hopen) huntaken ?_ rfl (fun _ => ?_)
      (fun hbegun' => ?_) nofun nofun rfl rfl
    · refine h.logged.trans ?_
      rw [hopen]
      rfl
    · have hlisted := Table.get?_insert_self f.byTxid serving.txid serving
      exact congrArg Option.isSome hlisted
    · rw [hgate] at hbegun'
      cases hbegun'
  · have hlisted : ((f.publish t uri (.ok serving)).setTask t
        (.fetch uri (.fill (.ok serving)))).byTxid.get? x = f.byTxid.get? x :=
      Table.get?_insert_of_ne _ _ hx
    refine h.of_fate (fateOf_setCell_of_ne hx) (fun hnone => hlisted.trans hnone)
      (fun _ hsome => ?_) rfl rfl ⟨?_, nofun, nofun, nofun⟩
    · rw [hlisted]
      exact hsome
    · rw [hget]
      exact (decide_eq_false fun heq => hx heq.symm).symm

/-- A listed serving whose gate is open is the tables'. -/
theorem tables_of_listed (hplaced : Placed f) (hserved : Served f)
    (hlisted : f.byTxid.get? txid = some serving) (hbegun : f.begunOf serving.txid = false) :
    serving.txid = txid ∧ f.holderOf serving.txid = some .tables := by
  obtain ⟨hself, holder, hholds, hlist⟩ := hplaced.listed txid serving hlisted
  refine ⟨hself, ?_⟩
  rw [← hself] at hholds
  obtain ⟨cell, hcell, rfl⟩ := Option.map_eq_some_iff.1 hholds
  have hgate : cell.holder.begun = false := by
    refine Bool.eq_false_iff.2 fun htrue => ?_
    rw [(reads_of_get? hcell).2.2.1, (hserved.begun _ cell hcell htrue).1] at hbegun
    cases hbegun
  rw [hholds]
  cases hkind : cell.holder with
  | tables => rfl
  | fetch | aborter =>
    rw [hkind] at hlist
    cases hlist
  | taker | server =>
    rw [hkind] at hgate
    cases hgate

/-- A sink in the tables, before one task takes it. -/
theorem OwnedAt.of_tables (h : OwnedAt f x) (hholds : f.holderOf x = some .tables) :
    ∃ cell, f.cells.get? x = some cell ∧ cell.ended = none ∧ cell.begun = false ∧
      cell.rxTaken = false ∧ f.terminals x = [] ∧
        ∀ holder, f.holderOf x = some holder → holder.early = true := by
  obtain ⟨cell, hcell, -⟩ := Option.map_eq_some_iff.1 hholds
  obtain ⟨-, hended, hbegun, hrx⟩ := reads_of_get? hcell
  have hearly : ∀ holder, f.holderOf x = some holder → holder.early = true := by
    intro holder hholds'
    rw [hholds] at hholds'
    cases hholds'
    rfl
  obtain ⟨hgate, huntaken⟩ := h.open_of_early hearly
  have hopen := (h.recorded hholds).2
  refine ⟨cell, hcell, hended.symm.trans hopen, hbegun.symm.trans hgate,
    hrx.symm.trans huntaken, ?_, hearly⟩
  rw [h.logged, hopen]
  rfl

/-- The begin that takes the gate has the sink. -/
theorem OwnedAt.accepts (h : OwnedAt f x) (hserved : Served f)
    (hget : f.tasks.get? t = some (.fetchBegin txidHex .lookup))
    (hholds : f.holderOf serving.txid = some .tables) :
    OwnedAt (((f.setCell serving.txid fun cell =>
      { cell with begun := true, holder := .taker t }).record
        (.beginAccepted serving.txid)).setTask t (.fetchBegin txidHex (.takeRx serving))) x := by
  by_cases hx : x = serving.txid
  · subst hx
    obtain ⟨cell, hcell, hended, -, huntaken, hlog, hearly⟩ := h.of_tables hholds
    refine OwnedAt.passes (fun t' task' hget' => h.untouched hserved hearly hget')
      (get?_setCell_self hcell) hended huntaken hlog rfl nofun (fun _ => rfl) (fun t' ht' => ?_)
      nofun rfl rfl
    cases ht'
    exact ⟨rfl, decide_eq_true rfl⟩
  · refine h.of_fate (fateOf_setCell_of_ne hx) (fun hnone => hnone) (fun _ hsome => hsome)
      (terminals_cons rfl rfl) rfl ⟨?_, nofun, nofun, nofun⟩
    rw [hget]
    exact decide_eq_false fun heq => hx heq.symm

/-- The abort that finds the gate open has the sink; else who took the gate
keeps it. -/
theorem OwnedAt.evicts (h : OwnedAt f x) (hplaced : Placed f) (hserved : Served f)
    (hget : f.tasks.get? t = some (.fetchAbort txidHex .lookup))
    (hlisted : f.byTxid.get? txid = some serving) :
    OwnedAt (((f.evict serving txid).setCell serving.txid fun cell =>
      if cell.begun then cell else { cell with holder := .aborter t }).setTask t
        (.fetchAbort txidHex (.swap serving))) x := by
  obtain ⟨hself, holder, hholds, hlist⟩ := hplaced.listed txid serving hlisted
  rw [← hself] at hholds
  by_cases hx : x = serving.txid
  · subst hx
    have hgone : (f.evict serving txid).byTxid.get? serving.txid = none := by
      rw [hself]
      exact Table.get?_erase_self _ _
    by_cases hbegun : f.begunOf serving.txid = true
    · -- the gate is taken: nothing changes hands
      obtain ⟨cell, hcell, -⟩ := Option.map_eq_some_iff.1 hholds
      have hclosed : cell.begun = true := (reads_of_get? hcell).2.2.1 ▸ hbegun
      have hkind : holder.begun = true := by
        obtain ⟨holder', hholds', hkind⟩ := h.closed hbegun
        rw [hholds, Option.some.injEq] at hholds'
        rw [hholds']
        rcases hkind with hkind | ⟨t', heq⟩
        · exact hkind
        · rw [hholds', heq] at hlist
          cases hlist
      have hsame : ((f.evict serving txid).setCell serving.txid fun cell =>
          if cell.begun then cell else { cell with holder := .aborter t }).cells.get?
            serving.txid = f.cells.get? serving.txid := by
        rw [get?_setCell_self (f := f.evict serving txid) hcell, if_pos hclosed]
        exact hcell.symm
      refine h.frame (congrArg (Option.map Cell.fate) hsame) (fun _ => hgone)
        (fun htables _ => ?_) rfl rfl ?_ ⟨fun _ => ⟨hgone, holder, ?_, .inr hkind⟩, nofun, nofun⟩
      · rw [hholds, Option.some.injEq] at htables
        rw [htables] at hkind
        cases hkind
      · rw [hget, hbegun]
        exact Bool.and_false _
      · exact (congrArg (Option.map Cell.holder) hsame).trans hholds
    · have htables := (tables_of_listed hplaced hserved hlisted (Bool.eq_false_iff.2 hbegun)).2
      obtain ⟨cell, hcell, hended, hopen, huntaken, hlog, hearly⟩ := h.of_tables htables
      have hcell' : ((f.evict serving txid).setCell serving.txid fun cell =>
          if cell.begun then cell else { cell with holder := .aborter t }).cells.get? serving.txid =
            some { cell with holder := .aborter t } := by
        rw [get?_setCell_self (f := f.evict serving txid) hcell, hopen]
        rfl
      refine OwnedAt.passes (fun t' task' hget' => h.untouched hserved hearly hget') hcell' hended
        huntaken hlog rfl nofun (fun htrue => ?_) (fun t' ht' => ?_) (fun _ => ⟨hgone, rfl⟩) rfl rfl
      · rw [hopen] at htrue
        cases htrue
      · cases ht'
        refine ⟨rfl, ?_⟩
        simp [Task.inHand, hopen]
  · have hlisted' : (f.evict serving txid).byTxid.get? x = f.byTxid.get? x :=
      Table.get?_erase_of_ne _ fun heq => hx (heq.trans hself.symm)
    refine h.of_fate (fateOf_setCell_of_ne hx) (fun hnone => hlisted'.trans hnone)
      (fun _ hsome => ?_) rfl rfl ⟨?_, fun habort => ?_, nofun, nofun⟩
    · exact (congrArg Option.isSome hlisted').trans hsome
    · rw [hget]
      have hne : serving.txid ≠ x := fun heq => hx heq.symm
      simp [Task.inHand, hne]
    · cases habort
      exact absurd rfl hx

/-- The serving task that is spawned has the sink. -/
theorem OwnedAt.hands (h : OwnedAt f x) (hplaced : Placed f) (hserved : Served f)
    (hget : f.tasks.get? t = some (.fetchBegin txidHex (.takeRx serving))) :
    OwnedAt (f.spawnsServing t txidHex serving) x := by
  have hholds := hserved.taking t _ serving.txid hget rfl
  by_cases hx : x = serving.txid
  · subst hx
    obtain ⟨cell, hcell, -⟩ := Option.map_eq_some_iff.1 hholds
    obtain ⟨-, hended, -, -⟩ := reads_of_get? hcell
    have hopen := h.not_ended hholds rfl hget (decide_eq_true rfl)
    obtain ⟨hholder', hended', -, -⟩ := reads_of_get?
      (f := f.spawnsServing t txidHex serving) (get?_setCell_self hcell)
    rw [← hended, hopen] at hended'
    refine ⟨fun htables => ?_, fun holder t' hholds' ht' => ?_, ?_,
      fun _ => ⟨_, hholder', .inl rfl⟩, fun _ => ⟨_, hholder'⟩, fun t' hholds' => .inl hended', ?_⟩
    · rw [hholder'] at htables
      cases htables
    · rw [hholder'] at hholds'
      cases hholds'
      cases ht'
      rw [hended']
      exact (congrArg (Option.any _) (Table.get?_insert_self _ _ _)).trans (decide_eq_true rfl)
    · have hbegin : Uninvolved serving.txid (.fetchBegin txidHex (.spawned serving)) :=
        ⟨nofun, nofun, nofun⟩
      have hstart : Uninvolved serving.txid (.serving serving.uri serving.txid .start) :=
        ⟨nofun, nofun, nofun⟩
      refine entitled_insert hstart.entitled fun _ _ _ =>
        entitled_insert hbegin.entitled (fun t' task' _ hget' => ?_) _ _
      refine ⟨fun habort => ?_, fun hdiscard => ?_, fun op hend => ?_⟩
      · exact ⟨((h.entitled t' task' hget').aborts habort).1, _, hholder', .inr rfl⟩
      · cases hholds.symm.trans ((h.entitled t' task' hget').discards hdiscard)
      · cases hholds.symm.trans (hserved.serving t' task' _ hget' (serves_of_through hend))
    · rw [hended']
      refine h.logged.trans ?_
      rw [hopen]
  · have hmoved : OwnedAt (f.handsOver t txidHex serving) x := by
      refine h.of_fate (fateOf_setCell_of_ne hx) (fun hnone => hnone) (fun _ hsome => hsome) rfl rfl
        ⟨?_, nofun, nofun, nofun⟩
      rw [hget]
      exact (decide_eq_false fun heq => hx heq.symm).symm
    have hnew : (f.handsOver t txidHex serving).tasks.get? f.next = none :=
      (Table.get?_insert_of_ne _ _ (Nat.ne_of_gt (hplaced.fresh t _ hget))).trans hplaced.get?_next
    refine hmoved.of_aside rfl rfl rfl rfl ⟨?_, nofun, nofun, nofun⟩
    refine (decide_eq_false fun heq => hx heq.symm).trans ?_
    exact (congrArg (Option.any _) hnew).symm

/-- The abort that has the sink closes the gate behind it. -/
theorem OwnedAt.claims (h : OwnedAt f x) (hserved : Served f) (howned : OwnedAt f serving.txid)
    (hget : f.tasks.get? t = some (.fetchAbort txidHex (.swap serving)))
    (hbegun : f.begunOf serving.txid = false) :
    OwnedAt ((f.setCell serving.txid fun cell => { cell with begun := true }).setTask t
      (.fetchAbort txidHex (.unwrap serving.txid))) x := by
  have hholds : f.holderOf serving.txid = some (.aborter t) := by
    obtain ⟨-, holder, hholds, rfl | hkind⟩ := (howned.entitled t _ hget).aborts rfl
    · exact hholds
    · obtain ⟨cell, hcell, rfl⟩ := Option.map_eq_some_iff.1 hholds
      rw [(reads_of_get? hcell).2.2.1, (hserved.begun _ cell hcell hkind).1] at hbegun
      cases hbegun
  by_cases hx : x = serving.txid
  · subst hx
    obtain ⟨cell, hcell, hholder⟩ := Option.map_eq_some_iff.1 hholds
    obtain ⟨-, hended, -, hrx⟩ := reads_of_get? hcell
    have hopen := h.not_ended hholds rfl hget (by simp [Task.inHand, hbegun])
    obtain ⟨hholder', hended', -, hrx'⟩ := reads_of_get?
      (f := (f.setCell serving.txid fun cell => { cell with begun := true }).setTask t
        (.fetchAbort txidHex (.unwrap serving.txid))) (get?_setCell_self hcell)
    rw [← hended, hopen] at hended'
    rw [hholder] at hholder'
    refine ⟨fun htables => ?_, fun holder t' hholds' ht' => ?_, ?_,
      fun _ => ⟨_, hholder', .inr ⟨t, rfl⟩⟩, fun htaken => ?_, fun t' hholds' => .inl hended', ?_⟩
    · rw [hholder'] at htables
      cases htables
    · rw [hholder'] at hholds'
      cases hholds'
      cases ht'
      rw [hended', setTask, Table.get?_insert_self]
      exact decide_eq_true rfl
    · -- the holder and the end are as they were
      refine entitled_insert ⟨(fun h => by cases h), fun _ => hholder', fun _ h => by cases h⟩
        fun t' task' _ hget' => ?_
      exact (h.entitled t' task' hget').congr (hholder'.trans hholds.symm)
        (hended'.trans hopen.symm) fun hnone => hnone
    · rw [hrx', ← hrx] at htaken
      obtain ⟨t', hserver⟩ := h.taken htaken
      cases hholds.symm.trans hserver
    · rw [hended']
      refine h.logged.trans ?_
      rw [hopen]
  · refine h.of_fate (fateOf_setCell_of_ne hx) (fun hnone => hnone) (fun _ hsome => hsome) rfl rfl
      ⟨?_, (fun h => by cases h), fun hdiscard => ?_, fun _ h => by cases h⟩
    · rw [hget]
      have hne : serving.txid ≠ x := fun heq => hx heq.symm
      simp [Task.inHand, hne]
    · cases hdiscard
      exact absurd rfl hx

theorem Ends.facts {op : Terminal} (h : Ends txid op old task) (begun : Bool) :
    old.inHand txid begun = true ∧ (∀ y, task.inHand y begun = false) ∧ task.aborts = none ∧
      task.discards = none ∧ (∀ y p, task.through = some (y, p) → y = txid ∧ p = some op) := by
  cases h with
  | abort => exact ⟨decide_eq_true rfl, fun _ => rfl, rfl, rfl, nofun⟩
  | serving =>
    refine ⟨decide_eq_true rfl, fun _ => rfl, rfl, rfl, fun y p hend => ?_⟩
    cases hend
    exact ⟨rfl, rfl⟩

/-- Who has the sink ends it. -/
theorem OwnedAt.ends (h : OwnedAt f x) (hserved : Served f) {op : Terminal} {holder : Holder}
    (hget : f.tasks.get? t = some old) (hends : Ends txid op old task)
    (hholds : f.holderOf txid = some holder) (hholder : holder.task? = some t)
    (hop : ∀ t', holder = .aborter t' → op = .abort) :
    OwnedAt (((f.setCell txid fun cell => { cell with ended := some op }).record
      (.terminal txid op)).setTask t task) x := by
  by_cases hx : x = txid
  · subst hx
    obtain ⟨hhand, hdone, haborts, hdiscards, hthrough⟩ := hends.facts (f.begunOf x)
    obtain ⟨cell, hcell, rfl⟩ := Option.map_eq_some_iff.1 hholds
    obtain ⟨-, hended, hbegun, hrx⟩ := reads_of_get? hcell
    have hopen := h.not_ended hholds hholder hget hhand
    obtain ⟨hholder', hended', hbegun', hrx'⟩ := reads_of_get?
      (f := ((f.setCell x fun cell => { cell with ended := some op }).record
        (.terminal x op)).setTask t task) (get?_setCell_self hcell)
    have hholds' := hholder'.trans hholds.symm
    refine ⟨fun htables => ?_, fun holder t' hkeeps ht' => ?_, ?_, fun hclosed => ?_,
      fun htaken => ?_, fun t' hkeeps => .inr ?_, ?_⟩
    · rw [hholds', hholds, Option.some.injEq] at htables
      rw [htables] at hholder
      cases hholder
    · rw [hholder', Option.some.injEq] at hkeeps
      rw [← hkeeps] at ht'
      cases hholder.symm.trans ht'
      rw [hended', hbegun', ← hbegun]
      exact (congrArg (Option.any _) (Table.get?_insert_self _ _ _)).trans (hdone x)
    · refine entitled_insert ⟨fun habort => ?_, fun hdiscard => ?_, fun p hend => ?_⟩
        fun t' task' hne hget' => ⟨fun habort => ?_, fun hdiscard => ?_, fun p hend => ?_⟩
      · cases haborts.symm.trans habort
      · cases hdiscards.symm.trans hdiscard
      · rw [hended']
        exact (hthrough x p hend).2.symm
      · rw [hholds']
        exact (h.entitled t' task' hget').aborts habort
      · rw [hholds']
        exact (h.entitled t' task' hget').discards hdiscard
      · -- another serving task of the transaction would be its holder
        have hserver := hserved.serving t' task' x hget' (serves_of_through hend)
        rw [hholds, Option.some.injEq] at hserver
        rw [hserver] at hholder
        exact absurd (Option.some.inj hholder) hne
    · rw [hholds']
      exact h.closed (hbegun.trans (hbegun'.symm.trans hclosed))
    · rw [hholds']
      exact h.taken (hrx.trans (hrx'.symm.trans htaken))
    · rw [hholder', Option.some.injEq] at hkeeps
      rw [hended']
      exact congrArg some (hop t' hkeeps)
    · have hnil : f.terminals x = [] := by
        rw [h.logged, hopen]
        rfl
      have hends' : Event.ends x (.terminal x op) = some op := if_pos rfl
      rw [hended']
      exact (List.filterMap_cons_some hends').trans (congrArg (op :: ·) hnil)
  · obtain ⟨hhand, hdone, haborts, hdiscards, hthrough⟩ := hends.facts (f.begunOf x)
    refine h.of_fate (fateOf_setCell_of_ne hx) (fun hnone => hnone) (fun _ hsome => hsome)
      (terminals_cons rfl (if_neg fun heq => hx heq.symm)) rfl ⟨?_, fun habort => ?_,
        fun hdiscard => ?_, fun p hend => ?_⟩
    · rw [hget, hdone]
      cases hends <;> exact (decide_eq_false fun heq => hx heq.symm).symm
    · rw [haborts] at habort
      cases habort
    · rw [hdiscards] at hdiscard
      cases hdiscard
    · exact absurd (hthrough x p hend).1 hx

/-! ## Runs -/

/-- No handler is dropped while it owns a placeholder or a sink, and no sink
is shared when it is to be unwrapped. -/
def Kept (f : FetchService) : Action → Prop
  | .cancel t => (f.tasks.get? t).all Task.droppable = true
  | .advance t => ((f.tasks.get? t).bind Task.unwraps).all (fun txid => !f.sinkShared t txid) = true
  | _ => True

instance decidableKept : ∀ a, Decidable (Kept f a)
  | .cancel _ => inferInstanceAs (Decidable (_ = true))
  | .advance _ => inferInstanceAs (Decidable (_ = true))
  | .fetch .. | .fetchBegin .. | .fetchPause .. | .fetchResume .. | .fetchAbort .. | .resolved ..
  | .opened .. | .served .. | .control .. => isTrue trivial

/-- And so no terminal operation is skipped. -/
theorem Kept.not_skips (hkept : Kept f (.advance t)) (hget : f.tasks.get? t = some old)
    (hskips : Skips txid old task) (hshared : f.sinkShared t txid = true) : False := by
  have hsole : ((f.tasks.get? t).bind Task.unwraps).all (fun y => !f.sinkShared t y) = true :=
    hkept
  have hunwraps : old.unwraps = some txid := by cases hskips <;> rfl
  rw [hget, Option.bind_some, hunwraps, Option.all_some, hshared] at hsole
  cases hsole

theorem get?_removeServing : (f.removeServing txid).byTxid.get? x =
    if x = txid then none else f.byTxid.get? x := by
  unfold removeServing
  split
  · next hnone =>
    split
    · next hx => rw [hx, hnone]
    · rfl
  · exact Table.get?_erase _ _ _

theorem owned_effect (h : ∀ x, OwnedAt f x) (hplaced : Placed f) (hserved : Served f)
    (hkept : Kept f a) (heffect : Effect f a f') (x : TxId) : OwnedAt f' x := by
  cases heffect with
  | spawns hbegins =>
    refine (h x).of_aside rfl rfl rfl rfl ?_
    rw [hplaced.get?_next]
    exact aside_of_begins hbegins
  | @moves a t old task hget hmoves =>
    refine (h x).of_aside rfl rfl rfl rfl ?_
    rw [hget]
    refine hmoves.aside fun y htakes => Bool.eq_false_iff.2 fun htaken => ?_
    obtain ⟨t', hserver⟩ := (h y).taken htaken
    cases hserver.symm.trans (hserved.taking t old y hget htakes)
  | @cancels t old task hget hcancel =>
    have hdrop : (f.tasks.get? t).all Task.droppable = true := hkept
    rw [hget] at hdrop
    refine (h x).of_aside rfl rfl rfl rfl ?_
    rw [hget]
    exact aside_of_cancelled hdrop hcancel
  | places hget | fills hget =>
    refine (h x).of_aside rfl rfl rfl rfl ⟨?_, nofun, nofun, nofun⟩
    rw [hget]
    rfl
  | opens hget hfresh => exact (h x).opens hserved hget hfresh
  | publishes hget =>
    exact (h x).publishes hserved hget (hplaced.built _ _ _ _ hget rfl).2
  | @retracts t uri e hget =>
    have hsame := f.sameBut_publish_error t uri e
    refine (h x).of_aside hsame.cells (f.byTxid_publish_error t uri e)
      (congrArg (List.filterMap _) hsame.log)
      (congrArg (Table.insert · t _) hsame.tasks) ⟨?_, nofun, nofun, nofun⟩
    rw [hget]
    rfl
  | @notifies t uri outcome hget =>
    refine OwnedAt.of_aside (h x).wakes rfl rfl rfl rfl ⟨?_, nofun, nofun, nofun⟩
    rw [get?_wakes_notify hget]
    rfl
  | accepts hget hparse hlisted hbegun =>
    exact (h x).accepts hserved hget (tables_of_listed hplaced hserved hlisted hbegun).2
  | hands hget => exact (h x).hands hplaced hserved hget
  | controls change hget hcontrols =>
    refine (h x).of_fate (map_setCell_of_same fun _ => rfl) (fun hnone => hnone)
      (fun _ hsome => hsome) rfl rfl ?_
    rw [hget]
    cases hcontrols with
    | flow | keeps | stops => exact ⟨rfl, nofun, nofun, nofun⟩
    | signal => exact ⟨rfl, fun habort => habort, nofun, nofun⟩
  | evicts hget hparse hlisted => exact (h x).evicts hplaced hserved hget hlisted
  | claims hget hbegun => exact (h x).claims hserved (h _) hget hbegun
  | skips hget hskips hshared => exact (hkept.not_skips hget hskips hshared).elim
  | starts hget =>
    refine (h x).of_aside rfl rfl (terminals_cons rfl rfl) rfl ⟨?_, nofun, nofun, nofun⟩
    rw [hget]
    rfl
  | @removes t uri txid aborted hget =>
    have hsame := f.sameBut_removeServing txid
    have hholds := hserved.serving t _ txid hget rfl
    have hlisted : ((f.removeServing txid).setTask t
        (.serving uri txid (.unwrap aborted))).byTxid.get? x =
          if x = txid then none else f.byTxid.get? x := get?_removeServing
    refine (h x).of_fate (congrArg (fun cells => (cells.get? x).map Cell.fate) hsame.cells)
      (fun hnone => ?_) (fun htables hsome => ?_) (congrArg (List.filterMap _) hsame.log)
      (congrArg (Table.insert · t _) hsame.tasks) ⟨?_, nofun, nofun, nofun⟩
    · rw [hlisted, hnone, ite_self]
    · rw [hlisted, if_neg fun heq => ?_]
      · exact hsome
      · rw [heq] at htables
        cases htables.symm.trans hholds
    · rw [hget]
      rfl
  | ends hget hends =>
    cases hends with
    | abort =>
      exact (h x).ends hserved hget .abort (((h _).entitled _ _ hget).discards rfl) rfl
        fun _ _ => rfl
    | serving => exact (h x).ends hserved hget .serving (hserved.serving _ _ _ hget rfl) rfl nofun

theorem tidy_of_kept (h : Kept f a) : Tidy f a := by
  cases a with
  | cancel t =>
    intro task hget uri
    have hdrop : (f.tasks.get? t).all Task.droppable = true := h
    rw [hget] at hdrop
    cases task with
    | fetch u pc => cases pc <;> first | rfl | cases hdrop
    | fetchBegin | fetchFlow | fetchAbort | serving => rfl
  | fetch | fetchBegin | fetchPause | fetchResume | fetchAbort | advance | resolved | opened
  | served | control => trivial

theorem owned_of_run {acts : List Action} (hmeets : RunMeets step Kept new acts)
    (hrun : run step new acts = some f) : Sound f ∧ ∀ x, OwnedAt f x :=
  run_induct_of (I := fun f => Sound f ∧ ∀ x, OwnedAt f x)
    (fun _ _ _ h hkept hstep => ⟨h.1.effect (tidy_of_kept hkept) (step_effect hstep),
      owned_effect h.2 h.1.placed h.1.served hkept (step_effect hstep)⟩)
    ⟨sound_new, fun _ => ownedAt_new⟩ hmeets hrun

/-- Publishing replaces the placeholder or evicts it. -/
theorem publish_replaces {outcome : Outcome}
    (hget : f.tasks.get? t = some (.fetch uri (.publish outcome)))
    (hstep : f.step (.advance t) = some f') : f'.byUri.get? uri ≠ some (.resolving t) := by
  have hadv : f.advanceFetch t uri (.publish outcome) = some f' := by
    rw [step, hget] at hstep
    exact hstep
  cases hadv
  intro hresolving
  cases outcome with
  | ok serving =>
    cases (Table.get?_insert_self f.byUri uri (.ready serving)).symm.trans hresolving
  | error e =>
    simp only [publish, setTask] at hresolving
    split at hresolving
    · rw [Table.get?_erase_self] at hresolving
      cases hresolving
    · next hother => exact hother hresolving

/-- **No placeholder and no sink is lost** where no handler is dropped while
it owns one and no sink is shared when it is to be unwrapped. A placeholder
has a fetch that is still to publish, which then takes the placeholder away;
a sink that was opened is recorded under its transaction, or ended, or in
the hands of a task that is to record it or to end it. -/
theorem nothing_orphaned {acts : List Action} (hmeets : RunMeets step Kept new acts)
    (hrun : run step new acts = some f) :
    (∀ uri t, f.byUri.get? uri = some (.resolving t) →
      ∃ task, f.tasks.get? t = some task ∧ task.owns uri = true) ∧
    (∀ uri t outcome f', f.tasks.get? t = some (.fetch uri (.publish outcome)) →
      f.step (.advance t) = some f' → f'.byUri.get? uri ≠ some (.resolving t)) ∧
    (∀ x cell, f.cells.get? x = some cell → (f.byTxid.get? x).isSome = true ∨
      cell.ended.isSome = true ∨
        ∃ t task, f.tasks.get? t = some task ∧ task.inHand x cell.begun = true) := by
  obtain ⟨hsound, howned⟩ := owned_of_run hmeets hrun
  refine ⟨fun uri t hresolving => ?_, fun uri t outcome f' => publish_replaces,
    fun x cell hcell => ?_⟩
  · exact (Option.any_eq_true _ _).1 ((hsound.placed.resolving uri t).1 hresolving)
  · obtain ⟨hholds, hended, hbegun, -⟩ := reads_of_get? hcell
    cases htask : cell.holder.task? with
    | none =>
      have htables : cell.holder = .tables := by
        cases hkind : cell.holder with
        | tables => rfl
        | fetch | taker | server | aborter =>
          rw [hkind] at htask
          cases htask
      rw [htables] at hholds
      exact .inl ((howned x).recorded hholds).1
    | some t =>
      have hheld := (howned x).held cell.holder t hholds htask
      rw [hended, hbegun] at hheld
      cases hopen : cell.ended with
      | some op => exact .inr (.inl rfl)
      | none =>
        rw [hopen] at hheld
        obtain ⟨task, hget, hhand⟩ := (Option.any_eq_true _ _).1 hheld
        exact .inr (.inr ⟨t, task, hget, hhand⟩)

/-- A fetch is dropped before it looks at the tables; the next one resolves
and opens the sink. -/
theorem nothing_orphaned_sample :
    ∃ f cell, run step new [.fetch "res", .cancel 0, .fetch "res", .advance 1, .advance 1,
        .resolved 1 (.ok Sample.resource), .opened 1 (.ok zeroId)] = some f ∧
      f.byUri.get? "res" = some (.resolving 1) ∧ f.cells.get? zeroId = some cell ∧
      (∃ task, f.tasks.get? 1 = some task ∧ task.owns "res" = true) ∧
      ((f.byTxid.get? zeroId).isSome = true ∨ cell.ended.isSome = true ∨
        ∃ t task, f.tasks.get? t = some task ∧ task.inHand zeroId cell.begun = true) := by
  have hmeets : RunMeets step Kept new [.fetch "res", .cancel 0, .fetch "res", .advance 1,
      .advance 1, .resolved 1 (.ok Sample.resource), .opened 1 (.ok zeroId)] := by decide +kernel
  obtain ⟨f, cell, hrun, hcell, hresolving⟩ :
      ∃ f cell, run step new [.fetch "res", .cancel 0, .fetch "res", .advance 1, .advance 1,
          .resolved 1 (.ok Sample.resource), .opened 1 (.ok zeroId)] = some f ∧
        f.cells.get? zeroId = some cell ∧ f.byUri.get? "res" = some (.resolving 1) := by
    decide +kernel
  obtain ⟨hplaceholder, -, hsink⟩ := nothing_orphaned hmeets hrun
  exact ⟨_, _, hrun, hresolving, hcell, hplaceholder "res" 1 hresolving, hsink zeroId _ hcell⟩

/-- The fetch is dropped with its sink open: the placeholder stays for good,
and the sink is neither recorded nor ended, with no task left to do it. -/
theorem dropped_with_sink :
    ∃ f cell, run step new [.fetch "res", .advance 0, .advance 0,
        .resolved 0 (.ok Sample.resource), .opened 0 (.ok zeroId), .cancel 0] = some f ∧
      f.byUri.get? "res" = some (.resolving 0) ∧
      f.tasks.toList = [(0, .fetch "res" .cancelled)] ∧
      f.cells.get? zeroId = some cell ∧ cell.ended = none ∧ f.byTxid.get? zeroId = none := by
  decide +kernel

end FetchService

end Fetch

end Xacpp
