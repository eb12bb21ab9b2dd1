import Xacpp.Transfer.Ledger
/-!
# What `sink_finish` reports

`sink_finish` reads the absence of its copy as a confirmation, before it
closes the frame sequence and again after it registered its oneshot. A copy
has other ways to go: an abort, or a verdict on a transaction that was not
fully sent. A finish that starts after one of those, or that one of them
overtakes while it is still reading absence, reports a confirmation that
never was. Where neither happens, the ledger accounts for the absence, and
a reported confirmation is backed by a settlement that confirms.
-/

namespace Xacpp

namespace Transfer

open Reliability

/-- The event settles the transaction as confirmed. -/
def Event.confirms (txid : TxId) : Event → Bool
  | .settled id how => decide (id = txid) && how.confirms
  | _ => false

/-- The event settles the transaction as failed or aborted. -/
def Event.denies (txid : TxId) : Event → Bool
  | .settled id how => decide (id = txid) && !how.confirms
  | _ => false

/-- The event opens the transaction or settles it. -/
def Event.concerns (txid : TxId) : Event → Bool
  | .opened id | .settled id _ => decide (id = txid)
  | _ => false

theorem Event.isEntry_of_concerns {txid : TxId} (e : Event) (h : e.concerns txid = true) :
    e.isEntry = true := by
  cases e <;> first | rfl | cases h

/-- The finish will still read absence as a confirmation. Between the two
readings stands the close, which fails on an absent copy. -/
def FinishPc.undecided : FinishPc → Bool
  | .fastPath | .sampleGate _ | .checkWiring .. | .parked .. | .flush .. | .announce
  | .announceWrite _ | .register | .recheck => true
  | .close | .aborting _ | .consume | .awaiting | .returned _ => false

/-- The finish has looked at the gate and may still write. -/
def FinishPc.pastGate : FinishPc → Bool
  | .checkWiring .. | .parked .. | .flush .. | .announce | .announceWrite _ => true
  | .fastPath | .close | .aborting _ | .sampleGate _ | .register | .recheck | .consume | .awaiting
  | .returned _ => false

/-- The transaction whose absence the task will read as a confirmation. -/
def Task.undecided? : Task → Option TxId
  | .sinkFinish txid pc => if pc.undecided then some txid else none
  | _ => none

/-- The transaction the task's next stretch aborts. -/
def Task.aborts? : Task → Option TxId
  | .sinkAbort txid .lock | .sinkFinish txid (.aborting .lock) => some txid
  | _ => none

namespace Session

variable {s s' : Session} {a : Action} {k now : ℕ} {outcomes : List Bool} {txid : TxId}

variable {pc : FinishPc} {log : List Event}

/-- Some settlement of the history confirms the transaction. -/
def Confirmed (log : List Event) (txid : TxId) : Prop :=
  ∃ e ∈ log, e.confirms txid = true

instance (log : List Event) (txid : TxId) : Decidable (Confirmed log txid) :=
  inferInstanceAs (Decidable (∃ e ∈ log, e.confirms txid = true))

/-- The transaction was opened, and since then it has not been settled as
failed or aborted. -/
def Upheld (log : List Event) (txid : TxId) : Prop :=
  .opened txid ∈ log ∧ ∀ e ∈ sinceOpened txid log, e.denies txid = false

instance (log : List Event) (txid : TxId) : Decidable (Upheld log txid) :=
  inferInstanceAs (Decidable (_ ∧ _))

/-- The transactions whose copies the action may release unconfirmed. -/
def denied (s : Session) : Action → List TxId
  | .advance k _ _ => ((s.tasks.get? k).bind Task.aborts?).toList
  | .inbound _ frame now _ =>
    if frame.frameType = .resumeResponse then
      match decodeResumeResponse frame.payload with
      | .ok entries => (s.state.sender.applyResumeVerdicts entries now).1.failed
      | .error _ => []
    else []
  | _ => []

/-- **What leaves a finish undisturbed.** It starts while its copy is
pending, or when its transaction was opened and not settled as failed or
aborted since; and no copy is released unconfirmed while a finish of its
transaction is undecided. -/
def Undisturbed (s : Session) : Action → Prop
  | .start _ (.sinkFinish txid) =>
    s.state.sender.containsTransaction txid = true ∨ Upheld s.log txid
  | a => ∀ txid ∈ s.denied a, ∀ t ∈ s.tasks.values, t.undecided? ≠ some txid

instance decidableUndisturbed (s : Session) : ∀ a, Decidable (Undisturbed s a)
  | .start _ (.sinkFinish txid) =>
    inferInstanceAs (Decidable (_ = true ∨ Upheld s.log txid))
  | .advance k now outcomes =>
    inferInstanceAs (Decidable (∀ txid ∈ s.denied (.advance k now outcomes),
      ∀ t ∈ s.tasks.values, t.undecided? ≠ some txid))
  | .inbound conn frame now outcomes =>
    inferInstanceAs (Decidable (∀ txid ∈ s.denied (.inbound conn frame now outcomes),
      ∀ t ∈ s.tasks.values, t.undecided? ≠ some txid))
  | .start _ (.sinkWrite ..) | .start _ (.sinkAbort _) | .start _ (.sinkPause _)
  | .start _ (.sendBinary ..) | .start _ (.wire ..) | .start _ .unwire
  | .start _ .declarePendingSends | .openBinarySink .. | .sinkResume .. | .activity ..
  | .onBinary | .onBinaryStream | .close .. | .seeClosed .. =>
    isTrue (List.forall_mem_nil _)

/-! ## The steps of a finish -/

/-- What one stretch of `sink_finish` can do to its counter. -/
inductive FinishStep (s : Session) (k : ℕ) (txid : TxId) : FinishPc → FinishPc → Prop
  | moved {pc pc' : FinishPc} (h : FinishMoves s k txid pc pc') : FinishStep s k txid pc pc'
  /-- A transport write, or the registration. -/
  | worked {pc pc' : FinishPc} (hpc : pc.undecided = true) (hpc' : pc'.undecided = true)
      (hgate : pc'.pastGate = true → pc.pastGate = true) : FinishStep s k txid pc pc'
  | closed {tail : List Frame} (h : s.state.sender.containsTransaction txid = true) :
      FinishStep s k txid .close (.sampleGate tail)
  | aborted {pc : FinishPc} (pc' : AbortPc) : FinishStep s k txid pc (.ofAbort pc')
  | consumed : FinishStep s k txid .consume (.returned (some true))

theorem containsTransaction_of_finish {sender sender' : TransactionSender} {tail : List Frame}
    (h : sender.finishTransaction txid now = (.ok tail, sender')) :
    sender.containsTransaction txid = true := by
  obtain ⟨txn, hget, -⟩ := TransactionSender.finishTransaction_ok h
  exact TransactionSender.containsTransaction_of_get? hget

theorem Stretch.finish {pc pc' : FinishPc} (h : Stretch s k now outcomes (.sinkFinish txid pc) s')
    (hget : s'.tasks.get? k = some (.sinkFinish txid pc')) : FinishStep s k txid pc pc' := by
  -- the counter after the stretch is the one its constructor writes
  have hself : ∀ {t : Task} {m : Table ℕ Task}, s'.tasks = m.insert k t →
      t = .sinkFinish txid pc' := by
    intro t m htasks
    rw [htasks, Table.get?_insert_self, Option.some.injEq] at hget
    exact hget
  cases h with
  | quiet hmoves hsame htasks =>
    cases hself htasks
    cases hmoves with
    | finish hmoves => exact .moved hmoves
  | hand hok hhands =>
    cases hself rfl
    cases hhands <;> exact .worked rfl rfl fun _ => rfl
  | announce hann =>
    cases hself rfl
    cases hann with
    | finishAbort => exact .aborted (.returned true)
    | finish => exact .worked rfl rfl fun _ => rfl
  | close hclose =>
    cases hself rfl
    exact .closed (containsTransaction_of_finish hclose)
  | closeFails hclose =>
    cases hself rfl
    exact .aborted (.lock)
  | abort hlock haborts =>
    cases hself rfl
    cases haborts with
    | finish => exact .aborted (.readWiring)
    | finishFails => exact .aborted (.returned true)
  | register =>
    cases hself rfl
    exact .worked rfl rfl fun h => by cases h
  | consume =>
    cases hself rfl
    exact .consumed

/-- **Where a finish comes from**: it stood there, it starts, or it took
one stretch. -/
theorem finish_origin (hstep : step s a = some s') {pc' : FinishPc}
    (hget' : s'.tasks.get? k = some (.sinkFinish txid pc')) :
    s.tasks.get? k = some (.sinkFinish txid pc') ∨
      (a = .start k (.sinkFinish txid) ∧ pc' = .fastPath) ∨
      ∃ now outcomes pc, a = .advance k now outcomes ∧
        s.tasks.get? k = some (.sinkFinish txid pc) ∧ FinishStep s k txid pc pc' := by
  cases step_task hstep hget' with
  | stood hget => exact .inl hget
  | @started call hcall ht =>
    cases call with
    | sinkFinish id => cases ht; exact .inr (.inl ⟨rfl, rfl⟩)
    | _ => cases ht
  | @advanced now outcomes t hget hstretch =>
    obtain ⟨t', hts⟩ := hstretch.tasks
    have hcall := hts.call
    rw [hts.self, Option.some.injEq] at hget'
    rw [hget'] at hcall
    cases t with
    | sinkFinish id pc =>
      cases hcall
      exact .inr (.inr ⟨now, outcomes, pc, rfl, hget, hstretch.finish (hget' ▸ hts.self)⟩)
    | _ => cases hcall
  | clock ht => cases ht

/-! ## What becomes of a copy -/

/-- A settlement entered by a section is in the history after it. -/
theorem Confirmed.of_settled {how : Settlement}
    (hmem : .settled txid how ∈ log) (hhow : how.confirms = true) : Confirmed log txid := by
  refine ⟨_, hmem, ?_⟩
  rw [Event.confirms, decide_eq_true rfl, hhow]
  rfl

theorem Confirmed.exists_settled (h : Confirmed log txid) :
    ∃ how, how.confirms = true ∧ .settled txid how ∈ log := by
  obtain ⟨e, he, hconf⟩ := h
  cases e with
  | settled id how =>
    rw [Event.confirms, Bool.and_eq_true, decide_eq_true_eq] at hconf
    exact ⟨how, hconf.2, hconf.1 ▸ he⟩
  | _ => cases hconf

theorem LedgerStep.enters (h : LedgerStep s a s') : ∃ entries, Enters s s' entries := by
  cases h with
  | settled hnodup hheld hpending htable hsinks hentries htaken hdenied
  | opened hnew hpending htable hsinks hentries
  | sent haction htask hnew hpending htable hsinks hentries
  | registered htask hpending htable hsinks hentries
  | dropped hwhy hpending htable hsinks hentries =>
    exact ⟨_, hentries⟩

theorem Confirmed.step (h : Confirmed s.log txid) (hledger : LedgerStep s a s') :
    Confirmed s'.log txid := by
  obtain ⟨entries, events, hlog, -⟩ := hledger.enters
  obtain ⟨e, he, hconf⟩ := h
  exact ⟨e, hlog ▸ List.mem_append_right _ he, hconf⟩

/-- What a section settles is entered. -/
theorem mem_settleEntries {table : Table TxId Callback} {closed : List (TxId × Settlement)}
    {taken : Bool} {c : TxId × Settlement} (hc : c ∈ closed) :
    .settled c.1 c.2 ∈ (settleEntries table closed taken).reverse := by
  rw [List.mem_reverse, settleEntries, List.mem_append]
  exact .inl (List.mem_map.2 ⟨c, hc, rfl⟩)

/-- **What becomes of a pending copy**: it stays, it is released confirmed,
or the step is one that denies it. -/
theorem LedgerStep.fate (h : LedgerStep s a s')
    (hpend : s.state.sender.containsTransaction txid = true) :
    s'.state.sender.containsTransaction txid = true ∨ Confirmed s'.log txid ∨ Denies s txid a := by
  cases h with
  | @settled closed taken hnodup hheld hpending htable hsinks hentries htaken hdenied =>
    by_cases hclosed : txid ∈ closed.map Prod.fst
    · obtain ⟨c, hc, rfl⟩ := List.mem_map.1 hclosed
      cases hconf : c.2.confirms with
      | true =>
        have hmem := (hentries.mem (e := .settled c.1 c.2) rfl).2 (.inl (mem_settleEntries hc))
        exact .inr (.inl (.of_settled hmem hconf))
      | false => exact .inr (.inr (hdenied c hc hconf))
    · exact .inl ((hpending txid).2 ⟨hpend, hclosed⟩)
  | opened hnew hpending htable hsinks hentries => exact .inl ((hpending txid).2 (.inl hpend))
  | sent haction htask hnew hpending htable hsinks hentries =>
    exact .inl ((hpending txid).2 (.inl hpend))
  | registered htask hpending htable hsinks hentries
  | dropped hwhy hpending htable hsinks hentries =>
    exact .inl ((hpending txid).trans hpend)

/-- Openings and settlements of a transaction by turns, newest first; the
flag says that the newest is an opening. -/
inductive TakeTurns (txid : TxId) : Bool → List Event → Prop
  | nil : TakeTurns txid false []
  | opened {log : List Event} (h : TakeTurns txid false log) :
      TakeTurns txid true (.opened txid :: log)
  | settled {log : List Event} (how : Settlement) (h : TakeTurns txid true log) :
      TakeTurns txid false (.settled txid how :: log)

/-- **The openings of a transaction are traced**: each was settled before
the next, and the last is settled unless its copy is pending. -/
def Traced (txid : TxId) (s : Session) : Prop :=
  TakeTurns txid (s.state.sender.containsTransaction txid)
    (s.log.filter (Event.concerns txid))

theorem filter_settleEntries (table : Table TxId Callback) (closed : List (TxId × Settlement))
    (taken : Bool) (txid : TxId) :
    (settleEntries table closed taken).filter (Event.concerns txid) =
      (closed.filter fun c => decide (c.1 = txid)).map (Function.uncurry Event.settled) := by
  rw [settleEntries, List.filter_append, List.filter_map]
  split
  · rw [List.filter_map]
    simp [Function.comp_def, Function.uncurry_def, Event.concerns]
  · simp [Function.comp_def, Function.uncurry_def, Event.concerns]

/-- A step that neither opens the transaction nor settles it. -/
theorem Traced.kept (h : Traced txid s) {entries : List Event}
    (hentries : Enters s s' entries) (hnone : entries.filter (Event.concerns txid) = [])
    (hpend : s'.state.sender.containsTransaction txid =
      s.state.sender.containsTransaction txid) : Traced txid s' := by
  rw [Traced, hpend, hentries.filter Event.isEntry_of_concerns, hnone]
  exact h

/-- A step that opens a copy of some transaction, where there was none. -/
theorem Traced.opened (h : Traced txid s) {id : TxId} {entries : List Event}
    (hentries : Enters s s' entries)
    (hopens : entries.filter (Event.concerns txid) = if id = txid then [.opened id] else [])
    (hnew : s.state.sender.containsTransaction id = false)
    (hpending : ∀ i, s'.state.sender.containsTransaction i = true ↔
      s.state.sender.containsTransaction i = true ∨ i = id) : Traced txid s' := by
  by_cases hid : id = txid
  · subst hid
    rw [Traced, (hpending id).2 (.inr rfl), hentries.filter Event.isEntry_of_concerns, hopens,
      if_pos rfl]
    rw [Traced, hnew] at h
    exact .opened h
  · exact h.kept hentries (hopens.trans (if_neg hid))
      (Bool.eq_iff_iff.2 ((hpending txid).trans (or_iff_left fun heq => hid heq.symm)))

/-- **Every step keeps the trace.** -/
theorem Traced.step (h : Traced txid s) (hstep : Session.step s a = some s') :
    Traced txid s' := by
  cases step_ledger hstep with
  | @settled closed taken hnodup hheld hpending htable hsinks hentries htaken hdenied =>
    have hfilter := filter_settleEntries s.state.completions closed taken txid
    by_cases hclosed : txid ∈ closed.map Prod.fst
    · have hlen : (closed.filter fun c => decide (c.1 = txid)).length = 1 := by
        rw [← List.count_eq_one_of_mem hnodup hclosed, List.count, List.countP_map,
          List.countP_eq_length_filter]
        rfl
      obtain ⟨c, hc⟩ := List.length_eq_one_iff.1 hlen
      have hmem : c ∈ closed.filter fun c => decide (c.1 = txid) := by simp [hc]
      have hid : c.1 = txid := of_decide_eq_true (List.mem_filter.1 hmem).2
      have hgone : s'.state.sender.containsTransaction txid = false :=
        Bool.eq_false_iff.2 fun hpend => ((hpending txid).1 hpend).2 hclosed
      rw [Traced, hgone, hentries.filter Event.isEntry_of_concerns, List.filter_reverse, hfilter,
        hc]
      rw [Traced, hheld txid hclosed] at h
      exact hid ▸ .settled c.2 (hid ▸ h)
    · refine h.kept hentries ?_ (Bool.eq_iff_iff.2 ((hpending txid).trans (and_iff_left hclosed)))
      have hnone : (closed.filter fun c => decide (c.1 = txid)) = [] :=
        List.filter_eq_nil_iff.2 fun c hc hid =>
          hclosed (List.mem_map.2 ⟨c, hc, of_decide_eq_true hid⟩)
      rw [List.filter_reverse, hfilter, hnone]
      rfl
  | opened hnew hpending htable hsinks hentries
  | sent haction htask hnew hpending htable hsinks hentries =>
    exact h.opened hentries (by simp [Event.concerns, List.filter_cons]) hnew hpending
  | registered htask hpending htable hsinks hentries =>
    exact h.kept hentries rfl (hpending txid)
  | dropped hwhy hpending htable hsinks hentries => exact h.kept hentries rfl (hpending txid)

/-- The newest event of a transaction, if it is a settlement, came after the
last opening. -/
theorem mem_sinceOpened {log rest : List Event} {how : Settlement}
    (h : log.filter (Event.concerns txid) = .settled txid how :: rest) :
    .settled txid how ∈ sinceOpened txid log := by
  induction log with
  | nil => cases h
  | cons e log ih =>
    rw [sinceOpened, List.takeWhile_cons]
    cases hconcerns : e.concerns txid with
    | true =>
      rw [List.filter_cons_of_pos hconcerns] at h
      rw [(List.cons.inj h).1]
      exact List.mem_cons_self
    | false =>
      rw [List.filter_cons_of_neg (Bool.eq_false_iff.1 hconcerns)] at h
      have hopens : e.opens txid = false := by
        cases e with
        | opened id => exact hconcerns
        | _ => rfl
      rw [hopens]
      exact List.mem_cons_of_mem _ (ih h)

/-- **What was opened and not denied since is pending or confirmed.** -/
theorem Traced.confirmed (h : Traced txid s) (hupheld : Upheld s.log txid) :
    s.state.sender.containsTransaction txid = true ∨ Confirmed s.log txid := by
  have hopened : .opened txid ∈ s.log.filter (Event.concerns txid) :=
    List.mem_filter.2 ⟨hupheld.1, decide_eq_true rfl⟩
  unfold Traced at h
  generalize hpend : s.state.sender.containsTransaction txid = pending at h
  generalize hlog : s.log.filter (Event.concerns txid) = log at h
  cases h with
  | nil => exact absurd (hlog ▸ hopened) List.not_mem_nil
  | opened h => exact .inl rfl
  | settled how h =>
    have hmem := mem_sinceOpened hlog
    have hnot := hupheld.2 _ hmem
    rw [Event.denies, decide_eq_true rfl, Bool.true_and, Bool.not_eq_false'] at hnot
    exact .inr (.of_settled (List.takeWhile_subset _ hmem) hnot)

theorem TakeTurns.eq_singleton (h : TakeTurns txid true log)
    (honce : log.countP (Event.opens txid) ≤ 1) : log = [.opened txid] := by
  cases h with
  | opened h =>
    cases h with
    | nil => rfl
    | settled how h =>
      cases h with
      | opened h => simp [Event.opens] at honce

/-- The one settlement of a transaction that was opened once. -/
theorem TakeTurns.settled_unique {pending : Bool}
    (h : TakeTurns txid pending log) (honce : log.countP (Event.opens txid) ≤ 1)
    {how how' : Settlement} (hmem : .settled txid how ∈ log) (hmem' : .settled txid how' ∈ log) :
    how = how' := by
  cases h with
  | nil => cases hmem
  | opened h =>
    rw [h.opened.eq_singleton honce] at hmem
    simp at hmem
  | settled x h =>
    rw [h.eq_singleton ((List.sublist_cons_self _ _).countP_le.trans honce)] at hmem hmem'
    simp only [List.mem_cons, Event.settled.injEq, true_and, reduceCtorEq, List.not_mem_nil,
      or_false] at hmem hmem'
    exact hmem.trans hmem'.symm

theorem Traced.settled_unique (h : Traced txid s)
    (honce : s.log.countP (Event.opens txid) ≤ 1) {how how' : Settlement}
    (hmem : .settled txid how ∈ s.log) (hmem' : .settled txid how' ∈ s.log) : how = how' :=
  TakeTurns.settled_unique h (List.filter_sublist.countP_le.trans honce)
    (List.mem_filter.2 ⟨hmem, decide_eq_true rfl⟩) (List.mem_filter.2 ⟨hmem', decide_eq_true rfl⟩)

/-- What denies a copy is among what the action may deny. -/
theorem Denies.mem_denied (h : Denies s txid a) : txid ∈ s.denied a := by
  cases h with
  | abort htask =>
    rcases htask with htask | htask
    · simp [denied, htask, Task.aborts?]
    · simp [denied, htask, Task.aborts?]
  | verdict htype hdec hfailed =>
    simp only [denied, if_pos htype, hdec]
    exact hfailed

/-- Under the guard nothing denies the copy of an undecided finish. -/
theorem Undisturbed.not_denies (h : Undisturbed s a)
    (hget : s.tasks.get? k = some (.sinkFinish txid pc)) (hpc : pc.undecided = true) :
    ¬ Denies s txid a := by
  intro hdenies
  have hmem : Task.sinkFinish txid pc ∈ s.tasks.values :=
    Table.mem_values.2 ⟨k, hget⟩
  have hundec : (Task.sinkFinish txid pc).undecided? = some txid := by
    rw [Task.undecided?, if_pos hpc]
  cases hdenies with
  | abort htask => exact h txid (Denies.abort htask).mem_denied _ hmem hundec
  | verdict htype hdec hfailed =>
    exact h txid (Denies.verdict htype hdec hfailed).mem_denied _ hmem hundec

/-- The task runs a finish of the transaction. -/
def Finishes (s : Session) (k : ℕ) (txid : TxId) : Prop :=
  ∃ t, s.tasks.get? k = some t ∧ t.call? = some (.sinkFinish txid)

theorem Finishes.step (h : Finishes s k txid) (hstep : Session.step s a = some s') :
    Finishes s' k txid := by
  obtain ⟨t, hget, hcall⟩ := h
  obtain ⟨t', hget', hcall', -⟩ := tasks_persist hstep hget
  exact ⟨t', hget', hcall'.trans hcall⟩

theorem Finishes.of_get? (hget : s.tasks.get? k = some (.sinkFinish txid pc)) :
    Finishes s k txid := ⟨_, hget, rfl⟩

/-- A task finishes one transaction. -/
theorem Finishes.unique {id : TxId} (h : Finishes s k id)
    (hget : s.tasks.get? k = some (.sinkFinish txid pc)) : id = txid := by
  obtain ⟨t, hget', hcall⟩ := h
  rw [hget, Option.some.injEq] at hget'
  rw [← hget'] at hcall
  cases hcall
  rfl

/-! ## Oneshots -/

/-- **The oneshots.** One in the table or in the history belongs to a finish
of the transaction it stands for, and one that was told a confirmation
stands for a confirmed transaction. -/
structure Oneshots (s : Session) : Prop where
  table : ∀ id k, s.state.completions.get? id = some (.finish k) → Finishes s k id
  fired : ∀ id k confirmed, .fired (.finish k) ⟨id, confirmed⟩ ∈ s.log → Finishes s k id
  confirmed : ∀ id cb, .fired cb ⟨id, true⟩ ∈ s.log → Confirmed s.log id

/-- What a section fires, it took out of the table for what it closed. -/
theorem mem_fired_settleEntries {table : Table TxId Callback}
    {closed : List (TxId × Settlement)} {taken : Bool} {cb : Callback} {id : TxId}
    {confirmed : Bool}
    (h : .fired cb ⟨id, confirmed⟩ ∈ (settleEntries table closed taken).reverse) :
    table.get? id = some cb ∧ ∃ how, (id, how) ∈ closed ∧ how.confirms = confirmed := by
  rw [List.mem_reverse, settleEntries, List.mem_append] at h
  rcases h with h | h
  · obtain ⟨c, -, hc⟩ := List.mem_map.1 h
    cases hc
  · split at h
    · obtain ⟨⟨cb', result⟩, hmem, hc⟩ := List.mem_map.1 h
      cases hc
      obtain ⟨c, hclosed, hmap⟩ := List.mem_filterMap.1 hmem
      obtain ⟨cb₀, hget, heq⟩ := Option.map_eq_some_iff.1 hmap
      cases heq
      exact ⟨hget, c.2, hclosed, rfl⟩
    · cases h

/-- A step that fires nothing and adds to the table at most the oneshot of
a finish for its own transaction. -/
theorem Oneshots.kept (h : Oneshots s) (hstep : Session.step s a = some s')
    (hledger : LedgerStep s a s') {entries : List Event} (hentries : Enters s s' entries)
    (hfires : ∀ cb result, .fired cb result ∉ entries)
    (htable : ∀ id k, s'.state.completions.get? id = some (.finish k) →
      s.state.completions.get? id = some (.finish k) ∨ Finishes s k id) : Oneshots s' := by
  have hold : ∀ cb result, .fired cb result ∈ s'.log → .fired cb result ∈ s.log :=
    fun cb result hin => ((hentries.mem rfl).1 hin).resolve_left (hfires cb result)
  constructor
  · intro id k hget
    rcases htable id k hget with hget | hfin
    · exact (h.table id k hget).step hstep
    · exact hfin.step hstep
  · intro id k confirmed hin
    exact (h.fired id k confirmed (hold _ _ hin)).step hstep
  · intro id cb hin
    exact (h.confirmed id cb (hold _ _ hin)).step hledger

/-- **The oneshots are kept by every step.** -/
theorem Oneshots.step (h : Oneshots s) (hstep : Session.step s a = some s') : Oneshots s' := by
  have hledger := step_ledger hstep
  cases hledger with
  | @settled closed taken hnodup hheld hpending htable hsinks hentries htaken hdenied =>
    constructor
    · intro id k hget
      rw [htable] at hget
      split at hget
      · cases hget
      · exact (h.table id k hget).step hstep
    · intro id k confirmed hin
      rcases (hentries.mem rfl).1 hin with hin | hin
      · exact (h.table id k (mem_fired_settleEntries hin).1).step hstep
      · exact (h.fired id k confirmed hin).step hstep
    · intro id cb hin
      rcases (hentries.mem rfl).1 hin with hin | hin
      · obtain ⟨-, how, hclosed, hconf⟩ := mem_fired_settleEntries hin
        have hmem := (hentries.mem (e := .settled id how) rfl).2 (.inl (mem_settleEntries hclosed))
        exact .of_settled hmem hconf
      · exact (h.confirmed id cb hin).step (step_ledger hstep)
  | opened hnew hpending htable hsinks hentries =>
    exact h.kept hstep (step_ledger hstep) hentries (by simp) fun id k hget => .inl (htable ▸ hget)
  | sent haction htask hnew hpending htable hsinks hentries =>
    refine h.kept hstep (step_ledger hstep) hentries (by simp) fun id k hget => .inl ?_
    rw [htable, Table.get?_insert] at hget
    split at hget
    · cases hget
    · exact hget
  | registered htask hpending htable hsinks hentries =>
    refine h.kept hstep (step_ledger hstep) hentries (by simp) fun id k hget => ?_
    rw [htable, Table.get?_insert] at hget
    split at hget
    · next heq =>
      cases hget
      exact .inr (heq ▸ .of_get? htask)
    · exact .inl hget
  | dropped hwhy hpending htable hsinks hentries =>
    refine h.kept hstep (step_ledger hstep) hentries (by simp) fun id k hget => .inl ?_
    rw [htable] at hget
    exact (Table.of_get?_erase hget).2

/-- A finish that was told a confirmation has one. -/
theorem Oneshots.of_firedResult (h : Oneshots s)
    (hget : s.tasks.get? k = some (.sinkFinish txid pc)) (hfired : s.firedResult k = some true) :
    Confirmed s.log txid := by
  obtain ⟨e, he, hresult⟩ := List.exists_of_findSome?_eq_some hfired
  cases e with
  | fired cb result =>
    cases cb with
    | finish k' =>
      simp only [Option.ite_none_right_eq_some, Option.some.injEq] at hresult
      obtain ⟨rfl, hconf⟩ := hresult
      obtain ⟨id, confirmed⟩ := result
      cases hconf
      have hid := (h.fired id k' true he).unique hget
      exact hid ▸ h.confirmed id _ he
    | user n => cases hresult
  | _ => cases hresult

/-! ## The report -/

/-- **The report of a finish.** While it is undecided its copy is pending or
confirmed, and once it has decided for a confirmation there is one. -/
structure Reports (s : Session) : Prop where
  undecided : ∀ k txid pc, s.tasks.get? k = some (.sinkFinish txid pc) → pc.undecided = true →
    s.state.sender.containsTransaction txid = true ∨ Confirmed s.log txid
  decided : ∀ k txid pc, s.tasks.get? k = some (.sinkFinish txid pc) →
    pc = .consume ∨ pc = .returned (some true) → Confirmed s.log txid
  oneshots : Oneshots s
  traced : ∀ txid, Traced txid s

theorem Reports.new (config : TransferConfig) (now : ℕ) : Reports (.new config now) where
  undecided _ _ _ hget := by cases hget
  decided _ _ _ hget := by cases hget
  oneshots :=
    { table := fun _ _ hget => by cases hget
      fired := fun _ _ _ hin => absurd hin List.not_mem_nil
      confirmed := fun _ _ hin => absurd hin List.not_mem_nil }
  traced _ := .nil

/-- What an undecided finish reads is kept by a step that leaves it
undisturbed. -/
theorem Undisturbed.keeps (h : Undisturbed s a) (hstep : step s a = some s')
    (hget : s.tasks.get? k = some (.sinkFinish txid pc)) (hpc : pc.undecided = true)
    (hreads : s.state.sender.containsTransaction txid = true ∨ Confirmed s.log txid) :
    s'.state.sender.containsTransaction txid = true ∨ Confirmed s'.log txid := by
  rcases hreads with hpend | hconf
  · rcases (step_ledger hstep).fate hpend with hpend | hconf | hdenies
    · exact .inl hpend
    · exact .inr hconf
    · exact absurd hdenies (h.not_denies hget hpc)
  · exact .inr (hconf.step (step_ledger hstep))

/-- An undecided finish that finds no copy has a confirmation. -/
theorem Reports.confirmed_of_absent (h : Reports s)
    (hget : s.tasks.get? k = some (.sinkFinish txid pc)) (hpc : pc.undecided = true)
    (habsent : s.state.sender.containsTransaction txid = false) : Confirmed s.log txid := by
  rcases h.undecided k txid pc hget hpc with hpend | hconf
  · rw [habsent] at hpend
    cases hpend
  · exact hconf

/-- Where an undecided counter comes from: an undecided one, or a close that
found the copy. -/
theorem FinishStep.undecided {pc pc' : FinishPc} (h : FinishStep s k txid pc pc')
    (hpc' : pc'.undecided = true) :
    pc.undecided = true ∨ (pc = .close ∧ s.state.sender.containsTransaction txid = true) := by
  cases h with
  | moved hmoves =>
    cases hmoves with
    | abort hab => cases hab <;> cases hpc'
    | pending hpend => cases hpc'
    | _ => first | exact .inl rfl | cases hpc'
  | worked hpc _ => exact .inl hpc
  | closed hpend => exact .inr ⟨rfl, hpend⟩
  | aborted pc' => cases pc' <;> cases hpc'
  | consumed => cases hpc'

/-- **How a finish decides for a confirmation**: it found no copy, it had
decided before, or its oneshot was told so. -/
theorem FinishStep.decided {pc pc' : FinishPc} (h : FinishStep s k txid pc pc')
    (hpc' : pc' = .consume ∨ pc' = .returned (some true)) :
    (pc.undecided = true ∧ s.state.sender.containsTransaction txid = false) ∨ pc = .consume ∨
      s.firedResult k = some true := by
  cases h with
  | moved hmoves =>
    cases hmoves with
    | absent habsent | gone habsent => exact .inl ⟨rfl, habsent⟩
    | @fired confirmed hfired =>
      rcases hpc' with hpc' | hpc'
      · cases hpc'
      · cases hpc'
        exact .inr (.inr hfired)
    | abort hab => cases hab <;> rcases hpc' with hpc' | hpc' <;> cases hpc'
    | _ => rcases hpc' with hpc' | hpc' <;> cases hpc'
  | worked _ hundec =>
    rcases hpc' with rfl | rfl <;> cases hundec
  | closed hpend => rcases hpc' with hpc' | hpc' <;> cases hpc'
  | aborted pc' => cases pc' <;> rcases hpc' with hpc' | hpc' <;> cases hpc'
  | consumed => exact .inr (.inl rfl)

/-- **Reports are kept by every step that leaves the finishes
undisturbed.** -/
theorem Reports.step (h : Reports s) (hun : Undisturbed s a)
    (hstep : Session.step s a = some s') : Reports s' := by
  have hledger := step_ledger hstep
  constructor
  · intro k txid pc' hget' hpc'
    rcases finish_origin hstep hget' with hget | ⟨rfl, rfl⟩ | ⟨now, outcomes, pc, rfl, hget, hfin⟩
    · exact hun.keeps hstep hget hpc' (h.undecided k txid pc' hget hpc')
    · -- a start touches no copy
      have hreads : s.state.sender.containsTransaction txid = true ∨ Confirmed s.log txid :=
        hun.elim .inl (h.traced txid).confirmed
      rcases hreads with hpend | hconf
      · rcases hledger.fate hpend with hpend | hconf | hdenies
        · exact .inl hpend
        · exact .inr hconf
        · cases hdenies
      · exact .inr (hconf.step hledger)
    · rcases hfin.undecided hpc' with hpc | ⟨rfl, hpend⟩
      · exact hun.keeps hstep hget hpc (h.undecided k txid pc hget hpc)
      · rcases hledger.fate hpend with hpend | hconf | hdenies
        · exact .inl hpend
        · exact .inr hconf
        · cases hdenies with
          | abort htask =>
            rw [hget] at htask
            rcases htask with htask | htask <;> cases htask
  · intro k txid pc' hget' hpc'
    rcases finish_origin hstep hget' with hget | ⟨rfl, rfl⟩ | ⟨now, outcomes, pc, rfl, hget, hfin⟩
    · exact (h.decided k txid pc' hget hpc').step hledger
    · rcases hpc' with hpc' | hpc' <;> cases hpc'
    · rcases hfin.decided hpc' with ⟨hpc, habsent⟩ | hpc | hfired
      · exact (h.confirmed_of_absent hget hpc habsent).step hledger
      · exact (h.decided k txid pc hget (.inl hpc)).step hledger
      · exact (h.oneshots.of_firedResult hget hfired).step hledger
  · exact h.oneshots.step hstep
  · exact fun txid => (h.traced txid).step hstep

/-- **A confirmation that is reported is one.** In every run that leaves its
finishes undisturbed, a `sink_finish` that returned a confirmation has a
settlement of its transaction that confirms, by the final ACK or by a
verdict on a fully sent copy; and if the transaction was opened once, it
was never closed as failed or aborted. -/
theorem finish_reports_confirmation {config : TransferConfig} {acts : List Action}
    (hmeets : RunMeets step Undisturbed (new config now) acts)
    (hrun : run step (new config now) acts = some s)
    (hget : s.tasks.get? k = some (.sinkFinish txid (.returned (some true)))) :
    (∃ how, how.confirms = true ∧ .settled txid how ∈ s.log) ∧
      (s.log.countP (Event.opens txid) ≤ 1 →
        .settled txid .failed ∉ s.log ∧ .settled txid .aborted ∉ s.log) := by
  have hreports : Reports s :=
    run_induct_of (fun _ _ _ hs hun hstep => hs.step hun hstep) (.new config now) hmeets hrun
  obtain ⟨how, hconf, hmem⟩ := (hreports.decided k txid _ hget (.inr rfl)).exists_settled
  refine ⟨⟨how, hconf, hmem⟩, fun honce => ⟨fun hfailed => ?_, fun haborted => ?_⟩⟩
  · rw [(hreports.traced txid).settled_unique honce hmem hfailed] at hconf
    cases hconf
  · rw [(hreports.traced txid).settled_unique honce hmem haborted] at hconf
    cases hconf

namespace Sample

/-- A sink of one byte is written, finished by task 3 and confirmed by the
final ACK. -/
def finished : List Action :=
  wireUp 0 0 1 0 ++
    [.openBinarySink zeroId 1 0, .start 2 (.sinkWrite zeroId [7]), .advance 2 0 [],
      .advance 2 0 [], .advance 2 0 [], .start 3 (.sinkFinish zeroId)] ++
    List.replicate 10 (.advance 3 0 []) ++
    [.inbound 0 (controlFrame .ack ([1] ++ zeroId.toList ++ [0, 0, 0, 0, 0, 0, 0, 1])) 1 [],
      .advance 3 1 []]

/-- A sink of three bytes, nothing written, is declared and answered with
`Unknown`; then it is finished by task 3. -/
def finishedAfterFailure : List Action :=
  wireUp 0 0 1 0 ++
    [.openBinarySink zeroId 3 0, .start 2 .declarePendingSends, .advance 2 0 [], .advance 2 0 [],
      .advance 2 0 [], .inbound 0 (controlFrame .resumeResponse ([1] ++ zeroId.toList ++ [3])) 1 [],
      .start 3 (.sinkFinish zeroId), .advance 3 1 []]

end Sample

theorem finish_reports_confirmation_sample :
    ∃ s, run step (new {} 0) Sample.finished = some s ∧
      s.tasks.get? 3 = some (.sinkFinish zeroId (.returned (some true))) ∧
      (∃ how, how.confirms = true ∧ .settled zeroId how ∈ s.log) ∧
      .settled zeroId .failed ∉ s.log ∧ .settled zeroId .aborted ∉ s.log := by
  obtain ⟨s, hrun, hget, honce⟩ : ∃ s, run step (new {} 0) Sample.finished = some s ∧
      s.tasks.get? 3 = some (.sinkFinish zeroId (.returned (some true))) ∧
      s.log.countP (Event.opens zeroId) ≤ 1 := by decide
  have hreport := finish_reports_confirmation (by decide) hrun hget
  exact ⟨_, hrun, hget, hreport.1, hreport.2 honce⟩

/-- **A failed transaction is reported confirmed**: the verdict closes it as
failed, and the finish that starts afterwards finds no copy. No settlement
confirms it. -/
theorem failed_reported_confirmed :
    ∃ s, run step (new {} 0) Sample.finishedAfterFailure = some s ∧
      s.tasks.get? 3 = some (.sinkFinish zeroId (.returned (some true))) ∧
      .settled zeroId .failed ∈ s.log ∧ ¬ Confirmed s.log zeroId := by
  decide

end Session

end Transfer

end Xacpp
