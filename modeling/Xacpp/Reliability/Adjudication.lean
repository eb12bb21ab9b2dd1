import Xacpp.Reliability.Gated
/-!
# A response that names each id once

`apply_resume_verdicts` on entries with distinct ids. Each entry then rules
on the copy that was there before the response, so the outcome can be read
off the table and the entries (`Response`). What has been adjudicated stays
out of the re-declarations until it is declared anew.
-/

namespace Xacpp

namespace Reliability

variable {id : TxId} {now : ℕ}

namespace PendingTxn

variable {txn : PendingTxn}

/-- What a verdict makes of a pending copy. -/
def ruled (txn : PendingTxn) (status : ResumeStatus) (now : ℕ) : Option PendingTxn :=
  match status with
  | .resumed =>
    if txn.paused then some (txn.ungate now)
    else some ((txn.ungate now).resend (fun state => !state.confirmed) now).1
  | .unknown | .rejected => none

theorem awaitingResume_of_ruled {txn' : PendingTxn} {status : ResumeStatus}
    (h : txn.ruled status now = some txn') : txn'.awaitingResume = false := by
  unfold ruled at h
  split at h
  · split at h
    · cases h
      rfl
    · cases h
      rfl
  · cases h
  · cases h

end PendingTxn

namespace TransactionSender

open PendingTxn

variable {config : SenderConfig} {calls as : List (SenderCall × ℕ)} {s s' : TransactionSender}
  {out : ResumeVerdicts} {entry : ResumeStatusEntry} {entries : List ResumeStatusEntry}
  {txn : PendingTxn}

/-! ## One entry after the other -/

theorem get?_applyVerdict_self (s : TransactionSender) (entry : ResumeStatusEntry) (now : ℕ)
    (out : ResumeVerdicts) :
    (s.applyVerdict entry now out).2.pending.get? entry.transactionId =
      (s.pending.get? entry.transactionId).bind fun txn => txn.ruled entry.status now := by
  unfold applyVerdict
  cases hget : s.pending.get? entry.transactionId with
  | none => exact hget
  | some txn =>
    rw [Option.bind_some]
    cases entry.status with
    | resumed =>
      dsimp only [ruled]
      split
      · exact Table.get?_insert_self _ _ _
      · exact Table.get?_insert_self _ _ _
    | unknown | rejected =>
      dsimp only
      split
      · exact Table.get?_erase_self _ _
      · exact Table.get?_erase_self _ _

theorem get?_applyVerdictsFrom_of_ne (s : TransactionSender) (now : ℕ) (out : ResumeVerdicts)
    (hne : ∀ entry ∈ entries, entry.transactionId ≠ id) :
    (applyVerdictsFrom now entries out s).2.pending.get? id = s.pending.get? id := by
  induction entries generalizing s out with
  | nil => rfl
  | cons entry rest ih =>
    rw [applyVerdictsFrom_cons, ih _ _ fun e he => hne e (List.mem_cons_of_mem _ he)]
    exact (s.stored_applyVerdict entry now out).get?_of_ne (hne entry List.mem_cons_self)

/-- What an entry leaves alone: the copies under the ids that come after it. -/
theorem get?_applyVerdict_rest (s : TransactionSender) (now : ℕ) (out : ResumeVerdicts)
    (hdistinct : ((entry :: entries).map ResumeStatusEntry.transactionId).Nodup) :
    ∀ e ∈ entries, (s.applyVerdict entry now out).2.pending.get? e.transactionId =
      s.pending.get? e.transactionId := by
  intro e he
  have hne := (List.nodup_cons.1 hdistinct).1
  exact (s.stored_applyVerdict entry now out).get?_of_ne fun heq =>
    hne (heq ▸ List.mem_map_of_mem he)

/-- **Each entry rules on the copy that was there before.** -/
theorem get?_applyVerdictsFrom (s : TransactionSender) (now : ℕ) (out : ResumeVerdicts)
    (hdistinct : (entries.map ResumeStatusEntry.transactionId).Nodup) (hentry : entry ∈ entries) :
    (applyVerdictsFrom now entries out s).2.pending.get? entry.transactionId =
      (s.pending.get? entry.transactionId).bind fun txn => txn.ruled entry.status now := by
  induction entries generalizing s out with
  | nil => cases hentry
  | cons e rest ih =>
    have hrest := (List.nodup_cons.1 hdistinct).2
    rw [applyVerdictsFrom_cons]
    rcases List.mem_cons.1 hentry with rfl | hmem
    · have hne : ∀ e' ∈ rest, e'.transactionId ≠ entry.transactionId := fun e' he' heq =>
        (List.nodup_cons.1 hdistinct).1 (heq ▸ List.mem_map_of_mem he')
      rw [get?_applyVerdictsFrom_of_ne _ _ _ hne]
      exact s.get?_applyVerdict_self entry now out
    · rw [ih _ _ hrest hmem, s.get?_applyVerdict_rest now out hdistinct entry hmem]

theorem sentFor_congr {t : TransactionSender}
    (h : t.pending.get? entry.transactionId = s.pending.get? entry.transactionId) :
    t.sentFor entry = s.sentFor entry := by
  unfold sentFor
  rw [h]

theorem retransmit_applyVerdictsFrom_eq (s : TransactionSender) (now : ℕ) (out : ResumeVerdicts)
    (hdistinct : (entries.map ResumeStatusEntry.transactionId).Nodup) :
    (applyVerdictsFrom now entries out s).1.retransmit =
      out.retransmit ++ entries.flatMap s.sentFor := by
  induction entries generalizing s out with
  | nil => exact (List.append_nil _).symm
  | cons entry rest ih =>
    have hsame := fun e he => sentFor_congr (s.get?_applyVerdict_rest now out hdistinct e he)
    rw [applyVerdictsFrom_cons, ih _ _ (List.nodup_cons.1 hdistinct).2,
      retransmit_applyVerdict, List.flatMap_cons, List.append_assoc]
    congr 2
    exact List.flatMap_congr hsame

/-- The entry names a pending transaction. -/
def concerns (s : TransactionSender) (entry : ResumeStatusEntry) : Bool :=
  s.containsTransaction entry.transactionId

/-- **Entries for ids that are not pending do nothing.** -/
theorem applyVerdictsFrom_filter (s : TransactionSender) (now : ℕ) (out : ResumeVerdicts)
    (hdistinct : (entries.map ResumeStatusEntry.transactionId).Nodup) :
    applyVerdictsFrom now (entries.filter s.concerns) out s =
      applyVerdictsFrom now entries out s := by
  induction entries generalizing s out with
  | nil => rfl
  | cons entry rest ih =>
    have hrest := (List.nodup_cons.1 hdistinct).2
    by_cases hpending : s.concerns entry = true
    · -- the entries behind it see the same ids pending
      have hfilter : rest.filter s.concerns =
          rest.filter (s.applyVerdict entry now out).2.concerns := by
        refine List.filter_congr fun e he => ?_
        have hget := s.get?_applyVerdict_rest now out hdistinct e he
        exact congrArg Option.isSome hget.symm
      rw [List.filter_cons_of_pos hpending,
        applyVerdictsFrom_cons, applyVerdictsFrom_cons, hfilter]
      exact ih _ _ hrest
    · have habsent : s.applyVerdict entry now out = (out, s) := by
        have hget : s.pending.get? entry.transactionId = none :=
          Option.not_isSome_iff_eq_none.1 hpending
        simp only [applyVerdict, hget]
      rw [List.filter_cons_of_neg hpending,
        applyVerdictsFrom_cons, habsent]
      exact ih s out hrest

/-! ## The response -/

/-- **What a response comes to**, `s` the sender before it and `s'` after. -/
structure Response (s : TransactionSender) (entries : List ResumeStatusEntry) (now : ℕ)
    (out : ResumeVerdicts) (s' : TransactionSender) : Prop where
  disjoint : out.confirmed.Disjoint out.failed
  nodup : out.confirmed.Nodup ∧ out.failed.Nodup
  /-- The ids closed are the ids removed. -/
  removed : ∀ id, id ∈ out.confirmed ∨ id ∈ out.failed ↔
    s.containsTransaction id = true ∧ s'.containsTransaction id = false
  /-- Confirmed where every declared byte was framed. -/
  framed : ∀ id txn, s.pending.get? id = some txn → s'.containsTransaction id = false →
    (id ∈ out.confirmed ↔ txn.isFullySent = true)
  ungated : ∀ id, s.containsTransaction id = true → ⟨id, .resumed⟩ ∈ entries →
    s'.containsTransaction id = true ∧ s'.isAwaitingResume id = false
  retransmit : out.retransmit = entries.flatMap s.sentFor
  /-- Ids that are not named keep their copies. -/
  unnamed : ∀ id, (∀ entry ∈ entries, entry.transactionId ≠ id) →
    s'.pending.get? id = s.pending.get? id
  /-- The response without the ids that are not pending has the same effect
  and outcome. -/
  absent : s.applyResumeVerdicts (entries.filter s.concerns) now = (out, s')

theorem not_containsTransaction_iff : s.containsTransaction id = false ↔
    s.pending.get? id = none := by
  rw [← Bool.not_eq_true]
  exact Option.not_isSome_iff_eq_none

/-- An id that was adjudicated is not gated. -/
theorem ungated_applyResumeVerdicts (s : TransactionSender) (now : ℕ)
    (hdistinct : (entries.map ResumeStatusEntry.transactionId).Nodup) (hentry : entry ∈ entries) :
    Ungated entry.transactionId (s.applyResumeVerdicts entries now).2 := by
  intro txn' hget'
  rw [applyResumeVerdicts, get?_applyVerdictsFrom s now _ hdistinct hentry] at hget'
  obtain ⟨txn, -, hruled⟩ := Option.bind_eq_some_iff.1 hget'
  exact awaitingResume_of_ruled hruled

theorem response_applyResumeVerdicts (s : TransactionSender) (now : ℕ)
    (hdistinct : (entries.map ResumeStatusEntry.transactionId).Nodup) :
    Response s entries now (s.applyResumeVerdicts entries now).1
      (s.applyResumeVerdicts entries now).2 := by
  have hadj := s.applyResumeVerdicts_adjudicates entries now
  obtain ⟨hconfirmed, hfailed, hdisjoint⟩ := List.nodup_append'.1 hadj.nodup
  have hremoved : ∀ id, id ∈ (s.applyResumeVerdicts entries now).1.confirmed ∨
      id ∈ (s.applyResumeVerdicts entries now).1.failed ↔ s.containsTransaction id = true ∧
        (s.applyResumeVerdicts entries now).2.containsTransaction id = false := by
    intro id
    rw [← List.mem_append, containsTransaction_iff, not_containsTransaction_iff]
    constructor
    · intro hid
      refine ⟨?_, hadj.released id hid⟩
      rcases List.mem_append.1 hid with hc | hf
      · obtain ⟨txn, hget, -⟩ := hadj.confirmed id hc
        exact ⟨txn, hget⟩
      · obtain ⟨txn, hget, -⟩ := hadj.failed id hf
        exact ⟨txn, hget⟩
    · rintro ⟨⟨txn, hget⟩, hgone⟩
      by_contra hopen
      -- an id that is in neither list keeps a copy
      rcases hadj.kept id hopen with hsame | ⟨-, -, txn', -, hget', -⟩
      · rw [hgone, hget] at hsame
        cases hsame
      · rw [hgone] at hget'
        cases hget'
  refine ⟨hdisjoint, ⟨hconfirmed, hfailed⟩, hremoved, fun id txn hget hgone => ?_,
    fun id hpending hmem => ?_, ?_, fun id hne => ?_, ?_⟩
  · constructor
    · intro hc
      obtain ⟨txn', hget', hsent⟩ := hadj.confirmed id hc
      rw [hget, Option.some.injEq] at hget'
      exact hget' ▸ hsent
    · intro hsent
      have hclosed := (hremoved id).2 ⟨containsTransaction_iff.2 ⟨txn, hget⟩, hgone⟩
      refine hclosed.resolve_right fun hf => ?_
      obtain ⟨txn', hget', howed⟩ := hadj.failed id hf
      rw [hget, Option.some.injEq] at hget'
      rw [← hget', hsent] at howed
      cases howed
  · obtain ⟨txn, hget⟩ := containsTransaction_iff.1 hpending
    have hruled := get?_applyVerdictsFrom s now ⟨[], [], []⟩ hdistinct hmem
    rw [hget, Option.bind_some] at hruled
    refine ⟨?_, ungated_iff.1 (ungated_applyResumeVerdicts s now hdistinct hmem)⟩
    rw [containsTransaction_iff, applyResumeVerdicts, hruled]
    dsimp only [ruled]
    split
    · exact ⟨_, rfl⟩
    · exact ⟨_, rfl⟩
  · exact retransmit_applyVerdictsFrom_eq s now _ hdistinct
  · exact get?_applyResumeVerdicts_of_ne hne
  · exact applyVerdictsFrom_filter s now _ hdistinct

theorem Ungated.ne_of_mem_timedOutDeclarations {timeoutMs : ℕ} {e : AckEntry}
    (h : Ungated id s) (he : e ∈ (s.timedOutDeclarations now timeoutMs).1) :
    e.transactionId ≠ id := by
  rintro rfl
  obtain ⟨⟨id', txn⟩, hmem, rfl⟩ := List.mem_map.1 he
  obtain ⟨hpending, htimed⟩ := List.mem_filter.1 hmem
  have hgate : txn.awaitingResume = true := (Bool.and_eq_true_iff.1 htimed).1
  rw [h txn (Table.mem_toList.1 hpending)] at hgate
  cases hgate

/-- **A response with distinct ids.** What it closes it removes, each id
once, confirmed where everything was framed; what it resumes is no longer
gated, and sends its unconfirmed frames unless it is paused; nothing else
changes (`Response`). The frames of a transaction go in the order of their
seqs and none is missing. No id the response names is declared again before
the next `declare_pending`. -/
theorem applyResumeVerdicts_distinct (s : TransactionSender) (entries : List ResumeStatusEntry)
    (now : ℕ) (hdistinct : (entries.map ResumeStatusEntry.transactionId).Nodup) :
    Response s entries now (s.applyResumeVerdicts entries now).1
        (s.applyResumeVerdicts entries now).2 ∧
      (∀ config calls, run step (new config) calls = some s →
        ∀ id txn, s.pending.get? id = some txn →
          txn.unconfirmed.Pairwise (fun f g => f.seq < g.seq) ∧
            ∀ (i : ℕ) (state : FrameState), txn.states[i]? = some state →
              state.confirmed = false →
                ∃ f, txn.frames[i]? = some (some f) ∧ f ∈ txn.unconfirmed) ∧
      ∀ entry ∈ entries, ∀ as t, run step (s.applyResumeVerdicts entries now).2 as = some t →
        (∀ a ∈ as, a.1 ≠ .declarePending) → ∀ later timeoutMs,
          ∀ e ∈ (t.timedOutDeclarations later timeoutMs).1,
            e.transactionId ≠ entry.transactionId := by
  refine ⟨response_applyResumeVerdicts s now hdistinct, ?_, ?_⟩
  · intro config calls hrun id txn hget
    obtain ⟨framed, n, hkept⟩ := kept_of_run hrun hget
    refine ⟨?_, fun i state hstate hopen => ?_⟩
    · rw [← txn.resend_unconfirmed 0]
      exact hkept.numbered.pairwise_resend _ 0
    · obtain ⟨f, hframe⟩ := hkept.inRange.copies i state hstate hopen
      exact ⟨f, hframe, mem_unconfirmed_iff.2 ⟨i, state, hstate, hopen, hframe⟩⟩
  · intro entry hentry as t hrun hcalls later timeoutMs e he
    have hungated := (ungated_applyResumeVerdicts s now hdistinct hentry).run hrun hcalls
    exact hungated.ne_of_mem_timedOutDeclarations he

namespace Sample

/-- A second transaction, framed whole, beside the declared one. -/
def twoPending : List (SenderCall × ℕ) :=
  declared false ++ [(.beginTransaction (List.Vector.replicate 16 1) [3], 4)]

def verdicts : List ResumeStatusEntry :=
  [⟨zeroId, .resumed⟩, ⟨List.Vector.replicate 16 1, .unknown⟩,
    ⟨List.Vector.replicate 16 2, .rejected⟩]

end Sample

/-- One transaction is resumed, one is closed as confirmed, and the third is
not known. -/
theorem applyResumeVerdicts_distinct_sample :
    ∃ s, run step (new { frameSize := 2 }) Sample.twoPending = some s ∧
      (s.applyResumeVerdicts Sample.verdicts 5).1 =
        ⟨[dataFrame zeroId 2 0 [1, 2]], [List.Vector.replicate 16 1], []⟩ ∧
      Response s Sample.verdicts 5 (s.applyResumeVerdicts Sample.verdicts 5).1
        (s.applyResumeVerdicts Sample.verdicts 5).2 := by
  obtain ⟨s, hrun, hout⟩ : ∃ s, run step (new { frameSize := 2 }) Sample.twoPending = some s ∧
      (s.applyResumeVerdicts Sample.verdicts 5).1 =
        ⟨[dataFrame zeroId 2 0 [1, 2]], [List.Vector.replicate 16 1], []⟩ := by decide
  exact ⟨_, hrun, hout, (applyResumeVerdicts_distinct _ _ 5 (by decide)).1⟩

end TransactionSender

end Reliability

end Xacpp
