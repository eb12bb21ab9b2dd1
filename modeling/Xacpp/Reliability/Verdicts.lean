import Xacpp.Reliability.Operations
/-!
# Resume verdicts

What `apply_resume_verdicts` can do with a response, whatever entries it
carries and however often it names one id: `Ruling` inverts one entry, and
`Adjudicates` says where a whole response leaves the table. A transaction
is closed at most once, confirmed or failed by its own byte accounting; one
that is not closed keeps its contents, and its gate moves only where a
`resumed` entry names it.
-/

namespace Xacpp

namespace Reliability

namespace PendingTxn

variable {txn txn' txn'' : PendingTxn}

theorem SameCopy.trans (h : SameCopy txn txn') (h' : SameCopy txn' txn'') : SameCopy txn txn'' :=
  ⟨h'.totalLen.trans h.totalLen, h'.frames.trans h.frames,
    h'.states_length.trans h.states_length, h'.partialBytes.trans h.partialBytes,
    h'.written.trans h.written, h'.ackedContiguous.trans h.ackedContiguous⟩

theorem SameCopy.isFullySent (h : SameCopy txn txn') : txn'.isFullySent = txn.isFullySent := by
  unfold PendingTxn.isFullySent
  rw [h.written, h.totalLen, h.partialBytes]

end PendingTxn

namespace TransactionSender

variable {s₀ s : TransactionSender} {entry : ResumeStatusEntry} {now : ℕ} {id : TxId}
variable {out : ResumeVerdicts} {r : ResumeVerdicts × TransactionSender}
variable {done entries : List ResumeStatusEntry}

/-- What one entry can do. -/
inductive Ruling (s : TransactionSender) (entry : ResumeStatusEntry) (out : ResumeVerdicts) :
    ResumeVerdicts × TransactionSender → Prop
  | absent (hget : s.pending.get? entry.transactionId = none) : Ruling s entry out (out, s)
  | resumed {txn txn' : PendingTxn} {retransmit : List Frame}
      (hget : s.pending.get? entry.transactionId = some txn) (hstatus : entry.status = .resumed)
      (hsame : PendingTxn.SameCopy txn txn')
      (hretransmit : ∀ f ∈ retransmit, f ∈ out.retransmit ∨ some f ∈ txn.frames) :
      Ruling s entry out ({ out with retransmit := retransmit },
        s.withPending (s.pending.insert entry.transactionId txn'))
  | confirmed {txn : PendingTxn} (hget : s.pending.get? entry.transactionId = some txn)
      (hstatus : entry.status ≠ .resumed) (hsent : txn.isFullySent = true) :
      Ruling s entry out ({ out with confirmed := out.confirmed ++ [entry.transactionId] },
        s.withPending (s.pending.erase entry.transactionId))
  | failed {txn : PendingTxn} (hget : s.pending.get? entry.transactionId = some txn)
      (hstatus : entry.status ≠ .resumed) (hsent : txn.isFullySent = false) :
      Ruling s entry out ({ out with failed := out.failed ++ [entry.transactionId] },
        s.withPending (s.pending.erase entry.transactionId))

theorem applyVerdict_ruling (s : TransactionSender) (entry : ResumeStatusEntry) (now : ℕ)
    (out : ResumeVerdicts) : Ruling s entry out (s.applyVerdict entry now out) := by
  unfold applyVerdict
  cases hget : s.pending.get? entry.transactionId with
  | none => exact .absent hget
  | some txn =>
    have hclose : entry.status ≠ .resumed → Ruling s entry out
        (if txn.isFullySent then
          ({ out with confirmed := out.confirmed ++ [entry.transactionId] },
            s.withPending (s.pending.erase entry.transactionId))
        else ({ out with failed := out.failed ++ [entry.transactionId] },
            s.withPending (s.pending.erase entry.transactionId))) := by
      intro hstatus
      split
      · next hsent => exact .confirmed hget hstatus hsent
      · next hsent => exact .failed hget hstatus (Bool.not_eq_true _ ▸ hsent)
    cases hstatus : entry.status with
    | resumed =>
      dsimp only
      split
      · -- a paused transaction is ungated and sends nothing
        have hsame : PendingTxn.SameCopy txn (txn.ungate now) := ⟨rfl, rfl, rfl, rfl, rfl, rfl⟩
        exact .resumed hget hstatus hsame fun f hf => .inl hf
      · have hungate : PendingTxn.SameCopy txn (txn.ungate now) := ⟨rfl, rfl, rfl, rfl, rfl, rfl⟩
        refine .resumed hget hstatus (hungate.trans (PendingTxn.sameCopy_resend _)) ?_
        intro f hf
        rcases List.mem_append.1 hf with hf | hf
        · exact .inl hf
        · have hmem := PendingTxn.mem_resend hf
          exact .inr hmem
    | unknown | rejected => exact hclose (by rw [hstatus]; decide)

/-- **Where a response leaves the table.** The entries handled so far are
`entries`; `s` is the table before, `s'` the one now. -/
structure Adjudicates (s : TransactionSender) (entries : List ResumeStatusEntry)
    (out : ResumeVerdicts) (s' : TransactionSender) : Prop where
  /-- Nothing is closed twice. -/
  nodup : (out.confirmed ++ out.failed).Nodup
  confirmed : ∀ id ∈ out.confirmed, ∃ txn, s.pending.get? id = some txn ∧ txn.isFullySent = true
  failed : ∀ id ∈ out.failed, ∃ txn, s.pending.get? id = some txn ∧ txn.isFullySent = false
  released : ∀ id ∈ out.confirmed ++ out.failed, s'.pending.get? id = none
  named : ∀ id ∈ out.confirmed ++ out.failed,
    ∃ entry ∈ entries, entry.transactionId = id ∧ entry.status ≠ .resumed
  kept : ∀ id, id ∉ out.confirmed ++ out.failed →
    s'.pending.get? id = s.pending.get? id ∨
      ⟨id, .resumed⟩ ∈ entries ∧ ∃ txn txn', s.pending.get? id = some txn ∧
        s'.pending.get? id = some txn' ∧ PendingTxn.SameCopy txn txn'
  retransmit : ∀ f ∈ out.retransmit, ∃ id txn, ⟨id, .resumed⟩ ∈ entries ∧
    s.pending.get? id = some txn ∧ some f ∈ txn.frames

theorem Adjudicates.refl (s : TransactionSender) : Adjudicates s [] ⟨[], [], []⟩ s where
  nodup := List.nodup_nil
  confirmed _ h := absurd h List.not_mem_nil
  failed _ h := absurd h List.not_mem_nil
  released _ h := absurd h List.not_mem_nil
  named _ h := absurd h List.not_mem_nil
  kept _ _ := .inl rfl
  retransmit _ h := absurd h List.not_mem_nil

/-- What is still in the table has the contents it had. -/
theorem Adjudicates.sameCopy {txn : PendingTxn} (h : Adjudicates s₀ entries out s)
    (hget : s.pending.get? id = some txn) :
    id ∉ out.confirmed ++ out.failed ∧
      ∃ txn₀, s₀.pending.get? id = some txn₀ ∧ PendingTxn.SameCopy txn₀ txn := by
  have hopen : id ∉ out.confirmed ++ out.failed := by
    intro hmem
    rw [h.released id hmem] at hget
    cases hget
  refine ⟨hopen, ?_⟩
  rcases h.kept id hopen with heq | ⟨-, txn₀, txn', hget₀, hget', hsame⟩
  · exact ⟨txn, heq ▸ hget, .refl txn⟩
  · rw [hget, Option.some.injEq] at hget'
    exact ⟨txn₀, hget₀, hget' ▸ hsame⟩

/-- Further entries only add names. -/
theorem Adjudicates.mono (h : Adjudicates s₀ done out s) (hsub : done ⊆ entries) :
    Adjudicates s₀ entries out s where
  nodup := h.nodup
  confirmed := h.confirmed
  failed := h.failed
  released := h.released
  named id hid := by
    obtain ⟨entry, hmem, hentry⟩ := h.named id hid
    exact ⟨entry, hsub hmem, hentry⟩
  kept id hid := (h.kept id hid).imp_right fun ⟨hmem, hcopies⟩ => ⟨hsub hmem, hcopies⟩
  retransmit f hf := by
    obtain ⟨id, txn, hmem, hcopy⟩ := h.retransmit f hf
    exact ⟨id, txn, hsub hmem, hcopy⟩

/-- A `resumed` entry keeps the contents and sends frames of the copy. -/
theorem Adjudicates.resumed {txn txn' : PendingTxn} {retransmit : List Frame}
    (h : Adjudicates s₀ entries out s) (hentry : ⟨id, .resumed⟩ ∈ entries)
    (hget : s.pending.get? id = some txn) (hsame : PendingTxn.SameCopy txn txn')
    (hretransmit : ∀ f ∈ retransmit, f ∈ out.retransmit ∨ some f ∈ txn.frames) :
    Adjudicates s₀ entries { out with retransmit := retransmit }
      (s.withPending (s.pending.insert id txn')) := by
  obtain ⟨hopen, txn₀, hget₀, hsame₀⟩ := h.sameCopy hget
  refine ⟨h.nodup, h.confirmed, h.failed, ?_, h.named, ?_, ?_⟩
  · intro id' hid'
    have hne : id' ≠ id := fun heq => hopen (heq ▸ hid')
    rw [withPending_pending, Table.get?_insert_of_ne _ _ hne]
    exact h.released id' hid'
  · intro id' hid'
    rw [withPending_pending]
    by_cases heq : id' = id
    · subst heq
      exact .inr ⟨hentry, txn₀, txn', hget₀, Table.get?_insert_self _ _ _, hsame₀.trans hsame⟩
    · rw [Table.get?_insert_of_ne _ _ heq]
      exact h.kept id' hid'
  · intro f hf
    rcases hretransmit f hf with hf | hf
    · exact h.retransmit f hf
    · exact ⟨id, txn₀, hentry, hget₀, hsame₀.frames ▸ hf⟩

/-- A closing entry releases the copy and lists it once. -/
theorem Adjudicates.close {out' : ResumeVerdicts} {txn : PendingTxn}
    (h : Adjudicates s₀ entries out s) (hentry : ∃ e ∈ entries, e.transactionId = id ∧
      e.status ≠ .resumed) (hget : s.pending.get? id = some txn)
    (hretransmit : out'.retransmit = out.retransmit)
    (hclosed : txn.isFullySent = true ∧ out'.confirmed = out.confirmed ++ [id] ∧
        out'.failed = out.failed ∨
      txn.isFullySent = false ∧ out'.confirmed = out.confirmed ∧ out'.failed = out.failed ++ [id]) :
    Adjudicates s₀ entries out' (s.withPending (s.pending.erase id)) := by
  obtain ⟨hopen, txn₀, hget₀, hsame₀⟩ := h.sameCopy hget
  have hperm : (out'.confirmed ++ out'.failed).Perm (id :: (out.confirmed ++ out.failed)) := by
    rcases hclosed with ⟨-, hc, hf⟩ | ⟨-, hc, hf⟩
    · rw [hc, hf, List.append_assoc]
      exact List.perm_middle
    · rw [hc, hf, ← List.append_assoc]
      exact List.perm_append_singleton _ _
  refine ⟨hperm.nodup_iff.2 (List.nodup_cons.2 ⟨hopen, h.nodup⟩), ?_, ?_, ?_, ?_, ?_, ?_⟩
  · intro id' hid'
    rcases hclosed with ⟨hsent, hc, -⟩ | ⟨-, hc, -⟩
    · rw [hc, List.mem_append, List.mem_singleton] at hid'
      rcases hid' with hid' | rfl
      · exact h.confirmed id' hid'
      · exact ⟨txn₀, hget₀, hsame₀.isFullySent ▸ hsent⟩
    · exact h.confirmed id' (hc ▸ hid')
  · intro id' hid'
    rcases hclosed with ⟨-, -, hf⟩ | ⟨hsent, -, hf⟩
    · exact h.failed id' (hf ▸ hid')
    · rw [hf, List.mem_append, List.mem_singleton] at hid'
      rcases hid' with hid' | rfl
      · exact h.failed id' hid'
      · exact ⟨txn₀, hget₀, hsame₀.isFullySent ▸ hsent⟩
  · intro id' hid'
    rw [withPending_pending, Table.get?_erase]
    split
    · rfl
    · next hne =>
      exact h.released id' ((List.mem_cons.1 (hperm.mem_iff.1 hid')).resolve_left hne)
  · intro id' hid'
    rcases List.mem_cons.1 (hperm.mem_iff.1 hid') with rfl | hid'
    · exact hentry
    · exact h.named id' hid'
  · intro id' hid'
    have hnot : id' ≠ id ∧ id' ∉ out.confirmed ++ out.failed := by
      rw [hperm.mem_iff, List.mem_cons, not_or] at hid'
      exact hid'
    rw [withPending_pending, Table.get?_erase_of_ne _ hnot.1]
    exact h.kept id' hnot.2
  · rw [hretransmit]
    exact h.retransmit

theorem Adjudicates.step (h : Adjudicates s₀ done out s) (entry : ResumeStatusEntry) (now : ℕ) :
    Adjudicates s₀ (done ++ [entry]) (s.applyVerdict entry now out).1
      (s.applyVerdict entry now out).2 := by
  have h' := h.mono (List.subset_append_left done [entry])
  have hmem : entry ∈ done ++ [entry] := List.mem_append_right _ List.mem_cons_self
  generalize hr : s.applyVerdict entry now out = r
  have hruling := hr ▸ applyVerdict_ruling s entry now out
  cases hruling with
  | absent hget => exact h'
  | resumed hget hstatus hsame hretransmit =>
    exact h'.resumed (hstatus ▸ hmem) hget hsame hretransmit
  | confirmed hget hstatus hsent =>
    exact h'.close ⟨entry, hmem, rfl, hstatus⟩ hget rfl (.inl ⟨hsent, rfl, rfl⟩)
  | failed hget hstatus hsent =>
    exact h'.close ⟨entry, hmem, rfl, hstatus⟩ hget rfl (.inr ⟨hsent, rfl, rfl⟩)

theorem Adjudicates.run (h : Adjudicates s₀ done out s) (entries : List ResumeStatusEntry)
    (now : ℕ) :
    Adjudicates s₀ (done ++ entries) (applyVerdictsFrom now entries out s).1
      (applyVerdictsFrom now entries out s).2 := by
  induction entries generalizing done out s with
  | nil =>
    rw [List.append_nil]
    exact h
  | cons entry entries ih =>
    have hnext := ih (h.step entry now)
    rw [List.append_assoc] at hnext
    exact hnext

/-- **What a response does.** -/
theorem applyResumeVerdicts_adjudicates (s : TransactionSender)
    (entries : List ResumeStatusEntry) (now : ℕ) :
    Adjudicates s entries (s.applyResumeVerdicts entries now).1
      (s.applyResumeVerdicts entries now).2 :=
  (Adjudicates.refl s).run entries now

end TransactionSender

end Reliability

end Xacpp
