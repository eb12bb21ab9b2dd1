import Xacpp.Common.Run
import Xacpp.Reliability.Holding
/-!
# Gate and pause under calls

The two flags of a pending transaction, read over whole runs. A gate stays
until a `resumed` verdict, and only a declaration sets one; a pause stays
until the call that ends it. An id that is opened anew starts with neither.
Of a paused transaction the clock, a `NACK` and a verdict resend nothing.
-/

namespace Xacpp

namespace Reliability

namespace TransactionSender

open PendingTxn

variable {id : TxId} {now : ℕ} {c : SenderCall} {calls : List (SenderCall × ℕ)}
  {s s' : TransactionSender} {txn : PendingTxn} {f : Frame}

/-! ## One call, and a run of calls -/

/-- Where the transaction is pending it is gated. -/
def Gated (id : TxId) (s : TransactionSender) : Prop :=
  ∀ txn, s.pending.get? id = some txn → txn.awaitingResume = true

/-- Where the transaction is pending it is not gated. -/
def Ungated (id : TxId) (s : TransactionSender) : Prop :=
  ∀ txn, s.pending.get? id = some txn → txn.awaitingResume = false

/-- Where the transaction is pending it is paused. -/
def Halted (id : TxId) (s : TransactionSender) : Prop :=
  ∀ txn, s.pending.get? id = some txn → txn.paused = true

/-- **What the flags say of a copy** holds after a call if the call moves
them so, and if it holds of a copy the call opens. -/
theorem forall_apply {P : PendingTxn → Prop}
    (hflags : ∀ txn txn', Flags id c txn txn' → P txn → P txn')
    (hopened : c.Opens id → ∀ total now, P (.opened total now))
    (h : ∀ txn, s.pending.get? id = some txn → P txn) :
    ∀ txn, (c.apply s now).2.pending.get? id = some txn → P txn := by
  intro txn hget
  have hchange := apply_change c s now id
  rw [hget] at hchange
  generalize hold : s.pending.get? id = old at hchange
  generalize hnew : some txn = copy at hchange
  cases hchange with
  | absent | released => cases hnew
  | rests hsteady hmoves =>
    cases hnew
    exact hflags _ _ hmoves (h _ hold)
  | @acked base entry now =>
    cases hnew
    exact hflags base _ (.of_eq rfl rfl) (h base hold)
  | @grows old base chunk rest ps now hc hbase hroom hcut hne =>
    cases hnew
    -- framing starts from the copy that is there, or from the one it opens
    have hP : P base := by
      rcases hbase with rfl | ⟨-, hopens, total, now, rfl⟩
      · exact h base hold
      · exact hopened hopens total now
    exact hflags base _ (.of_eq rfl rfl) hP

theorem Gated.apply (h : Gated id s) (hresumes : ¬ c.Resumes id) (hopens : ¬ c.Opens id) :
    Gated id (c.apply s now).2 :=
  forall_apply (fun _ _ hmoves hg => (hmoves.lifted hg).resolve_right hresumes)
    (fun hopen => absurd hopen hopens) h

theorem Halted.apply (h : Halted id s) (hresume : c ≠ .setPaused id false)
    (hopens : ¬ c.Opens id) : Halted id (c.apply s now).2 :=
  forall_apply (fun _ _ hmoves hp => (hmoves.paused hp).resolve_right hresume)
    (fun hopen => absurd hopen hopens) h

/-- An opened copy is not gated, so here the id may be opened anew. -/
theorem Ungated.apply (h : Ungated id s) (hdeclare : c ≠ .declarePending) :
    Ungated id (c.apply s now).2 := by
  refine forall_apply (fun txn txn' hmoves hg => ?_) (fun _ total now => rfl) h
  rw [Bool.eq_false_iff] at hg ⊢
  exact fun hg' => hg ((hmoves.gated hg').resolve_right hdeclare)

/-- What every call of a kind keeps, a run of such calls keeps. -/
theorem keeps_of_run {I : TransactionSender → Prop} {C : SenderCall → Prop}
    (happly : ∀ s c now, I s → C c → I (c.apply s now).2) (h : I s)
    (hrun : Xacpp.run step s calls = some s') (hcalls : ∀ a ∈ calls, C a.1) : I s' := by
  refine run_induct_of (C := fun _ (a : SenderCall × ℕ) => C a.1) ?_ h
    (.of_mem fun a ha _ => hcalls a ha) hrun
  intro t a t' ht hC hstep
  cases hstep
  exact happly t a.1 a.2 ht hC

/-- **A gate stays** through every run of calls that bring no `resumed`
verdict for it and do not open the id anew. -/
theorem Gated.run (h : Gated id s) (hrun : Xacpp.run step s calls = some s')
    (hcalls : ∀ a ∈ calls, ¬ a.1.Resumes id ∧ ¬ a.1.Opens id) : Gated id s' :=
  keeps_of_run (I := Gated id) (C := fun c => ¬ c.Resumes id ∧ ¬ c.Opens id)
    (fun _ _ _ ht hc => ht.apply hc.1 hc.2) h hrun hcalls

/-- **A pause stays** through every run of calls that do not end it and do
not open the id anew. -/
theorem Halted.run (h : Halted id s) (hrun : Xacpp.run step s calls = some s')
    (hcalls : ∀ a ∈ calls, a.1 ≠ .setPaused id false ∧ ¬ a.1.Opens id) : Halted id s' :=
  keeps_of_run (I := Halted id) (C := fun c => c ≠ .setPaused id false ∧ ¬ c.Opens id)
    (fun _ _ _ ht hc => ht.apply hc.1 hc.2) h hrun hcalls

/-- **No gate is new** after a run without a declaration. -/
theorem Ungated.run (h : Ungated id s) (hrun : Xacpp.run step s calls = some s')
    (hcalls : ∀ a ∈ calls, a.1 ≠ .declarePending) : Ungated id s' :=
  keeps_of_run (I := Ungated id) (C := fun c => c ≠ .declarePending)
    (fun _ _ _ ht hc => ht.apply hc) h hrun hcalls

/-- A transaction that is not pending stays so until its id is opened. -/
theorem get?_eq_none_of_run (h : s.pending.get? id = none)
    (hrun : Xacpp.run step s calls = some s') (hcalls : ∀ a ∈ calls, ¬ a.1.Opens id) :
    s'.pending.get? id = none := by
  refine keeps_of_run (I := fun s : TransactionSender => s.pending.get? id = none)
    (C := fun c => ¬ c.Opens id) ?_ h hrun hcalls
  intro t c now ht hopens
  refine Option.eq_none_iff_forall_ne_some.2 fun txn => ?_
  exact forall_apply (P := fun _ => False) (fun _ _ _ hfalse => hfalse)
    (fun hopen => absurd hopen hopens) (fun txn hget => by rw [ht] at hget; cases hget) txn

theorem ungated_iff : Ungated id s ↔ s.isAwaitingResume id = false := by
  unfold Ungated isAwaitingResume
  cases s.pending.get? id with
  | none | some txn => simp

theorem not_halted (hget : s.pending.get? id = some txn) (hpaused : txn.paused = false) :
    ¬ Halted id s := by
  intro h
  rw [h txn hget] at hpaused
  cases hpaused

/-! ## What is not resent -/

/-- What the clock resends is neither paused nor gated. -/
theorem flags_of_mem_dueRetransmissions (howns : s.OwnsFrames)
    (hf : f ∈ (s.dueRetransmissions now).1) :
    ∃ txn, s.pending.get? f.transactionId = some txn ∧ txn.paused = false ∧
      txn.awaitingResume = false := by
  obtain ⟨txn, hget, hdue⟩ := mem_dueRetransmissions howns hf
  unfold PendingTxn.dueRetransmissions at hdue
  split at hdue
  · exact absurd hdue List.not_mem_nil
  · next hflags =>
    rw [Bool.or_eq_true, not_or, Bool.not_eq_true, Bool.not_eq_true] at hflags
    exact ⟨txn, hget, hflags.1, hflags.2⟩

theorem Gated.ne_of_mem_dueRetransmissions (h : Gated id s) (howns : s.OwnsFrames)
    (hf : f ∈ (s.dueRetransmissions now).1) : f.transactionId ≠ id := by
  rintro rfl
  obtain ⟨txn, hget, -, hgate⟩ := flags_of_mem_dueRetransmissions howns hf
  rw [h txn hget] at hgate
  cases hgate

theorem Halted.ne_of_mem_dueRetransmissions (h : Halted id s) (howns : s.OwnsFrames)
    (hf : f ∈ (s.dueRetransmissions now).1) : f.transactionId ≠ id := by
  rintro rfl
  obtain ⟨txn, hget, hpaused, -⟩ := flags_of_mem_dueRetransmissions howns hf
  exact not_halted hget hpaused h

/-- A `NACK` resends nothing that is paused. -/
theorem paused_of_mem_handleNack {seqs : List UInt32} (hget : s.pending.get? id = some txn)
    (hf : f ∈ (s.handleNack id seqs now).1) : txn.paused = false := by
  rw [Bool.eq_false_iff]
  intro hpaused
  unfold handleNack at hf
  rw [hget] at hf
  dsimp only at hf
  rw [if_pos hpaused] at hf
  exact absurd hf List.not_mem_nil

section Verdicts

variable {out : ResumeVerdicts} {entry : ResumeStatusEntry} {entries : List ResumeStatusEntry}

theorem applyVerdictsFrom_cons : applyVerdictsFrom now (entry :: entries) out s =
    applyVerdictsFrom now entries (s.applyVerdict entry now out).1
      (s.applyVerdict entry now out).2 := rfl

theorem OwnsFrames.applyVerdict (h : s.OwnsFrames) (entry : ResumeStatusEntry) (now : ℕ)
    (out : ResumeVerdicts) : (s.applyVerdict entry now out).2.OwnsFrames := by
  have hruling := applyVerdict_ruling s entry now out
  generalize s.applyVerdict entry now out = r at hruling ⊢
  cases hruling with
  | absent => exact h
  | resumed hget hstatus hsame hretransmit =>
    refine h.insert fun f hf => ?_
    rw [hsame.frames] at hf
    exact h _ _ hget f hf
  | confirmed | failed => exact h.erase

theorem Halted.applyVerdict (h : Halted id s) (entry : ResumeStatusEntry) (now : ℕ)
    (out : ResumeVerdicts) : Halted id (s.applyVerdict entry now out).2 := by
  intro txn' hget'
  rcases rel_applyVerdict (R := Subsides) Subsides.refl Subsides.trans
    (fun txn => txn.subsides_ungate now) (fun _ => subsides_resend) s entry out id with
    hrel | ⟨hnone, -⟩
  · rw [hget'] at hrel
    generalize hold : s.pending.get? id = old at hrel
    cases hrel with
    | some hsub => exact hsub.paused.trans (h _ hold)
  · rw [hnone] at hget'
    cases hget'

/-- One verdict sends nothing of a paused transaction. -/
theorem Halted.ne_of_mem_applyVerdict (h : Halted id s) (howns : s.OwnsFrames)
    (hf : f ∈ (s.applyVerdict entry now out).1.retransmit) :
    f ∈ out.retransmit ∨ f.transactionId ≠ id := by
  by_cases hid : entry.transactionId = id
  · subst hid
    left
    unfold TransactionSender.applyVerdict at hf
    split at hf
    · exact hf
    · next txn hget =>
      rw [h txn hget] at hf
      split at hf
      · exact hf
      · dsimp only at hf
        split at hf
        · exact hf
        · exact hf
      · dsimp only at hf
        split at hf
        · exact hf
        · exact hf
  · have hruling := applyVerdict_ruling s entry now out
    generalize s.applyVerdict entry now out = r at hruling hf
    cases hruling with
    | absent => exact .inl hf
    | resumed hget hstatus hsame hretransmit =>
      rcases hretransmit f hf with hout | hcopy
      · exact .inl hout
      · exact .inr fun heq => hid ((howns _ _ hget f hcopy).symm.trans heq)
    | confirmed | failed => exact .inl hf

/-- **A response sends nothing of a paused transaction.** -/
theorem Halted.ne_of_mem_applyVerdictsFrom (h : Halted id s) (howns : s.OwnsFrames)
    (hf : f ∈ (applyVerdictsFrom now entries out s).1.retransmit) :
    f ∈ out.retransmit ∨ f.transactionId ≠ id := by
  induction entries generalizing s out with
  | nil => exact .inl hf
  | cons entry rest ih =>
    rw [applyVerdictsFrom_cons] at hf
    rcases ih (h.applyVerdict entry now out) (howns.applyVerdict entry now out) hf with hone | hne
    · exact h.ne_of_mem_applyVerdict howns hone
    · exact .inr hne

end Verdicts

/-- **A paused transaction is not sent again**, whichever call asks. -/
theorem Halted.ne_of_mem_apply (h : Halted id s) (howns : s.OwnsFrames) (hc : c.Retransmits)
    (hf : f ∈ (c.apply s now).1) : f.transactionId ≠ id := by
  cases c with
  | handleNack id' seqs =>
    rintro rfl
    obtain ⟨txn, hget, hcopy⟩ := mem_handleNack hf
    have hid : f.transactionId = id' := howns id' txn hget f hcopy
    have hpaused := paused_of_mem_handleNack hget hf
    exact not_halted (hid ▸ hget) hpaused h
  | dueRetransmissions => exact h.ne_of_mem_dueRetransmissions howns hf
  | applyResumeVerdicts entries =>
    exact (h.ne_of_mem_applyVerdictsFrom howns hf).resolve_left List.not_mem_nil
  | _ => exact absurd hc not_false

end TransactionSender

end Reliability

end Xacpp
