import Xacpp.Reliability.Accounts
import Xacpp.Reliability.Flags
/-!
# The reconnect gate

A declaration gates a transaction until the peer's verdict. While it is
gated the clock sends nothing of it, and only a `resumed` verdict lifts the
gate (`gated_until_resumed`). The verdict itself sends what is unconfirmed,
unless the transaction is paused; then nothing of it is sent again before
the pause is ended.
-/

namespace Xacpp

namespace Reliability

variable {id : TxId} {now : ℕ}

namespace Holder

variable {config : SenderConfig} {calls : List (SenderCall × ℕ)}

/-- The history is kept beside the sender, so every run has one. -/
theorem run_of_run {h : Holder} {s : TransactionSender}
    (hrun : run TransactionSender.step h.sender calls = some s) :
    ∃ h', run step h calls = some h' ∧ h'.sender = s := by
  induction calls generalizing h with
  | nil =>
    cases hrun
    exact ⟨h, rfl, rfl⟩
  | cons a calls ih =>
    obtain ⟨t, ht, hrest⟩ := run_cons_eq_some.1 hrun
    cases ht
    obtain ⟨h', hrun', hsender⟩ := ih (h := ⟨(a.1.apply h.sender a.2).2, _⟩) hrest
    exact ⟨h', hrun', hsender⟩

end Holder

namespace PendingTxn

variable {txn txn' : PendingTxn} {f : Frame} {pick : FrameState → Bool}

/-- The frames a resend picks, by their places. -/
theorem mem_resend_iff : f ∈ (txn.resend pick now).2 ↔ ∃ (i : ℕ) (state : FrameState),
    txn.states[i]? = some state ∧ pick state = true ∧ txn.frames[i]? = some (some f) := by
  rw [resend, List.mem_filterMap]
  constructor
  · rintro ⟨⟨state, frame⟩, hmem, hpick⟩
    obtain ⟨i, hi⟩ := List.mem_iff_getElem?.1 hmem
    rw [List.getElem?_zip_eq_some] at hi
    dsimp only at hi hpick
    split at hpick
    · next hopen =>
      subst hpick
      exact ⟨i, state, hi.1, hopen, hi.2⟩
    · cases hpick
  · rintro ⟨i, state, hstate, hopen, hframe⟩
    refine ⟨(state, some f), List.mem_iff_getElem?.2 ⟨i, ?_⟩, if_pos hopen⟩
    rw [List.getElem?_zip_eq_some]
    exact ⟨hstate, hframe⟩

/-- The frames of a copy that are not confirmed, in order. -/
def unconfirmed (txn : PendingTxn) : List Frame :=
  (txn.states.zip txn.frames).filterMap fun (state, frame) =>
    if state.confirmed then none else frame

theorem resend_unconfirmed (txn : PendingTxn) (now : ℕ) :
    (txn.resend (fun state => !state.confirmed) now).2 = txn.unconfirmed := by
  refine congrArg (fun pick => (txn.states.zip txn.frames).filterMap pick) (funext fun e => ?_)
  cases h : e.1.confirmed with
  | true => simp only [h, Bool.not_true, Bool.false_eq_true, if_false, if_true]
  | false => simp only [h, Bool.not_false, Bool.false_eq_true, if_false, if_true]

theorem mem_unconfirmed_iff : f ∈ txn.unconfirmed ↔ ∃ (i : ℕ) (state : FrameState),
    txn.states[i]? = some state ∧ state.confirmed = false ∧ txn.frames[i]? = some (some f) := by
  rw [← txn.resend_unconfirmed 0, mem_resend_iff]
  simp only [Bool.not_eq_true']

/-- Every retained frame carries the id and has its place for its seq, and
what is not confirmed is retained. -/
structure Numbered (txn : PendingTxn) (id : TxId) : Prop where
  place : ∀ (i : ℕ) f, txn.frames[i]? = some (some f) → f.transactionId = id ∧ f.seq.toNat = i
  copies : ∀ (i : ℕ) (state : FrameState), txn.states[i]? = some state →
    state.confirmed = false → ∃ f, txn.frames[i]? = some (some f)
  length : txn.states.length = txn.frames.length

theorem Kept.numbered {framed : List Bytes} {n : ℕ} (h : txn.Kept id framed n) :
    txn.Numbered id where
  place i f hf := by
    obtain ⟨p, hp, rfl⟩ := h.holds.copy i f hf
    have hi := (List.getElem?_eq_some_iff.1 hp).1
    exact ⟨rfl, UInt32.toNat_ofNat_of_lt' (hi.trans h.holds.length_lt)⟩
  copies := h.inRange.copies
  length := h.holds.states_length.trans h.holds.frames_length.symm

/-- **What a resend picks goes by its seqs**, each once. -/
theorem Numbered.pairwise_resend (h : txn.Numbered id) (pick : FrameState → Bool) (now : ℕ) :
    (txn.resend pick now).2.Pairwise fun f g => f.seq < g.seq := by
  -- the frame picked at a place has that place for its seq
  have hpick : ∀ {i : ℕ} {e : FrameState × Option Frame} {f : Frame},
      (txn.states.zip txn.frames)[i]? = some e →
      (if pick e.1 then e.2 else none) = some f → f.seq.toNat = i := by
    intro i e f he hf
    rw [List.getElem?_zip_eq_some] at he
    split at hf
    · exact (h.place i f (hf ▸ he.2)).2
    · cases hf
  rw [resend, List.pairwise_filterMap, List.pairwise_iff_getElem]
  intro i j hi hj hlt f hf g hg
  have hif := hpick (List.getElem?_eq_getElem hi) hf
  have hjg := hpick (List.getElem?_eq_getElem hj) hg
  rw [UInt32.lt_iff_toNat_lt, hif, hjg]
  exact hlt

end PendingTxn

namespace TransactionSender

open PendingTxn

variable {config : SenderConfig} {calls as : List (SenderCall × ℕ)} {s s' : TransactionSender}
  {txn : PendingTxn} {f : Frame}

/-- Every copy of a sender that was reached has its shape. -/
theorem kept_of_run (hrun : run step (new config) calls = some s)
    (hget : s.pending.get? id = some txn) : ∃ framed n, txn.Kept id framed n := by
  obtain ⟨h, hrun', rfl⟩ := Holder.run_of_run (h := Holder.new config) hrun
  have htraces := (Holder.inv_of_run hrun').traces id
  rw [hget] at htraces
  generalize (h.created.get? id).getD [] = created at htraces
  cases htraces with
  | held hkept => exact ⟨_, _, hkept⟩

theorem OwnsFrames.run (h : s.OwnsFrames) (hrun : Xacpp.run step s calls = some s') :
    s'.OwnsFrames :=
  keeps_of_run (I := OwnsFrames) (C := fun _ => True) (fun _ c now ht _ => ht.apply c now) h hrun
    fun _ _ => trivial

theorem ownsFrames_of_run (hrun : run step (new config) calls = some s) : s.OwnsFrames :=
  (ownsFrames_new config).run hrun

/-! ## The verdict -/

section Verdict

variable {out : ResumeVerdicts} {entry : ResumeStatusEntry} {entries : List ResumeStatusEntry}

/-- The first entry of a response that names the transaction. -/
def firstVerdict (id : TxId) (entries : List ResumeStatusEntry) : Option ResumeStatusEntry :=
  entries.find? fun entry => decide (entry.transactionId = id)

theorem firstVerdict_cons : firstVerdict id (entry :: entries) =
    if entry.transactionId = id then some entry else firstVerdict id entries := by
  rw [firstVerdict, List.find?_cons]
  split
  · next h => rw [if_pos (of_decide_eq_true h)]
  · next h => rw [if_neg (of_decide_eq_false h), firstVerdict]

/-- The frames one entry of a response has sent again. -/
def sentFor (s : TransactionSender) (entry : ResumeStatusEntry) : List Frame :=
  match s.pending.get? entry.transactionId with
  | none => []
  | some txn =>
    if entry.status = .resumed ∧ txn.paused = false then txn.unconfirmed else []

theorem retransmit_applyVerdict (s : TransactionSender) (entry : ResumeStatusEntry) (now : ℕ)
    (out : ResumeVerdicts) :
    (s.applyVerdict entry now out).1.retransmit = out.retransmit ++ s.sentFor entry := by
  unfold applyVerdict sentFor
  cases hget : s.pending.get? entry.transactionId with
  | none => exact (List.append_nil _).symm
  | some txn =>
    dsimp only
    cases hstatus : entry.status with
    | resumed =>
      dsimp only
      cases hpaused : txn.paused with
      | true =>
        rw [if_pos rfl, if_neg (fun h => by cases h.2), List.append_nil]
      | false =>
        rw [if_neg Bool.false_ne_true, if_pos ⟨rfl, rfl⟩]
        dsimp only
        rw [resend_unconfirmed]
        rfl
    | unknown | rejected =>
      have hno : ¬ (entry.status = .resumed ∧ txn.paused = false) := fun h => by
        rw [hstatus] at h
        cases h.1
      rw [hstatus] at hno
      rw [if_neg hno, List.append_nil]
      dsimp only
      split
      · rfl
      · rfl

/-- What a verdict sends is not taken back by the entries after it. -/
theorem retransmit_applyVerdictsFrom (s : TransactionSender) (entries : List ResumeStatusEntry)
    (now : ℕ) (out : ResumeVerdicts) :
    out.retransmit ⊆ (applyVerdictsFrom now entries out s).1.retransmit := by
  induction entries generalizing s out with
  | nil => exact List.Subset.refl _
  | cons entry rest ih =>
    rw [applyVerdictsFrom_cons]
    have hone : out.retransmit ⊆ (s.applyVerdict entry now out).1.retransmit := by
      rw [retransmit_applyVerdict]
      exact List.subset_append_left _ _
    exact List.Subset.trans hone (ih _ _)

/-- **A `resumed` verdict sends every unconfirmed frame** of a transaction
that is not paused, where it is the first for it in the response. -/
theorem mem_retransmit_of_resumed {i : ℕ} {state : FrameState}
    (hget : s.pending.get? id = some txn) (hpaused : txn.paused = false)
    (hfirst : firstVerdict id entries = some ⟨id, .resumed⟩)
    (hstate : txn.states[i]? = some state) (hopen : state.confirmed = false)
    (hframe : txn.frames[i]? = some (some f)) :
    f ∈ (applyVerdictsFrom now entries out s).1.retransmit := by
  induction entries generalizing s out with
  | nil => cases hfirst
  | cons entry rest ih =>
    rw [applyVerdictsFrom_cons]
    by_cases hid : entry.transactionId = id
    · rw [firstVerdict_cons, if_pos hid, Option.some.injEq] at hfirst
      subst hfirst
      refine retransmit_applyVerdictsFrom _ rest now _ ?_
      have hsent : s.sentFor ⟨id, .resumed⟩ = txn.unconfirmed := by
        simp only [sentFor, hget, hpaused, and_self, if_true]
      rw [retransmit_applyVerdict, hsent]
      exact List.mem_append_right _ (mem_unconfirmed_iff.2 ⟨i, state, hstate, hopen, hframe⟩)
    · rw [firstVerdict_cons, if_neg hid] at hfirst
      exact ih (((s.stored_applyVerdict entry now out).get?_of_ne hid).trans hget) hfirst

end Verdict

/-- **The gate, until the verdict.** While a transaction is gated the clock
sends nothing of it, and it stays gated through every call that brings it no
`resumed` verdict and does not open its id anew. A response in which
`resumed` is the first verdict for it sends every unconfirmed frame, or
nothing where it is paused; and then nothing of it is sent again until the
pause is ended, whatever calls come in between. -/
theorem gated_until_resumed (hrun : run step (new config) calls = some s)
    (hget : s.pending.get? id = some txn) (hgate : txn.awaitingResume = true) :
    (∀ as s', run step s as = some s' → (∀ a ∈ as, ¬ a.1.Resumes id ∧ ¬ a.1.Opens id) →
        (∀ txn', s'.pending.get? id = some txn' → txn'.awaitingResume = true) ∧
          ∀ now, ∀ f ∈ (s'.dueRetransmissions now).1, f.transactionId ≠ id) ∧
      ∀ entries now, firstVerdict id entries = some ⟨id, .resumed⟩ →
        (txn.paused = false → ∀ (i : ℕ) (state : FrameState), txn.states[i]? = some state →
          state.confirmed = false → ∃ f, txn.frames[i]? = some (some f) ∧
            f ∈ (s.applyResumeVerdicts entries now).1.retransmit) ∧
        (txn.paused = true →
          (∀ f ∈ (s.applyResumeVerdicts entries now).1.retransmit, f.transactionId ≠ id) ∧
          ∀ as s', run step (s.applyResumeVerdicts entries now).2 as = some s' →
            (∀ a ∈ as, a.1 ≠ .setPaused id false ∧ ¬ a.1.Opens id) →
            ∀ (c : SenderCall) now, c.Retransmits →
              ∀ f ∈ (c.apply s' now).1, f.transactionId ≠ id) := by
  have hgated : Gated id s := fun txn' hget' => by
    rw [hget, Option.some.injEq] at hget'
    exact hget' ▸ hgate
  refine ⟨fun as s' hrun' hcalls => ?_, fun entries now hfirst => ⟨?_, ?_⟩⟩
  · have hgated' := hgated.run hrun' hcalls
    have hreached : run step (new config) (calls ++ as) = some s' := by
      rw [run_append, hrun, Option.bind_some, hrun']
    exact ⟨hgated', fun now f hf =>
      hgated'.ne_of_mem_dueRetransmissions (ownsFrames_of_run hreached) hf⟩
  · intro hpaused i state hstate hopen
    obtain ⟨framed, n, hkept⟩ := kept_of_run hrun hget
    obtain ⟨f, hframe⟩ := hkept.inRange.copies i state hstate hopen
    exact ⟨f, hframe, mem_retransmit_of_resumed hget hpaused hfirst hstate hopen hframe⟩
  · intro hpaused
    have hhalted : Halted id s := fun txn' hget' => by
      rw [hget, Option.some.injEq] at hget'
      exact hget' ▸ hpaused
    -- the response is a call like the others: it sends nothing and leaves the pause
    have howns := ownsFrames_of_run hrun
    have hafter : Halted id (s.applyResumeVerdicts entries now).2 :=
      hhalted.apply (c := .applyResumeVerdicts entries) (fun h => by cases h) not_false
    refine ⟨fun f hf =>
        hhalted.ne_of_mem_apply (c := .applyResumeVerdicts entries) howns trivial hf,
      fun as s' hrun' hcalls c now' hc f hf => ?_⟩
    exact (hafter.run hrun' hcalls).ne_of_mem_apply
      ((howns.apply (.applyResumeVerdicts entries) now).run hrun') hc hf

namespace Sample

/-- One frame sent, and a declaration after a reconnect. -/
def declared (paused : Bool) : List (SenderCall × ℕ) :=
  [(.openTransaction zeroId 2, 0), (.appendChunk zeroId [1, 2], 1), (.setPaused zeroId paused, 2),
    (.declarePending, 3)]

end Sample

theorem gated_until_resumed_sample :
    ∃ s txn, run step (new { frameSize := 2 }) (Sample.declared false) = some s ∧
      s.pending.get? zeroId = some txn ∧ txn.awaitingResume = true ∧
      (∀ f ∈ (s.dueRetransmissions 9000).1, f.transactionId ≠ zeroId) ∧
      (s.applyResumeVerdicts [⟨zeroId, .resumed⟩] 4).1.retransmit =
        [dataFrame zeroId 2 0 [1, 2]] := by
  obtain ⟨s, txn, hrun, hpending, hgate, hresumed⟩ :
      ∃ s txn, run step (new { frameSize := 2 }) (Sample.declared false) = some s ∧
        s.pending.get? zeroId = some txn ∧ txn.awaitingResume = true ∧
        (s.applyResumeVerdicts [⟨zeroId, .resumed⟩] 4).1.retransmit =
          [dataFrame zeroId 2 0 [1, 2]] := by decide
  have hgated := (gated_until_resumed hrun hpending hgate).1 [] _ rfl (List.forall_mem_nil _)
  exact ⟨_, _, hrun, hpending, hgate, hgated.2 9000, hresumed⟩

/-- A paused transaction is resumed without a frame, and the first resend is
the clock's. One that is not paused answers a NACK while it is gated. -/
theorem resent_without_verdict :
    (∃ s, run step (new { frameSize := 2 }) (Sample.declared true) = some s ∧
      s.isAwaitingResume zeroId = true ∧
      (s.applyResumeVerdicts [⟨zeroId, .resumed⟩] 4).1.retransmit = [] ∧
      (((s.applyResumeVerdicts [⟨zeroId, .resumed⟩] 4).2.setPaused zeroId false 5).2
        |>.dueRetransmissions 9000).1 = [dataFrame zeroId 2 0 [1, 2]]) ∧
      ∃ s, run step (new { frameSize := 2 }) (Sample.declared false) = some s ∧
        s.isAwaitingResume zeroId = true ∧
        (s.handleNack zeroId [0] 4).1 = [dataFrame zeroId 2 0 [1, 2]] := by
  decide

end TransactionSender

end Reliability

end Xacpp
