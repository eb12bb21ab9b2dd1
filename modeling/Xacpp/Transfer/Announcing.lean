import Xacpp.Transfer.Asks
import Xacpp.Transfer.Finish
/-!
# `sink_finish` and the gate

A finish looks at the gate once, after it has closed the frame sequence,
and then waits for a wiring, flushes the tail and announces the completion
without looking again. A `wire` or a declaration that gates the pending
sends in between is overlooked, and tail and TRANSACTION_COMPLETED go out on
the new transport ahead of the verdict. Where no transaction is gated while
a finish of it is past its look, a finish writes ungated only.
-/

namespace Xacpp

namespace Transfer

open Reliability

/-- The transaction of a finish that has looked at the gate and may still
write. -/
def Task.pastGate? : Task → Option TxId
  | .sinkFinish txid pc => if pc.pastGate then some txid else none
  | _ => none

namespace Session

variable {s s' : Session} {a : Action} {k now conn : ℕ} {outcomes : List Bool} {t : Task}
variable {txid : TxId} {pc pc' : FinishPc}

/-- **No gate behind a finish**: the pending transactions that a step gates
have no finish past its look at the gate. -/
def GateApart (s : Session) : Action → Prop
  | .advance k _ _ => ∀ t ∈ s.tasks.get? k, t.gates = true →
      ∀ t' ∈ s.tasks.values, ∀ txid ∈ t'.pastGate?,
        s.state.sender.containsTransaction txid = false
  | _ => True

instance decidableGateApart (s : Session) : ∀ a, Decidable (GateApart s a)
  | .advance k _ _ => inferInstanceAs (Decidable (∀ t ∈ s.tasks.get? k, t.gates = true →
      ∀ t' ∈ s.tasks.values, ∀ txid ∈ t'.pastGate?,
        s.state.sender.containsTransaction txid = false))
  | .inbound .. | .openBinarySink .. | .sinkResume .. | .start .. | .activity .. | .onBinary
  | .onBinaryStream | .close .. | .seeClosed .. => isTrue trivial

/-- A stretch that gates asks for nothing else. -/
theorem Asks.eq_declare_of_gates {c : SenderCall} (h : Asks s (.advance k now outcomes) c)
    (hget : s.tasks.get? k = some t) (hgates : t.gates = true) : c = .declarePending := by
  have hother : ∀ {t₁ : Task}, s.tasks.get? k = some t₁ → t₁.gates = true := by
    intro t₁ hget₁
    rw [hget, Option.some.injEq] at hget₁
    exact hget₁ ▸ hgates
  cases h with
  | arm | snapshot => rfl
  | abort hget₁ haborts => cases haborts <;> cases hother hget₁
  | append hget₁ | finish hget₁ | pause hget₁ | sendOpen hget₁ | sendAppend hget₁ | sendFinish hget₁
  | due hget₁ | timedOut hget₁ =>
    cases hother hget₁

/-- No gate is new where the steps that gate find the transaction gone. -/
theorem ungated_step (h : TransactionSender.Ungated txid s.state.sender)
    (hgates : ∀ k now outcomes t, a = .advance k now outcomes → s.tasks.get? k = some t →
      t.gates = true → s.state.sender.containsTransaction txid = false)
    (hstep : step s a = some s') : TransactionSender.Ungated txid s'.state.sender := by
  obtain ⟨calls, hrun, hasks⟩ := step_asks hstep
  by_cases hdeclare : ∃ c ∈ calls, c.1 = .declarePending
  · obtain ⟨c, hc, heq⟩ := hdeclare
    obtain ⟨k, now, outcomes, t, rfl, hget, hgate⟩ :=
      (heq ▸ hasks c hc : Asks s a _).gates_of_declare
    -- what is not pending is not gated, and the stretch opens nothing
    have hnone : s.state.sender.pending.get? txid = none :=
      Option.not_isSome_iff_eq_none.1 (Bool.eq_false_iff.1 (hgates k now outcomes t rfl hget hgate))
    have hgone := TransactionSender.get?_eq_none_of_run hnone hrun fun b hb hopens => by
      rw [(hasks b hb).eq_declare_of_gates hget hgate] at hopens
      exact hopens
    intro txn hget'
    rw [hgone] at hget'
    cases hget'
  · exact h.run hrun fun c hc heq => hdeclare ⟨c, hc, heq⟩

/-! ## Finishes past the gate -/

/-- A finish is past the gate because it was, or because it found it open. -/
theorem FinishStep.pastGate (h : FinishStep s k txid pc pc') (hpast : pc'.pastGate = true) :
    pc.pastGate = true ∨ s.state.sender.isAwaitingResume txid = false := by
  have hofAbort : ∀ pc : AbortPc, (FinishPc.ofAbort pc).pastGate = false := by
    intro pc
    cases pc <;> rfl
  cases h with
  | moved hmoves =>
    cases hmoves with
    | ungated hgate => exact .inr hgate
    | wired | park | woken | flushed | announce => exact .inl rfl
    | abort hab =>
      rw [hofAbort] at hpast
      cases hpast
    | _ => cases hpast
  | worked _ _ hgate => exact .inl (hgate hpast)
  | closed => cases hpast
  | aborted pc₁ =>
    rw [hofAbort] at hpast
    cases hpast
  | consumed => cases hpast

/-- Every transaction with a finish past the gate is ungated, or gone. -/
def FinishUngated (s : Session) : Prop :=
  ∀ k txid pc, s.tasks.get? k = some (.sinkFinish txid pc) → pc.pastGate = true →
    TransactionSender.Ungated txid s.state.sender

theorem FinishUngated.step (h : FinishUngated s) (hapart : GateApart s a)
    (hstep : Session.step s a = some s') : FinishUngated s' := by
  intro k txid pc' hget' hpast'
  rcases finish_origin hstep hget' with hstood | ⟨-, rfl⟩ | ⟨now, outcomes, pc, rfl, hget, hfin⟩
  · refine ungated_step (h k txid pc' hstood hpast') ?_ hstep
    rintro k₁ now outcomes t rfl hget hgates
    have hmem : .sinkFinish txid pc' ∈ s.tasks.values :=
      Table.mem_values.2 ⟨k, hstood⟩
    exact hapart t hget hgates _ hmem txid (if_pos hpast')
  · cases hpast'
  · have hungated : TransactionSender.Ungated txid s.state.sender := by
      rcases hfin.pastGate hpast' with hpast | hgate
      · exact h k txid pc hget hpast
      · exact TransactionSender.ungated_iff.2 hgate
    refine ungated_step hungated ?_ hstep
    -- a finish gates nothing
    rintro k₁ now₁ outcomes₁ t heq hget₁ hgates
    cases heq
    rw [hget, Option.some.injEq] at hget₁
    subst hget₁
    cases hgates

/-- What a finish writes it writes past the gate, or it aborts. -/
theorem Stretch.finish_wrote {w : Write} (h : Stretch s k now outcomes (.sinkFinish txid pc) s')
    (hlog : s'.log = .wrote conn w :: s.log) : pc.pastGate = true ∨ w.frame = abortFrame txid := by
  obtain ⟨events, hevents, hall⟩ := h.logs
  have hwrote : .wrote conn w ∈ events := by
    rw [hlog, ← List.singleton_append] at hevents
    rw [← List.append_cancel_right hevents]
    exact List.mem_singleton_self _
  cases hall conn w hwrote with
  | handed hhands => cases hhands <;> exact .inl rfl
  | announced hann =>
    cases hann with
    | finish => exact .inl rfl
    | finishAbort => exact .inr rfl

/-- **A finish writes ungated.** In every run in which no step gates behind
a finish, `sink_finish` hands the tail and TRANSACTION_COMPLETED to a
transport only while its transaction awaits no verdict. -/
theorem finish_writes_ungated {config : TransferConfig} {start : ℕ} {acts : List Action}
    {w : Write}
    (hrun : run step (new config start) acts = some s)
    (hmeets : RunMeets step GateApart (new config start) acts)
    (hget : s.tasks.get? k = some (.sinkFinish txid pc))
    (hstep : step s (.advance k now outcomes) = some s')
    (hlog : s'.log = .wrote conn w :: s.log)
    (hframe : w.frame.frameType = .dataBinary ∨ w.frame = completedFrame txid) :
    s.state.sender.isAwaitingResume txid = false := by
  have hungated : FinishUngated s :=
    run_induct_of (fun _ _ _ hs hapart hstep => hs.step hapart hstep)
      (fun _ _ _ hget => by cases hget) hmeets hrun
  have hpast : pc.pastGate = true := by
    cases step_steps hstep with
    | idle hsame htasks hquiet => exact absurd (congrArg Core.log hsame) (by simp [core, hlog])
    | advanced hget₁ hstretch =>
      rw [hget, Option.some.injEq] at hget₁
      subst hget₁
      refine (hstretch.finish_wrote hlog).resolve_right fun habort => ?_
      rw [habort] at hframe
      rcases hframe with hframe | hframe
      · cases hframe
      · cases congrArg Frame.frameType hframe
  exact TransactionSender.ungated_iff.1 (hungated k txid pc hget hpast)

namespace Sample

/-- The sink of one byte is finished by task 3, which is about to flush the
tail. -/
def flushing : List Action :=
  oneByteSink ++ .start 3 (.sinkFinish zeroId) :: List.replicate 4 (.advance 3 0 [])

/-- The session is unwired by task 4, and the finish of task 3 closes the
sequence, finds the gate open and no wiring, and parks. -/
def parkedUnwired : List Action :=
  oneByteSink ++ .start 4 .unwire :: List.replicate 4 (.advance 4 0 []) ++
    .start 3 (.sinkFinish zeroId) :: List.replicate 4 (.advance 3 0 [])

/-- Task 5 wires connection 1, and the finish wakes and finds it. -/
def rewired : List Action := parkedUnwired ++ wireUp 5 1 6 0 ++ List.replicate 2 (.advance 3 0 [])

end Sample

theorem finish_writes_ungated_sample :
    ∃ s s', run step (new {} 0) Sample.flushing = some s ∧
      step s (.advance 3 0 []) = some s' ∧
      s'.log = .wrote 0 ⟨.data, dataFrame zeroId 1 0 [7], true⟩ :: s.log ∧
      s.state.sender.isAwaitingResume zeroId = false := by
  obtain ⟨s, s', hrun, hstep, hget, hlog⟩ : ∃ s s', run step (new {} 0) Sample.flushing = some s ∧
      step s (.advance 3 0 []) = some s' ∧
      s.tasks.get? 3 = some (.sinkFinish zeroId (.flush 0 [dataFrame zeroId 1 0 [7]])) ∧
      s'.log = .wrote 0 ⟨.data, dataFrame zeroId 1 0 [7], true⟩ :: s.log := by decide
  exact ⟨_, _, hrun, hstep, hlog,
    finish_writes_ungated hrun (by decide) hget hstep hlog (.inl rfl)⟩

/-- **The finish overtakes the handshake**: it looked at the gate before the
connection was there, and on the new connection it writes tail and
TRANSACTION_COMPLETED while the transaction awaits the verdict of that
connection's declaration. -/
theorem finish_writes_gated :
    ∃ s s', run step (new {} 0) Sample.rewired = some s ∧ s.wiring = some 1 ∧
      s.state.sender.isAwaitingResume zeroId = true ∧
      run step s (List.replicate 4 (.advance 3 0 [])) = some s' ∧
      s'.state.sender.isAwaitingResume zeroId = true ∧
      s'.log = .wrote 1 ⟨.data, completedFrame zeroId, true⟩ ::
        .wrote 1 ⟨.data, dataFrame zeroId 1 0 [7], true⟩ :: s.log := by
  decide

end Session

end Transfer

end Xacpp
