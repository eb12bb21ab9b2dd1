import Xacpp.Transfer.Stretch
/-!
# Pauses and aborts that fail

`sink_pause` and `sink_abort` act on the state machine first, under the
lock, and then write the control frame the peer is owed. An error of the
first part says that there was no such transaction; an error of the second
says that the peer was not told, and the pause or the abort stays.
-/

namespace Xacpp

namespace Transfer

open Reliability

/-- There was no such transaction, and no copy has changed. Of the callbacks
only one registered under the very id may have. -/
structure FindsNone (st : SessionState) (txid : TxId) (st' : SessionState) : Prop where
  inactive : st.sender.containsTransaction txid = false
  pending : ∀ id, st'.sender.pending.get? id = st.sender.pending.get? id
  others : ∀ id, id ≠ txid → st'.completions.get? id = st.completions.get? id

/-- The transaction was pending and is paused now; that is all. -/
structure TakesPause (st : SessionState) (txid : TxId) (st' : SessionState) : Prop where
  paused : ∃ txn, st.sender.pending.get? txid = some txn ∧
    st'.sender.pending.get? txid = some { txn with paused := true }
  others : ∀ id, id ≠ txid → st'.sender.pending.get? id = st.sender.pending.get? id
  completions : st'.completions = st.completions

/-- The transaction was pending, and its copy and its callback are gone;
that is all. -/
structure TakesAbort (st : SessionState) (txid : TxId) (st' : SessionState) : Prop where
  active : st.sender.containsTransaction txid = true
  released : st'.sender.pending.get? txid = none
  unregistered : st'.completions.get? txid = none
  others : ∀ id, id ≠ txid → st'.sender.pending.get? id = st.sender.pending.get? id ∧
    st'.completions.get? id = st.completions.get? id

/-- The callback of the transaction, where it had one, fired as
unconfirmed. -/
def FiresUnconfirmed (st : SessionState) (txid : TxId) (log : List Event) : Prop :=
  ∀ cb, st.completions.get? txid = some cb → Event.fired cb ⟨txid, false⟩ ∈ log

/-- The frame was not written: there was no wiring, or the write on it, the
last thing to happen, failed. -/
def Unwritten (wiring : Option ℕ) (frame : Frame) (log : List Event) : Prop :=
  wiring = none ∨ ∃ conn, wiring = some conn ∧
    log.head? = some (.wrote conn ⟨.data, frame, false⟩)

namespace Session

variable {s s₀ s' : Session} {k now : ℕ} {outcomes : List Bool} {acts : List Action}
variable {txid : TxId}

/-! ## The locked sections -/

theorem pauseLocked_cases (st : SessionState) (txid : TxId) (now : ℕ) :
    (∃ sender, st.sender.setPaused txid true now = (false, sender)) ∧ FindsNone st txid st ∨
      ∃ sender, st.sender.setPaused txid true now = (true, sender) ∧
        TakesPause st txid (st.withSender sender) := by
  unfold TransactionSender.setPaused
  cases hget : st.sender.pending.get? txid with
  | none =>
    have hnone : st.sender.containsTransaction txid = false := by
      rw [TransactionSender.containsTransaction, Table.contains, hget]
      rfl
    exact .inl ⟨⟨_, rfl⟩, hnone, fun _ => rfl, fun _ _ => rfl⟩
  | some txn =>
    refine .inr ⟨_, rfl, ⟨txn, hget, Table.get?_insert_self _ _ _⟩, fun id hne => ?_, rfl⟩
    exact Table.get?_insert_of_ne _ _ hne

theorem abortLocked_cases (s : Session) (txid : TxId) :
    (∃ s₁, s.abortLocked txid = (false, s₁) ∧ FindsNone s.state txid s₁.state) ∨
      ∃ s₁, s.abortLocked txid = (true, s₁) ∧ TakesAbort s.state txid s₁.state ∧
        FiresUnconfirmed s.state txid s₁.log ∧ s₁.wiring = s.wiring := by
  rw [abortLocked_eq]
  have hothers : ∀ id, id ≠ txid →
      (s.state.sender.pending.erase txid).get? id = s.state.sender.pending.get? id ∧
        (s.state.completions.erase txid).get? id = s.state.completions.get? id := fun id hne =>
    ⟨Table.get?_erase_of_ne _ hne, Table.get?_erase_of_ne _ hne⟩
  cases hactive : s.state.sender.containsTransaction txid with
  | false =>
    refine .inl ⟨_, if_neg Bool.false_ne_true, hactive, fun id => ?_, fun id hne =>
      (hothers id hne).2⟩
    by_cases hid : id = txid
    · subst hid
      have hnone : s.state.sender.pending.get? id = none :=
        Option.not_isSome_iff_eq_none.1 (Bool.eq_false_iff.1 hactive)
      exact (Table.get?_erase_self _ _).trans hnone.symm
    · exact (hothers id hid).1
  | true =>
    refine .inr ⟨_, if_pos rfl, ⟨hactive, Table.get?_erase_self _ _, Table.get?_erase_self _ _,
      hothers⟩, fun cb hcb => ?_, rfl⟩
    refine List.mem_append_left _ (List.mem_reverse.2 (List.mem_cons_of_mem _ ?_))
    rw [hcb]
    exact List.mem_cons_self

/-! ## The calls, stretch by stretch -/

/-- What holds of `sink_pause` at each of its suspension points, against the
session it was made in. -/
def PauseAt (s₀ s : Session) (txid : TxId) : PausePc → Prop
  | .lock => s.state = s₀.state ∧ s.wiring = s₀.wiring
  | .readWiring => TakesPause s₀.state txid s.state ∧ s.wiring = s₀.wiring
  | .write conn => TakesPause s₀.state txid s.state ∧ s₀.wiring = some conn
  | .returned ok => ok = false → FindsNone s₀.state txid s.state ∧ s.state = s₀.state ∨
    TakesPause s₀.state txid s.state ∧ Unwritten s₀.wiring (pauseFrame txid) s.log

/-- The same for `sink_abort`. -/
def AbortAt (s₀ s : Session) (txid : TxId) : AbortPc → Prop
  | .lock => s.state = s₀.state ∧ s.wiring = s₀.wiring
  | .readWiring => TakesAbort s₀.state txid s.state ∧ FiresUnconfirmed s₀.state txid s.log ∧
    s.wiring = s₀.wiring
  | .write conn => TakesAbort s₀.state txid s.state ∧ FiresUnconfirmed s₀.state txid s.log ∧
    s₀.wiring = some conn
  | .returned ok => ok = false → FindsNone s₀.state txid s.state ∨
    TakesAbort s₀.state txid s.state ∧ FiresUnconfirmed s₀.state txid s.log ∧
      Unwritten s₀.wiring (abortFrame txid) s.log

/-- The task runs `sink_pause`, and it is where it should be. -/
def Pauses (s₀ : Session) (k : ℕ) (txid : TxId) (s : Session) : Prop :=
  ∃ pc, s.tasks.get? k = some (.sinkPause txid pc) ∧ PauseAt s₀ s txid pc

/-- The task runs `sink_abort`, and it is where it should be. -/
def RunsAbort (s₀ : Session) (k : ℕ) (txid : TxId) (s : Session) : Prop :=
  ∃ pc, s.tasks.get? k = some (.sinkAbort txid pc) ∧ AbortAt s₀ s txid pc

/-- **One stretch of `sink_pause`.** -/
theorem Pauses.step (h : Pauses s₀ k txid s)
    (hstep : Session.step s (.advance k now outcomes) = some s') : Pauses s₀ k txid s' := by
  obtain ⟨pc, hget, hat⟩ := h
  rw [Session.step, hget, Option.bind_some, advance] at hstep
  cases pc with
  | lock =>
    obtain ⟨hstate, hwiring⟩ := hat
    rw [advancePause] at hstep
    rcases pauseLocked_cases s.state txid now with ⟨⟨sender, heq⟩, hnone⟩ | ⟨sender, heq, htakes⟩
    · rw [heq] at hstep
      cases hstep
      exact ⟨_, Table.get?_insert_self _ _ _, fun _ => .inl ⟨hstate ▸ hnone, hstate⟩⟩
    · rw [heq] at hstep
      cases hstep
      refine ⟨_, Table.get?_insert_self _ _ _, ?_, hwiring⟩
      rw [← hstate]
      exact htakes
  | readWiring =>
    obtain ⟨htakes, hwiring⟩ := hat
    rw [advancePause] at hstep
    split at hstep
    · next hnone =>
      cases hstep
      exact ⟨_, Table.get?_insert_self _ _ _, fun _ => .inr ⟨htakes, .inl (hwiring ▸ hnone)⟩⟩
    · next conn hsome =>
      cases hstep
      exact ⟨_, Table.get?_insert_self _ _ _, htakes, hwiring ▸ hsome⟩
  | write conn =>
    obtain ⟨htakes, hwiring⟩ := hat
    cases hstep
    refine ⟨_, Table.get?_insert_self _ _ _, fun hfailed => .inr ⟨htakes, .inr ⟨conn, hwiring, ?_⟩⟩⟩
    rw [← hfailed]
    rfl
  | returned ok => cases hstep

/-- **One stretch of `sink_abort`.** -/
theorem RunsAbort.step (h : RunsAbort s₀ k txid s)
    (hstep : Session.step s (.advance k now outcomes) = some s') : RunsAbort s₀ k txid s' := by
  obtain ⟨pc, hget, hat⟩ := h
  rw [Session.step, hget, Option.bind_some, advance] at hstep
  cases pc with
  | lock =>
    obtain ⟨hstate, hwiring⟩ := hat
    rw [advanceAbort] at hstep
    rcases s.abortLocked_cases txid with ⟨s₁, heq, hnone⟩ | ⟨s₁, heq, htakes, hfires, hkept⟩
    · rw [heq] at hstep
      cases hstep
      refine ⟨_, Table.get?_insert_self _ _ _, fun _ => .inl ?_⟩
      rw [← hstate]
      exact hnone
    · rw [heq] at hstep
      cases hstep
      refine ⟨_, Table.get?_insert_self _ _ _, ?_, ?_, hkept.trans hwiring⟩
      · rw [← hstate]
        exact htakes
      · rw [← hstate]
        exact hfires
  | readWiring =>
    obtain ⟨htakes, hfires, hwiring⟩ := hat
    rw [advanceAbort] at hstep
    split at hstep
    · next hnone =>
      cases hstep
      exact ⟨_, Table.get?_insert_self _ _ _, fun _ =>
        .inr ⟨htakes, hfires, .inl (hwiring ▸ hnone)⟩⟩
    · next conn hsome =>
      cases hstep
      exact ⟨_, Table.get?_insert_self _ _ _, htakes, hfires, hwiring ▸ hsome⟩
  | write conn =>
    obtain ⟨htakes, hfires, hwiring⟩ := hat
    cases hstep
    refine ⟨_, Table.get?_insert_self _ _ _, fun hfailed =>
      .inr ⟨htakes, fun cb hcb => List.mem_cons_of_mem _ (hfires cb hcb), .inr ⟨conn, hwiring, ?_⟩⟩⟩
    rw [← hfailed]
    rfl
  | returned ok => cases hstep

/-- **What an error of `sink_pause` or `sink_abort` says**, whatever the
session and the transport: there was no such transaction, and the copies
are as before the call, with the callbacks of all other ids; or there was
one, the pause or the abort is in effect, and the control frame was not
written. -/
theorem failed_pause_or_abort (hown : ∀ a ∈ acts, ∃ now outcomes, a = .advance k now outcomes) :
    (run step s (.start k (.sinkPause txid) :: acts) = some s' →
      s'.tasks.get? k = some (.sinkPause txid (.returned false)) →
      FindsNone s.state txid s'.state ∧ s'.state = s.state ∨
        TakesPause s.state txid s'.state ∧ Unwritten s.wiring (pauseFrame txid) s'.log) ∧
    (run step s (.start k (.sinkAbort txid) :: acts) = some s' →
      s'.tasks.get? k = some (.sinkAbort txid (.returned false)) →
      FindsNone s.state txid s'.state ∨
        TakesAbort s.state txid s'.state ∧ FiresUnconfirmed s.state txid s'.log ∧
          Unwritten s.wiring (abortFrame txid) s'.log) := by
  constructor
  · intro hrun hfailed
    have hpauses : Pauses s k txid s' := by
      refine call_induct (fun _ _ _ _ ht hstep => ht.step hstep) ?_ hown hrun
      exact ⟨.lock, Table.get?_insert_self _ _ _, rfl, rfl⟩
    obtain ⟨pc, hget, hat⟩ := hpauses
    rw [hfailed] at hget
    cases hget
    exact hat rfl
  · intro hrun hfailed
    have haborts : RunsAbort s k txid s' := by
      refine call_induct (fun _ _ _ _ ht hstep => ht.step hstep) ?_ hown hrun
      exact ⟨.lock, Table.get?_insert_self _ _ _, rfl, rfl⟩
    obtain ⟨pc, hget, hat⟩ := haborts
    rw [hfailed] at hget
    cases hget
    exact hat rfl

namespace Sample

/-- A sink is open and the session is not wired. -/
def unwired : Session := (run step (new {} 0) [.openBinarySink zeroId 1 0]).getD (new {} 0)

/-- A byte is written and confirmed while task 3 finishes the sink, just
before it registers its callback. -/
def confirmedBeforeRegister : List Action :=
  wireUp 0 0 1 0 ++
    [.openBinarySink zeroId 1 0, .start 2 (.sinkWrite zeroId [7])] ++
    List.replicate 3 (.advance 2 0 []) ++ .start 3 (.sinkFinish zeroId) ::
    List.replicate 8 (.advance 3 0 []) ++
    [.inbound 0 (controlFrame .ack ([1] ++ zeroId.toList ++ [0, 0, 0, 0, 0, 0, 0, 1])) 1 [],
      .advance 3 1 []]

end Sample

/-- A pause and an abort of a sink that is open, on a session without
wiring. -/
theorem failed_pause_or_abort_sample :
    (∃ s, run step Sample.unwired
        [.start 0 (.sinkPause zeroId), .advance 0 0 [], .advance 0 0 []] = some s ∧
      s.tasks.get? 0 = some (.sinkPause zeroId (.returned false)) ∧
      TakesPause Sample.unwired.state zeroId s.state) ∧
    ∃ s, run step Sample.unwired
        [.start 0 (.sinkAbort zeroId), .advance 0 0 [], .advance 0 0 []] = some s ∧
      s.tasks.get? 0 = some (.sinkAbort zeroId (.returned false)) ∧
      TakesAbort Sample.unwired.state zeroId s.state := by
  have hown : ∀ a ∈ [Action.advance 0 0 [], .advance 0 0 []],
      ∃ now outcomes, a = .advance 0 now outcomes := by
    intro a ha
    have heq : a = .advance 0 0 [] := by simpa using ha
    exact ⟨0, [], heq⟩
  obtain ⟨s, hrun, hpause⟩ : ∃ s, run step Sample.unwired
        [.start 0 (.sinkPause zeroId), .advance 0 0 [], .advance 0 0 []] = some s ∧
      s.tasks.get? 0 = some (.sinkPause zeroId (.returned false)) := by decide
  obtain ⟨s', hrun', habort⟩ : ∃ s, run step Sample.unwired
        [.start 0 (.sinkAbort zeroId), .advance 0 0 [], .advance 0 0 []] = some s ∧
      s.tasks.get? 0 = some (.sinkAbort zeroId (.returned false)) := by decide
  have hactive : Sample.unwired.state.sender.containsTransaction zeroId = true := by decide
  refine ⟨⟨_, hrun, hpause, ?_⟩, _, hrun', habort, ?_⟩
  · rcases (failed_pause_or_abort hown).1 hrun hpause with ⟨hnone, -⟩ | ⟨htakes, -⟩
    · rw [hnone.inactive] at hactive
      cases hactive
    · exact htakes
  · rcases (failed_pause_or_abort hown).2 hrun' habort with hnone | ⟨htakes, -⟩
    · rw [hnone.inactive] at hactive
      cases hactive
    · exact htakes

/-- **Errors after the fact**: without wiring a pause fails and has paused,
and an abort fails and has released the copy. And an abort that finds no
copy drops the callback a finish has registered meanwhile. -/
theorem failed_and_took_effect :
    (∃ s, run step Sample.unwired
        [.start 0 (.sinkPause zeroId), .advance 0 0 [], .advance 0 0 []] = some s ∧
      s.tasks.get? 0 = some (.sinkPause zeroId (.returned false)) ∧
      Sample.unwired.state.sender.isTransactionPaused zeroId = false ∧
      s.state.sender.isTransactionPaused zeroId = true) ∧
    (∃ s, run step Sample.unwired
        [.start 0 (.sinkAbort zeroId), .advance 0 0 [], .advance 0 0 []] = some s ∧
      s.tasks.get? 0 = some (.sinkAbort zeroId (.returned false)) ∧
      Sample.unwired.state.sender.containsTransaction zeroId = true ∧
      s.state.sender.containsTransaction zeroId = false) ∧
    ∃ s s', run step (new {} 0) Sample.confirmedBeforeRegister = some s ∧
      run step s [.start 4 (.sinkAbort zeroId), .advance 4 1 []] = some s' ∧
      s'.tasks.get? 4 = some (.sinkAbort zeroId (.returned false)) ∧
      s.state.completions.get? zeroId = some (.finish 3) ∧
      s'.state.completions.get? zeroId = none := by
  decide

end Session

end Transfer

end Xacpp
