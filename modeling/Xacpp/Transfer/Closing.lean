import Xacpp.Transfer.Finish
/-!
# A finish and the ACKs beside it

`sink_finish` takes the state lock for each of its sections, and the final
ACK may come in any of the gaps. Before the fast path, and from the close of
the sequence on, it is met: the copy is absent and read as confirmed, or the
oneshot is fired. Between the two the close finds no copy, takes that for a
short write and the call fails. `FinishAt` is what a finish relies on at
each of its suspension points while nothing but ACKs is handled beside it.
-/

namespace Xacpp

namespace Transfer

open Reliability

/-- Where the transaction is pending, its declared bytes are all written. -/
def WrittenOut (sender : TransactionSender) (txid : TxId) : Prop :=
  ∀ txn, sender.pending.get? txid = some txn → txn.written = txn.totalLen.toNat

theorem WrittenOut.handleAck {sender : TransactionSender} {txid : TxId}
    (h : WrittenOut sender txid) (entry : AckEntry) (now : ℕ) :
    WrittenOut (sender.handleAck entry now).2 txid := by
  intro txn hget
  unfold TransactionSender.handleAck at hget
  cases hown : sender.pending.get? entry.transactionId with
  | none =>
    rw [hown] at hget
    exact h txn hget
  | some copy =>
    rw [hown] at hget
    dsimp only at hget
    split at hget
    · change (sender.pending.erase entry.transactionId).get? txid = some txn at hget
      exact h txn (Table.of_get?_erase hget).2
    · rcases Table.of_get?_insert hget with ⟨heq, rfl⟩ | ⟨-, hget⟩
      · exact h copy (heq ▸ hown)
      · exact h txn hget

theorem WrittenOut.foldl {sender : TransactionSender} {txid : TxId}
    (h : WrittenOut sender txid) (entries : List AckEntry) (now : ℕ) :
    WrittenOut (entries.foldl (fun sender entry => (sender.handleAck entry now).2) sender)
      txid := by
  induction entries generalizing sender with
  | nil => exact h
  | cons entry rest ih => exact ih (h.handleAck entry now)

/-- A finish whose copy is gone has so many stretches left. -/
def FinishPc.remaining : FinishPc → ℕ
  | .returned _ => 0
  | .fastPath | .consume | .awaiting => 1
  | .recheck => 2
  | .register => 3
  | .announceWrite _ => 4
  | .announce => 5
  | .flush _ tail => 6 + tail.length
  | .checkWiring tail _ true => 7 + tail.length
  | .parked tail _ => 8 + tail.length
  | .checkWiring tail _ false => 9 + tail.length
  | .sampleGate tail => 10 + tail.length
  | .close | .aborting _ => 0

namespace Session

variable {s s₀ s' : Session} {a : Action} {k now : ℕ} {outcomes : List Bool} {txid : TxId}
variable {acts : List Action}

/-! ## An ACK -/

/-- **What an ACK does to the ledger.** -/
theorem receive_ack (s : Session) (conn : ℕ) {frame : Frame} (now : ℕ) (outcomes : List Bool)
    (hack : frame.frameType = .ack) :
    ∃ closed : List (TxId × Settlement), (∀ c ∈ closed, c.2 = .acked) ∧
      (∀ id, (s.receive conn frame now outcomes).state.sender.containsTransaction id = true ↔
        s.state.sender.containsTransaction id = true ∧ id ∉ closed.map Prod.fst) ∧
      (∀ id, id ∉ closed.map Prod.fst →
        (s.receive conn frame now outcomes).state.completions.get? id =
          s.state.completions.get? id) ∧
      Enters s (s.receive conn frame now outcomes)
        (settleEntries s.state.completions closed true).reverse := by
  obtain ⟨closed, hset, hacked⟩ := Handling.onAckFrame_settles
    (.start (s.state.touch now) outcomes) frame now
  have hhandled : handleInbound s.state frame s.binaryHandler s.streamHandler now outcomes =
      (Handling.start (s.state.touch now) outcomes).onAckFrame frame now := by
    simp only [handleInbound, Handling.dispatch, hack]
  refine ⟨closed, hacked, fun id => ?_, fun id hid => ?_, ?_⟩
  · rw [receive_state, hhandled]
    exact hset.pending id
  · rw [receive_state, hhandled, hset.table id, if_neg (fun h => hid h.2)]
    rfl
  · rw [← hhandled] at hset
    exact Enters.of_settles hset rfl (s.receive_log _ _ _ _) rfl

theorem writtenOut_receive_ack {conn : ℕ} {frame : Frame} (hack : frame.frameType = .ack)
    (h : WrittenOut s.state.sender txid) :
    WrittenOut (s.receive conn frame now outcomes).state.sender txid := by
  obtain ⟨⟨entries, heq⟩, -⟩ :=
    Handling.onAckFrame_spec (.start (s.state.touch now) outcomes) frame now
  rw [receive_state, handleInbound]
  simp only [Handling.dispatch, hack]
  rw [heq]
  exact h.foldl entries now

/-! ## Where a finish stands -/

/-- The oneshot of the task was fired. -/
def Told (s : Session) (k : ℕ) : Prop := ∃ result, Event.fired (.finish k) result ∈ s.log

/-- The oneshot of the task was told nothing but confirmations. -/
def ToldConfirmed (s : Session) (k : ℕ) : Prop :=
  ∀ result, Event.fired (.finish k) result ∈ s.log → result.confirmed = true

theorem mem_of_firedResult {confirmed : Bool} (h : s.firedResult k = some confirmed) :
    ∃ result, Event.fired (.finish k) result ∈ s.log ∧ result.confirmed = confirmed := by
  obtain ⟨e, hmem, he⟩ := List.exists_of_findSome?_eq_some h
  cases e with
  | fired cb result =>
    cases cb with
    | finish k' =>
      simp only [Option.ite_none_right_eq_some, Option.some.injEq] at he
      exact ⟨result, he.1 ▸ hmem, he.2⟩
    | user n => cases he
  | _ => cases he

theorem firedResult_of_told (htold : Told s k) (hconf : ToldConfirmed s k) :
    s.firedResult k = some true := by
  cases hfired : s.firedResult k with
  | none =>
    obtain ⟨result, hmem⟩ := htold
    have hnone := List.findSome?_eq_none_iff.1 hfired _ hmem
    simp at hnone
  | some confirmed =>
    obtain ⟨result, hmem, rfl⟩ := mem_of_firedResult hfired
    rw [hconf result hmem]

/-- What a finish relies on at each of its suspension points. -/
def FinishAt (s : Session) (k : ℕ) (txid : TxId) : FinishPc → Prop
  | .fastPath => WrittenOut s.state.sender txid
  | .close => WrittenOut s.state.sender txid ∧ s.state.sender.containsTransaction txid = true
  | .aborting _ => False
  | .parked .. => s.wiring = none
  | .recheck => s.state.sender.containsTransaction txid = true →
    s.state.completions.get? txid = some (.finish k)
  | .awaiting => s.state.sender.containsTransaction txid = true ∧
    s.state.completions.get? txid = some (.finish k) ∨ Told s k
  | .returned result => result = some true
  | .sampleGate _ | .checkWiring .. | .flush .. | .announce | .announceWrite _ | .register
  | .consume => True

/-- The task runs a finish that is where it should be. -/
structure Finishing (s : Session) (k : ℕ) (txid : TxId) (pc : FinishPc) : Prop where
  task : s.tasks.get? k = some (.sinkFinish txid pc)
  stands : FinishAt s k txid pc
  told : ToldConfirmed s k

/-- No ACK releases the copy while the finish is between the fast path and
the close. -/
def ClosesFirst (k : ℕ) (txid : TxId) (s : Session) : Action → Prop
  | .inbound conn frame now outcomes => s.tasks.get? k = some (.sinkFinish txid .close) →
    (s.receive conn frame now outcomes).state.sender.containsTransaction txid =
      s.state.sender.containsTransaction txid
  | _ => True

instance decidableClosesFirst (k : ℕ) (txid : TxId) (s : Session) :
    ∀ a, Decidable (ClosesFirst k txid s a)
  | .inbound _ _ _ _ => inferInstanceAs (Decidable (_ = _ → _ = _))
  | .openBinarySink .. | .sinkResume .. | .start .. | .advance .. | .activity .. | .onBinary
  | .onBinaryStream | .close .. | .seeClosed .. => isTrue trivial

/-- **An ACK beside the finish.** -/
theorem Finishing.ack {pc : FinishPc} {conn : ℕ} {frame : Frame} (h : Finishing s k txid pc)
    (hack : frame.frameType = .ack)
    (hcloses : ClosesFirst k txid s (.inbound conn frame now outcomes)) :
    Finishing (s.receive conn frame now outcomes) k txid pc := by
  obtain ⟨htask, hat, hconf⟩ := h
  obtain ⟨closed, hacked, hpending, htable, hentries⟩ := s.receive_ack conn now outcomes hack
  have hwiring : (s.receive conn frame now outcomes).wiring = s.wiring := by
    unfold receive
    dsimp only
    split <;> rfl
  refine ⟨(s.tasks_receive _ _ _ _ ▸ htask), ?_, fun result hmem => ?_⟩
  · cases pc with
    | fastPath => exact writtenOut_receive_ack hack hat
    | close => exact ⟨writtenOut_receive_ack hack hat.1, (hcloses htask).trans hat.2⟩
    | aborting pc => exact hat
    | parked tail seen => exact hwiring.trans hat
    | recheck =>
      intro hpend
      obtain ⟨hwas, hkept⟩ := (hpending txid).1 hpend
      exact (htable txid hkept).trans (hat hwas)
    | awaiting =>
      rcases hat with ⟨hpend, hget⟩ | ⟨result, hmem⟩
      · by_cases hclosed : txid ∈ closed.map Prod.fst
        · -- the final ACK: the oneshot is in the table and fires
          obtain ⟨c, hc, rfl⟩ := List.mem_map.1 hclosed
          refine .inr ⟨⟨c.1, c.2.confirms⟩, (hentries.mem rfl).2 (.inl ?_)⟩
          rw [List.mem_reverse, settleEntries, if_pos rfl]
          refine List.mem_append_right _
            (List.mem_map.2 ⟨(.finish k, ⟨c.1, c.2.confirms⟩), ?_, rfl⟩)
          exact List.mem_filterMap.2 ⟨c, hc, by rw [hget]; rfl⟩
        · exact .inl ⟨(hpending txid).2 ⟨hpend, hclosed⟩, (htable txid hclosed).trans hget⟩
      · exact .inr ⟨result, (hentries.mem rfl).2 (.inr hmem)⟩
    | returned result => exact hat
    | sampleGate tail | checkWiring tail seen waited | flush conn tail | announce
    | announceWrite conn | register | consume =>
      trivial
  · rcases (hentries.mem rfl).1 hmem with hnew | hold
    · obtain ⟨id, confirmed⟩ := result
      obtain ⟨-, how, hclosed, hconfirms⟩ := mem_fired_settleEntries hnew
      have hhow : how = .acked := hacked _ hclosed
      rw [hhow] at hconfirms
      exact hconfirms.symm
    · exact hconf result hold

theorem ToldConfirmed.of_log (h : ToldConfirmed s k)
    (hlog : ∀ result, Event.fired (.finish k) result ∈ s'.log →
      Event.fired (.finish k) result ∈ s.log) : ToldConfirmed s' k :=
  fun result hmem => h result (hlog result hmem)

/-- A write fires nothing. -/
theorem ToldConfirmed.attempt (h : ToldConfirmed s k) (conn : ℕ) (channel : Channel)
    (frame : Frame) (outcomes : List Bool) (task : Task) :
    ToldConfirmed ((s.attempt conn channel frame outcomes).2.setTask k task) k := by
  refine h.of_log fun result hmem => ?_
  change _ ∈ Event.wrote conn _ :: s.log at hmem
  exact (List.mem_cons.1 hmem).resolve_left (by simp)

/-- A finish whose frames are all in the copy closes. -/
theorem finishTransaction_of_writtenOut {sender : TransactionSender}
    (hwhole : WrittenOut sender txid) (hpend : sender.containsTransaction txid = true) (now : ℕ) :
    ∃ tail sender', sender.finishTransaction txid now = (.ok tail, sender') := by
  obtain ⟨txn, hget⟩ := TransactionSender.containsTransaction_iff.1 hpend
  rw [TransactionSender.finishTransaction_some hget, if_neg (not_not.2 (hwhole txn hget))]
  exact ⟨_, _, rfl⟩

/-- **One stretch of the finish.** -/
theorem Finishing.own {pc : FinishPc} (h : Finishing s k txid pc)
    (hstep : step s (.advance k now outcomes) = some s') : ∃ pc', Finishing s' k txid pc' := by
  obtain ⟨htask, hat, hconf⟩ := h
  rw [step, htask, Option.bind_some, advance] at hstep
  cases pc with
  | fastPath =>
    rw [advanceFinish] at hstep
    split at hstep
    · next hpend =>
      cases hstep
      exact ⟨_, Table.get?_insert_self _ _ _, ⟨hat, hpend⟩, hconf⟩
    · cases hstep
      exact ⟨_, Table.get?_insert_self _ _ _, rfl, hconf⟩
  | close =>
    obtain ⟨tail, sender, hclose⟩ := finishTransaction_of_writtenOut hat.1 hat.2 now
    rw [advanceFinish, hclose] at hstep
    cases hstep
    exact ⟨_, Table.get?_insert_self _ _ _, trivial, hconf⟩
  | aborting pc => exact absurd hat id
  | sampleGate tail =>
    rw [advanceFinish] at hstep
    split at hstep
    · cases hstep
      exact ⟨_, Table.get?_insert_self _ _ _, trivial, hconf⟩
    · cases hstep
      exact ⟨_, Table.get?_insert_self _ _ _, trivial, hconf⟩
  | checkWiring tail seen waited =>
    rw [advanceFinish] at hstep
    split at hstep
    · cases hstep
      exact ⟨_, Table.get?_insert_self _ _ _, trivial, hconf⟩
    · next hnone =>
      split at hstep
      · cases hstep
        exact ⟨_, Table.get?_insert_self _ _ _, trivial, hconf⟩
      · cases hstep
        exact ⟨_, Table.get?_insert_self _ _ _, hnone, hconf⟩
  | parked tail seen =>
    rw [advanceFinish] at hstep
    split at hstep
    · cases hstep
    · cases hstep
      exact ⟨_, Table.get?_insert_self _ _ _, trivial, hconf⟩
  | flush conn tail =>
    cases tail with
    | nil =>
      cases hstep
      exact ⟨_, Table.get?_insert_self _ _ _, trivial, hconf⟩
    | cons frame rest =>
      have htold := hconf.attempt conn .data frame outcomes
      rw [advanceFinish] at hstep
      split at hstep
      · next s₁ hwrote =>
        cases hstep
        rw [hwrote] at htold
        exact ⟨_, Table.get?_insert_self _ _ _, trivial, htold _⟩
      · next s₁ hwrote =>
        cases hstep
        rw [hwrote] at htold
        exact ⟨_, Table.get?_insert_self _ _ _, trivial, htold _⟩
  | announce =>
    rw [advanceFinish] at hstep
    split at hstep
    · cases hstep
      exact ⟨_, Table.get?_insert_self _ _ _, trivial, hconf⟩
    · cases hstep
      exact ⟨_, Table.get?_insert_self _ _ _, trivial, hconf⟩
  | announceWrite conn =>
    cases hstep
    exact ⟨_, Table.get?_insert_self _ _ _, trivial, hconf.attempt conn _ _ _ _⟩
  | register =>
    cases hstep
    refine ⟨_, Table.get?_insert_self _ _ _, fun _ => Table.get?_insert_self _ _ _, ?_⟩
    exact hconf.of_log fun result hmem => (List.mem_cons.1 hmem).resolve_left (by simp)
  | recheck =>
    rw [advanceFinish] at hstep
    split at hstep
    · next hpend =>
      cases hstep
      exact ⟨_, Table.get?_insert_self _ _ _, .inl ⟨hpend, hat hpend⟩, hconf⟩
    · cases hstep
      exact ⟨_, Table.get?_insert_self _ _ _, trivial, hconf⟩
  | consume =>
    cases hstep
    exact ⟨_, Table.get?_insert_self _ _ _, rfl, hconf⟩
  | awaiting =>
    rw [advanceFinish] at hstep
    rcases hat with ⟨hpend, hget⟩ | htold
    · split at hstep
      · next confirmed hfired =>
        cases hstep
        obtain ⟨result, hmem, rfl⟩ := mem_of_firedResult hfired
        exact ⟨_, Table.get?_insert_self _ _ _, congrArg some (hconf result hmem), hconf⟩
      · rw [if_pos hget] at hstep
        cases hstep
    · rw [firedResult_of_told htold hconf] at hstep
      cases hstep
      exact ⟨_, Table.get?_insert_self _ _ _, rfl, hconf⟩
  | returned result => cases hstep

/-! ## Progress -/

/-- The finish waits, on a session without wiring, for the next wake-up. -/
def Parked (s : Session) (pc : FinishPc) : Prop :=
  s.wiring = none ∧ ∃ tail, pc = .parked tail s.watch

/-- **A finish whose copy is gone goes on**: it has returned, it is parked,
or its next stretch is one of the few that are left. -/
theorem Finishing.advances {pc : FinishPc} (h : Finishing s k txid pc)
    (habsent : s.state.sender.containsTransaction txid = false) (now : ℕ)
    (outcomes : List Bool) :
    pc = .returned (some true) ∨ Parked s pc ∨
      ∃ s' pc', step s (.advance k now outcomes) = some s' ∧
        s'.tasks.get? k = some (.sinkFinish txid pc') ∧ pc'.remaining < pc.remaining ∧
        s'.state.sender.containsTransaction txid = false := by
  obtain ⟨htask, hat, hconf⟩ := h
  have hgo : ∀ (s₁ : Session) (pc' : FinishPc),
      s.advanceFinish k txid now outcomes pc = some (s₁.setTask k (.sinkFinish txid pc')) →
      s₁.state.sender = s.state.sender → pc'.remaining < pc.remaining →
      ∃ s' pc', step s (.advance k now outcomes) = some s' ∧
        s'.tasks.get? k = some (.sinkFinish txid pc') ∧ pc'.remaining < pc.remaining ∧
        s'.state.sender.containsTransaction txid = false := by
    intro s₁ pc' hadvance hsender hless
    refine ⟨s₁.setTask k (.sinkFinish txid pc'), pc', ?_, Table.get?_insert_self _ _ _,
      hless, ?_⟩
    · rw [step, htask, Option.bind_some, advance]
      exact hadvance
    · show s₁.state.sender.containsTransaction txid = false
      rw [hsender]
      exact habsent
  have hpresent : ¬ s.state.sender.containsTransaction txid = true := by
    rw [habsent]
    exact Bool.false_ne_true
  cases pc with
  | fastPath => exact .inr (.inr (hgo _ _ (if_neg hpresent) rfl (by decide)))
  | close => exact absurd hat.2 hpresent
  | aborting pc => exact absurd hat id
  | sampleGate tail =>
    have hungated : ¬ s.state.sender.isAwaitingResume txid = true := by
      rw [TransactionSender.isAwaitingResume,
        Option.not_isSome_iff_eq_none.1 (Bool.eq_false_iff.1 habsent)]
      exact Bool.false_ne_true
    exact .inr (.inr (hgo _ _ (if_neg hungated) rfl (by simp only [FinishPc.remaining]; omega)))
  | checkWiring tail seen waited =>
    cases hwiring : s.wiring with
    | some conn =>
      refine .inr (.inr (hgo s (.flush conn tail) ?_ rfl ?_))
      · simp only [advanceFinish, hwiring]
      · cases waited <;> simp only [FinishPc.remaining] <;> omega
    | none =>
      cases waited with
      | true =>
        refine .inr (.inr (hgo s .register ?_ rfl ?_))
        · simp only [advanceFinish, hwiring, if_true]
        · simp only [FinishPc.remaining]
          omega
      | false =>
        refine .inr (.inr (hgo s (.parked tail seen) ?_ rfl ?_))
        · simp only [advanceFinish, hwiring, Bool.false_eq_true, if_false]
        · simp only [FinishPc.remaining]
          omega
  | parked tail seen =>
    by_cases hseen : s.watch = seen
    · exact .inr (.inl ⟨hat, tail, by rw [hseen]⟩)
    · refine .inr (.inr (hgo _ _ (if_neg hseen) rfl ?_))
      simp only [FinishPc.remaining]
      omega
  | flush conn tail =>
    cases tail with
    | nil => exact .inr (.inr (hgo _ _ rfl rfl (Nat.lt_succ_self 5)))
    | cons frame rest =>
      cases hok : outcomes.headD true with
      | true =>
        refine .inr (.inr (hgo (s.record [.wrote conn ⟨.data, frame, true⟩])
          (.flush conn rest) ?_ rfl ?_))
        · simp only [advanceFinish, attempt, hok]
        · simp only [FinishPc.remaining, List.length_cons]
          omega
      | false =>
        refine .inr (.inr (hgo (s.record [.wrote conn ⟨.data, frame, false⟩])
          .register ?_ rfl ?_))
        · simp only [advanceFinish, attempt, hok]
        · simp only [FinishPc.remaining]
          omega
  | announce =>
    cases hwiring : s.wiring with
    | none =>
      refine .inr (.inr (hgo s .register ?_ rfl (by decide)))
      simp only [advanceFinish, hwiring]
    | some conn =>
      refine .inr (.inr (hgo s (.announceWrite conn) ?_ rfl (Nat.lt_succ_self 4)))
      simp only [advanceFinish, hwiring]
  | announceWrite conn => exact .inr (.inr (hgo _ _ rfl rfl (Nat.lt_succ_self 3)))
  | register => exact .inr (.inr (hgo _ _ rfl rfl (by decide)))
  | recheck => exact .inr (.inr (hgo _ _ (if_neg hpresent) rfl (by decide)))
  | consume => exact .inr (.inr (hgo _ _ rfl rfl (by decide)))
  | awaiting =>
    have htold := hat.resolve_left fun h => hpresent h.1
    refine .inr (.inr (hgo s (.returned (some true)) ?_ rfl (by decide)))
    simp only [advanceFinish, firedResult_of_told htold hconf]
  | returned result => exact .inl (congrArg FinishPc.returned hat)

/-- **A finish whose copy is gone returns a confirmation**, whatever the
transport does: its own stretches bring it there, or to where it waits for
the session to be wired. -/
theorem Finishing.returns {pc : FinishPc} (h : Finishing s k txid pc)
    (habsent : s.state.sender.containsTransaction txid = false) (pick : ℕ → ℕ × List Bool) :
    ∃ n s' pc', run step s ((List.range n).map fun i => .advance k (pick i).1 (pick i).2) =
        some s' ∧ s'.tasks.get? k = some (.sinkFinish txid pc') ∧
      (pc' = .returned (some true) ∨ Parked s' pc') := by
  -- by the number of stretches left
  induction hn : pc.remaining using Nat.strong_induction_on generalizing s pc pick with
  | _ m ih =>
    rcases h.advances habsent (pick 0).1 (pick 0).2 with
      hret | hparked | ⟨s₁, pc₁, hstep, hget, hless, hgone⟩
    · exact ⟨0, s, pc, rfl, h.task, .inl hret⟩
    · exact ⟨0, s, pc, rfl, h.task, .inr hparked⟩
    · obtain ⟨pc₂, hnext⟩ := h.own hstep
      have hpc : pc₂ = pc₁ := by
        have hget₂ := hnext.task
        rw [hget, Option.some.injEq] at hget₂
        cases hget₂
        rfl
      subst hpc
      obtain ⟨n, s', pc', hrun, hget', hend⟩ :=
        ih pc₂.remaining (hn ▸ hless) hnext hgone (fun i => pick (i + 1)) rfl
      refine ⟨n + 1, s', pc', ?_, hget', hend⟩
      rw [List.range_succ_eq_map, List.map_cons, List.map_map]
      exact run_cons_eq_some.2 ⟨s₁, hstep, hrun⟩

/-! ## The finish beside the ACKs -/

/-- The action is a stretch of the task, or the handling of an ACK. -/
def OwnOrAck (k : ℕ) : Action → Prop
  | .advance k' _ _ => k' = k
  | .inbound _ frame _ _ => frame.frameType = .ack
  | _ => False

instance decidableOwnOrAck (k : ℕ) : ∀ a, Decidable (OwnOrAck k a)
  | .advance .. | .inbound .. => inferInstanceAs (Decidable (_ = _))
  | .openBinarySink .. | .sinkResume .. | .start .. | .activity .. | .onBinary
  | .onBinaryStream | .close .. | .seeClosed .. => isFalse id

/-- **A finish beside the ACKs of its transaction ends confirmed.** The
declared bytes are all written where the finish starts, nothing but its own
stretches and the handling of ACKs follows, and no ACK releases the copy
between the fast path and the close. Then the finish returns nothing but a
confirmation; and once the copy is released it does return, unless the
session is without wiring, where it waits for the next wake-up. -/
theorem finish_confirms {config : TransferConfig} {start : ℕ} {before : List Action}
    (hbefore : run step (new config start) before = some s₀)
    (hwritten : WrittenOut s₀.state.sender txid)
    (hbeside : ∀ a ∈ acts, OwnOrAck k a)
    (hmeets : RunMeets step (ClosesFirst k txid) s₀ (.start k (.sinkFinish txid) :: acts))
    (hrun : run step s₀ (.start k (.sinkFinish txid) :: acts) = some s) :
    (∀ result, s.tasks.get? k = some (.sinkFinish txid (.returned result)) →
      result = some true) ∧
    (s.state.sender.containsTransaction txid = false → ∀ pick : ℕ → ℕ × List Bool,
      ∃ n s' pc, run step s ((List.range n).map fun i => .advance k (pick i).1 (pick i).2) =
          some s' ∧ s'.tasks.get? k = some (.sinkFinish txid pc) ∧
        (pc = .returned (some true) ∨ Parked s' pc)) := by
  have honeshots : Oneshots s₀ :=
    run_induct (fun _ _ _ hs hstep => hs.step hstep) (Reports.new config start).oneshots hbefore
  obtain ⟨s₁, hs₁, hrest⟩ := run_cons_eq_some.1 hrun
  have hstart : Finishing s₁ k txid .fastPath := by
    rw [step] at hs₁
    split at hs₁
    · cases hs₁
    · next hfresh =>
      cases hs₁
      refine ⟨Table.get?_insert_self _ _ _, hwritten, fun result hmem => ?_⟩
      -- the task is new, so no oneshot of it has been fired
      obtain ⟨t, hget, -⟩ := honeshots.fired result.transactionId k result.confirmed hmem
      refine absurd ?_ hfresh
      rw [Table.contains, hget, Option.isSome_some, Bool.true_or]
  have hfinishing : ∃ pc, Finishing s k txid pc := by
    refine run_induct_of (I := fun t => ∃ pc, Finishing t k txid pc)
      (C := fun t a => OwnOrAck k a ∧ ClosesFirst k txid t a) ?_ ⟨_, hstart⟩
      ((RunMeets.of_mem fun a ha _ => hbeside a ha).and (hmeets.2 s₁ hs₁)) hrest
    rintro t a t' ⟨pc, hpc⟩ ⟨hown, hcloses⟩ hstep
    cases a with
    | advance k' now outcomes =>
      cases hown
      exact hpc.own hstep
    | inbound conn frame now outcomes =>
      rw [step] at hstep
      split at hstep
      · cases hstep
        exact ⟨pc, hpc.ack hown hcloses⟩
      · cases hstep
    | _ => exact absurd hown id
  obtain ⟨pc, hpc⟩ := hfinishing
  refine ⟨fun result hget => ?_, fun habsent pick => hpc.returns habsent pick⟩
  have hget' := hpc.task
  rw [hget, Option.some.injEq] at hget'
  cases hget'
  exact hpc.stands

namespace Sample

/-- A sink of one byte, written out as a frame of its own. -/
def byteWritten : List Action :=
  wireUp 0 0 1 0 ++ [.openBinarySink zeroId 1 0, .start 2 (.sinkWrite zeroId [7])] ++
    List.replicate 5 (.advance 2 0 [])

/-- The ACK that covers the byte. -/
def byteAcked : Action :=
  .inbound 0 (controlFrame .ack ([1] ++ zeroId.toList ++ [0, 0, 0, 0, 0, 0, 0, 1])) 0 []

/-- The session with the byte written. -/
def written : Session :=
  (run step (new { sender := { frameSize := 1 } } 0) byteWritten).getD (new {} 0)

theorem run_byteWritten :
    run step (new { sender := { frameSize := 1 } } 0) byteWritten = some written := by
  have hsome : (run step (new { sender := { frameSize := 1 } } 0) byteWritten).isSome := by
    decide
  obtain ⟨s, hs⟩ := Option.isSome_iff_exists.1 hsome
  rw [written, hs, Option.getD_some]

theorem writtenOut_written : WrittenOut written.state.sender zeroId := by
  have hall : (written.state.sender.pending.get? zeroId).all
      (fun txn => txn.written = txn.totalLen.toNat) = true := by
    decide
  intro txn hget
  rw [hget, Option.all_some] at hall
  exact of_decide_eq_true hall

end Sample

/-- The ACK that comes after the close is met by the recheck. -/
theorem finish_confirms_sample :
    ∃ s, run step Sample.written (.start 3 (.sinkFinish zeroId) ::
        [.advance 3 0 [], .advance 3 0 [], Sample.byteAcked]) = some s ∧
      s.state.sender.containsTransaction zeroId = false ∧
      ∃ n s' pc, run step s ((List.range n).map fun _ => .advance 3 0 []) = some s' ∧
        s'.tasks.get? 3 = some (.sinkFinish zeroId pc) ∧
        (pc = .returned (some true) ∨ Parked s' pc) := by
  obtain ⟨s, hrun, habsent⟩ : ∃ s, run step Sample.written (.start 3 (.sinkFinish zeroId) ::
        [.advance 3 0 [], .advance 3 0 [], Sample.byteAcked]) = some s ∧
      s.state.sender.containsTransaction zeroId = false := by decide
  have hconfirms := finish_confirms Sample.run_byteWritten Sample.writtenOut_written (by decide)
    (by decide) hrun
  exact ⟨_, hrun, habsent, hconfirms.2 habsent fun _ => (0, [])⟩

/-- **Confirmed and failed**: the byte is written, the finish has seen its
copy, and the final ACK releases it before the close. The close finds no
copy, the finish aborts a transaction that is gone and returns an error. -/
theorem confirmed_and_failed :
    ∃ s₀ s, run step (new { sender := { frameSize := 1 } } 0) Sample.byteWritten = some s₀ ∧
      WrittenOut s₀.state.sender zeroId ∧
      run step s₀ [.start 3 (.sinkFinish zeroId), .advance 3 0 [], Sample.byteAcked,
        .advance 3 0 [], .advance 3 0 []] = some s ∧
      .settled zeroId .acked ∈ s.log ∧
      s.tasks.get? 3 = some (.sinkFinish zeroId (.returned none)) := by
  obtain ⟨s, hrun, hacked, hreturned⟩ : ∃ s, run step Sample.written
        [.start 3 (.sinkFinish zeroId), .advance 3 0 [], Sample.byteAcked, .advance 3 0 [],
          .advance 3 0 []] = some s ∧
      .settled zeroId .acked ∈ s.log ∧
      s.tasks.get? 3 = some (.sinkFinish zeroId (.returned none)) := by decide
  exact ⟨_, s, Sample.run_byteWritten, Sample.writtenOut_written, hrun, hacked, hreturned⟩

end Session

end Transfer

end Xacpp
