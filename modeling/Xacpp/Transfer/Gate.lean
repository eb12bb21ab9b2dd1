import Xacpp.Transfer.Writes
/-!
# The reconnect gate

`wire` spawns the clock, registers the hooks, stores the wiring, and then
arms the gate of every pending send. The clock and the writers that see the
new wiring can run before that, and then data of a pending send goes out on
the new transport before the receiver has ruled on it. Once the gate is
armed the clock and `sink_write` respect it; `NACK` handling does not read
it, and `sink_finish` reads it before it waits for a wiring. A peer may wire
the transport it had, and then a flush loop that was interrupted goes on
with the frames it holds for it. Where none of this happens, the data of a
transaction that was pending when `wire` started follows a `resumed`
verdict on it.
-/

namespace Xacpp

namespace Transfer

open Reliability

/-- The event is a handled response that resumes the transaction. -/
def Event.resumes (id : TxId) : Event → Bool
  | .inbound _ frame => decide (frame.frameType = .resumeResponse) &&
      (decodeResumeResponse frame.payload).toOption.any fun entries =>
        entries.contains ⟨id, .resumed⟩
  | _ => false

/-- The frames the task's next stretch writes on the connection or binds to
it, as far as the gate lets it. -/
def Task.exposes (conn : ℕ) (sender : TransactionSender) (now : ℕ) : Task → List Frame
  | .clock c .idle => if c = conn then (sender.dueRetransmissions now).1 else []
  | .sinkWrite txid chunk (.append _ c) =>
    if c = conn then framesOf (sender.appendChunk txid chunk now).1 else []
  | _ => []

/-- The tail a `sink_finish` takes to whatever wiring it finds. -/
def Task.tail : Task → List Frame
  | .sinkFinish _ (.checkWiring tail _ _) => tail
  | _ => []

namespace Session

variable {s s' : Session} {a : Action} {k c now : ℕ} {outcomes : List Bool} {t : Task}
variable {id : TxId} {txn : PendingTxn} {f : Frame} {held : List TxId}

/-- The `wire` call of task `k` has armed the gate. -/
def armed (s : Session) (k : ℕ) : Bool :=
  match s.tasks.get? k with
  | some (.wire _ _ .recover) | some (.wire _ _ (.returned true)) => true
  | _ => false

/-- The gate was armed, and the transaction is past it. -/
def Cleared (s : Session) (k : ℕ) (id : TxId) : Prop :=
  s.armed k = true ∧ s.state.sender.containsTransaction id = true ∧
    s.state.sender.isAwaitingResume id = false

instance (s : Session) (k : ℕ) (id : TxId) : Decidable (Cleared s k id) :=
  inferInstanceAs (Decidable (_ ∧ _ ∧ _))

/-- **The gate comes first**, for the transactions `held` and the `wire` call
of task `k` on connection `c`. When it is called no task holds frames of
theirs for `c`. Until the gate is armed, no tick on `c` finds a due frame of
theirs and no `sink_write` for `c` frames one; and at any time a `NACK` on
`c` names one that is pending, and a `sink_finish` takes a tail of one to
`c`, only when it is past the gate. -/
def GateFirst (held : List TxId) (k c : ℕ) (s : Session) : Action → Prop
  | .start k' _ => k' = k → ∀ t ∈ s.tasks.values, ∀ f ∈ t.heldFor c, f.transactionId ∉ held
  | .advance k' now _ => ∀ t ∈ s.tasks.get? k',
      (s.armed k = false → ∀ f ∈ t.exposes c s.state.sender now, f.transactionId ∉ held) ∧
      (s.wiring = some c → ∀ f ∈ t.tail, f.transactionId ∈ held → s.Cleared k f.transactionId)
  | .inbound conn frame _ _ =>
    conn = c → frame.frameType = .nack →
      ∀ entries ∈ (decodeNackPayload frame.payload).toOption, ∀ entry ∈ entries,
        entry.transactionId ∈ held →
          s.state.sender.containsTransaction entry.transactionId = true →
            s.Cleared k entry.transactionId
  | _ => True

instance decidableGateFirst (held : List TxId) (k c : ℕ) (s : Session) :
    ∀ a, Decidable (GateFirst held k c s a)
  | .start k' _ => inferInstanceAs (Decidable (k' = k → ∀ t ∈ s.tasks.values,
      ∀ f ∈ t.heldFor c, f.transactionId ∉ held))
  | .advance k' now _ => inferInstanceAs (Decidable (∀ t ∈ s.tasks.get? k',
      (s.armed k = false → ∀ f ∈ t.exposes c s.state.sender now, f.transactionId ∉ held) ∧
      (s.wiring = some c → ∀ f ∈ t.tail, f.transactionId ∈ held → s.Cleared k f.transactionId)))
  | .inbound conn _ _ _ => inferInstanceAs (Decidable (conn = c → _))
  | .openBinarySink .. | .sinkResume .. | .activity .. | .onBinary | .onBinaryStream | .close ..
  | .seeClosed .. => isTrue trivial

/-! ## The history since the call -/

/-- The transaction was resumed in this history, or opened anew. -/
def Lifted (log : List Event) (id : TxId) : Prop :=
  ∃ e ∈ log, e.resumes id = true ∨ e.opens id = true

theorem Lifted.append {log : List Event} (h : Lifted log id) (events : List Event) :
    Lifted (events ++ log) id := by
  obtain ⟨e, he, hlift⟩ := h
  exact ⟨e, List.mem_append_right _ he, hlift⟩

/-- Every data write on `c` for a held transaction comes after a resume of
it, or after it was opened anew. -/
def Obeys (held : List TxId) (c : ℕ) : List Event → Prop
  | [] => True
  | e :: older =>
    (∀ w, e = .wrote c w → w.frame.frameType = .dataBinary → w.frame.transactionId ∈ held →
      Lifted older w.frame.transactionId) ∧ Obeys held c older

theorem Obeys.append {log events : List Event} (h : Obeys held c log)
    (hnew : ∀ w, .wrote c w ∈ events → w.frame.frameType = .dataBinary →
      w.frame.transactionId ∈ held → Lifted log w.frame.transactionId) :
    Obeys held c (events ++ log) := by
  induction events with
  | nil => exact h
  | cons e events ih =>
    refine ⟨fun w hw hdata hid => ?_, ih fun w hw => hnew w (List.mem_cons_of_mem _ hw)⟩
    exact (hnew w (hw ▸ List.mem_cons_self) hdata hid).append events

theorem Obeys.lifted {newer older : List Event} {w : Write}
    (h : Obeys held c (newer ++ .wrote c w :: older)) (hdata : w.frame.frameType = .dataBinary)
    (hid : w.frame.transactionId ∈ held) : Lifted older w.frame.transactionId := by
  induction newer with
  | nil => exact h.1 w rfl hdata hid
  | cons e newer ih => exact ih h.2

/-! ## The gate along a run -/

/-- A gated copy is not past the gate. -/
theorem not_cleared_of_gated (h : s.state.sender.Gated id) : ¬ s.Cleared k id := by
  rintro ⟨-, hpend, hopen⟩
  obtain ⟨txn, hget⟩ := TransactionSender.containsTransaction_iff.1 hpend
  rw [TransactionSender.isAwaitingResume, hget, Option.map_some, Option.getD_some, h txn hget]
    at hopen
  cases hopen

/-- **The gate holds**, with `since` the history since the `wire` call. What
was not lifted since then is bound to no task for `c`, and is gated once
the gate is armed. -/
structure GateHolds (held : List TxId) (k c : ℕ) (since : List Event) (s : Session) : Prop where
  wire : ∃ clock pc, s.tasks.get? k = some (.wire c clock pc)
  copies : AllHold s
  obeys : Obeys held c since
  unbound : ∀ id ∈ held, ¬ Lifted since id → ∀ k' t f, s.tasks.get? k' = some t →
    f ∈ t.heldFor c → f.transactionId ≠ id
  gated : ∀ id ∈ held, ¬ Lifted since id → s.armed k = true →
    s.state.sender.Gated id

theorem wire_step {clock : ℕ} {pc : WirePc} (hstep : step s a = some s')
    (hget : s.tasks.get? k = some (.wire c clock pc)) :
    ∃ pc', s'.tasks.get? k = some (.wire c clock pc') := by
  obtain ⟨t', hget', hcall, -⟩ := tasks_persist hstep hget
  cases t' with
  | wire c' clock' pc' =>
    cases hcall
    exact ⟨pc', hget'⟩
  | _ => cases hcall

/-- **Arming gates every pending send.** -/
theorem armed_step {clock : ℕ} {pc : WirePc} (hstep : step s a = some s')
    (hget : s.tasks.get? k = some (.wire c clock pc)) (hbefore : s.armed k = false)
    (hafter : s'.armed k = true) :
    ∃ now, s'.state.sender = (s.state.sender.declarePending now).2 := by
  have hsame : s'.tasks.get? k = s.tasks.get? k → ∃ now,
      s'.state.sender = (s.state.sender.declarePending now).2 := by
    intro heq
    rw [armed, heq] at hafter
    rw [armed, hafter] at hbefore
    cases hbefore
  cases step_steps hstep with
  | idle hcore htasks => exact hsame (by rw [htasks])
  | opened hopen | unpaused hpaused => exact hsame rfl
  | @started k₁ call hfresh hcall =>
    have hne := Table.ne_of_fresh hget hfresh
    exact hsame (Table.get?_insert_of_ne _ _ hne)
  | @advanced k₁ now outcomes t s' hget₁ hstretch =>
    by_cases hk : k = k₁
    · subst hk
      rw [hget, Option.some.injEq] at hget₁
      subst hget₁
      have hself : ∀ {t₁ : Task} {m : Table ℕ Task}, s'.tasks = m.insert k t₁ →
          s'.tasks.get? k = some t₁ := fun htasks => by
        rw [htasks]
        exact Table.get?_insert_self _ _ _
      cases hstretch with
      | quiet hmoves hcore htasks =>
        cases hmoves with
        | wire hmoves =>
          rw [armed, hself htasks] at hafter
          rw [armed, hget] at hbefore
          cases hmoves with
          | recover => cases hbefore
          | _ => cases hafter
      | spawnClock hfresh hcore htasks =>
        rw [armed, hself htasks] at hafter
        cases hafter
      | arm => exact ⟨now, rfl⟩
      | hand hok hhands => cases hhands
      | announce hann => cases hann
      | abort hlock haborts => cases haborts
    · obtain ⟨t₁, hts⟩ := hstretch.tasks
      rcases hts.others k hk with heq | ⟨-, hwas⟩
      · exact hsame heq
      · cases (hwas _ hget).1
  | received hconn => exact hsame (by rw [tasks_receive])
  | @sawClosed k₁ conn hclock =>
    have hne : k ≠ k₁ := by
      rintro rfl
      rw [hget] at hclock
      cases hclock
    exact hsame (Table.get?_insert_of_ne _ _ hne)

theorem gated_declarePending {sender : TransactionSender}
    (hget : (sender.declarePending now).2.pending.get? id = some txn) :
    txn.awaitingResume = true := by
  rw [TransactionSender.declarePending, TransactionSender.withPending_pending,
    Table.get?_mapValues] at hget
  obtain ⟨txn₀, -, rfl⟩ := Option.map_eq_some_iff.1 hget
  rfl

/-- What `sink_write` frames is not gated. -/
theorem not_gated_of_append {txid : TxId} {chunk : Bytes} {frames : List Frame}
    {sender : TransactionSender}
    (happend : s.state.sender.appendChunk txid chunk now = (.ok frames, sender))
    (hgate : s.state.sender.isAwaitingResume txid = false) (hf : f ∈ frames) :
    ¬ s.state.sender.Gated f.transactionId := by
  intro hgated
  obtain ⟨txn, txn', ps, hget, -, -, -, rfl⟩ := TransactionSender.appendChunk_frames happend
  rw [transactionId_of_mem_framesFrom hf] at hgated
  rw [TransactionSender.isAwaitingResume, hget, Option.map_some, Option.getD_some,
    hgated txn hget] at hgate
  cases hgate

/-- A copy that was not there is opened by the step. -/
theorem opened_of_new (hstep : step s a = some s')
    (hnew : s.state.sender.containsTransaction id = false)
    (hpend : s'.state.sender.containsTransaction id = true) {events : List Event}
    (hlog : s'.log = events ++ s.log) : .opened id ∈ events := by
  -- the entries of the ledger are among the events, and only an opening adds a copy
  have hin : ∀ entries, Enters s s' entries → .opened id ∈ entries → .opened id ∈ events := by
    rintro entries ⟨events', hlog', rfl⟩ hmem
    rw [hlog, List.append_left_inj] at hlog'
    exact hlog' ▸ (List.mem_filter.1 hmem).1
  have hcontra : s.state.sender.containsTransaction id = true → .opened id ∈ events := by
    intro hold
    rw [hnew] at hold
    cases hold
  cases step_ledger hstep with
  | settled hnodup hheld hpending htable hsinks hentries htaken hdenied =>
    exact hcontra ((hpending id).1 hpend).1
  | opened hnew hpending htable hsinks hentries =>
    rcases (hpending id).1 hpend with hold | rfl
    · exact hcontra hold
    · exact hin _ hentries List.mem_cons_self
  | sent haction htask hnew hpending htable hsinks hentries =>
    rcases (hpending id).1 hpend with hold | rfl
    · exact hcontra hold
    · exact hin _ hentries (List.mem_cons_of_mem _ List.mem_cons_self)
  | registered htask hpending htable hsinks hentries =>
    exact hcontra ((hpending id).symm.trans hpend)
  | dropped hwhy hpending htable hsinks hentries => exact hcontra ((hpending id).symm.trans hpend)

theorem Lifts.resumes (h : Lifts id a) : Lifted a.arrival id := by
  obtain ⟨htype, hdec, hmem⟩ := h
  refine ⟨_, List.mem_cons_self, .inl ?_⟩
  simp only [Event.resumes, htype, hdec, decide_true, Bool.true_and]
  exact List.contains_iff_mem.2 hmem

/-- **A data write on the new transport obeys the gate.** -/
theorem GateHolds.lifted_of_write {since : List Event} (h : GateHolds held k c since s)
    (hfirst : GateFirst held k c s a) (hwrite : DataWrite s c f a)
    (hid : f.transactionId ∈ held) : Lifted (a.arrival ++ since) f.transactionId := by
  by_contra hnot
  have hsince : ¬ Lifted since f.transactionId := fun hl => hnot (hl.append _)
  have hgated := h.gated _ hid hsince
  cases hwrite with
  | handed hget hheld => exact h.unbound _ hid hsince _ _ f hget hheld rfl
  | @due k' now outcomes hget hdue =>
    cases harmed : s.armed k with
    | true => exact (hgated harmed).ne_of_mem_dueRetransmissions h.copies.ownsFrames hdue rfl
    | false =>
      have hexposes : f ∈ (Task.clock c .idle).exposes c s.state.sender now := by
        rw [Task.exposes, if_pos rfl]
        exact hdue
      exact (hfirst _ hget).1 harmed f hexposes hid
  | nacked htype hdec hentry hname hpend hlive =>
    have hcleared := hfirst rfl htype _ (by rw [hdec]; rfl) _ hentry (hname ▸ hid) hpend
    rw [← hname] at hcleared
    exact not_cleared_of_gated (hgated hcleared.1) hcleared
  | resumed htype hdec hmem hlive =>
    obtain ⟨e, he, hlift⟩ := (Lifts.mk htype hdec hmem).resumes
    exact hnot ⟨e, List.mem_append_left _ he, hlift⟩

/-- **A frame bound to the new transport obeys the gate.** -/
theorem GateHolds.not_binds {since : List Event} (h : GateHolds held k c since s)
    (hfirst : GateFirst held k c s a) (hbinds : Binds s c f s' a) (hid : f.transactionId ∈ held)
    (hsince : ¬ Lifted since f.transactionId) :
    s.state.sender.containsTransaction f.transactionId = false ∧
      s'.state.sender.containsTransaction f.transactionId = true := by
  have hgated := h.gated _ hid hsince
  cases hbinds with
  | @append k' now outcomes txid chunk seen frames sender hget happend hgate hf =>
    cases harmed : s.armed k with
    | true => exact absurd (hgated harmed) (not_gated_of_append happend hgate hf)
    | false =>
      have hexposes : f ∈ (Task.sinkWrite txid chunk (.append seen c)).exposes c
          s.state.sender now := by
        rw [Task.exposes, if_pos rfl, happend]
        exact hf
      exact absurd hid ((hfirst _ hget).1 harmed f hexposes)
  | finish hget hwired hf =>
    have hcleared := (hfirst _ hget).2 hwired f hf hid
    exact absurd hcleared (not_cleared_of_gated (hgated hcleared.1))
  | send hnew hopened => exact ⟨hnew, hopened⟩

/-- **The gate is kept by every step that lets it come first.** -/
theorem GateHolds.step {since : List Event} (h : GateHolds held k c since s)
    (hfirst : GateFirst held k c s a) (hstep : Session.step s a = some s') :
    ∃ events, s'.log = events ++ s.log ∧ GateHolds held k c (events ++ since) s' := by
  obtain ⟨clock, pc, hwire⟩ := h.wire
  obtain ⟨pc', hwire'⟩ := wire_step hstep hwire
  obtain ⟨events, hlog, hfrom⟩ := step_writes h.copies.ownsFrames hstep
  have hopened : ∀ id, s.state.sender.containsTransaction id = false →
      s'.state.sender.containsTransaction id = true →
      Lifted (events ++ a.arrival ++ since) id := fun id hnew hpend =>
    ⟨_, List.mem_append_left _ (opened_of_new hstep hnew hpend hlog), .inr (decide_eq_true rfl)⟩
  have harrival : Obeys held c (a.arrival ++ since) := by
    refine h.obeys.append fun w hw => ?_
    cases a with
    | inbound conn frame now outcomes => cases List.mem_singleton.1 hw
    | _ => exact absurd hw List.not_mem_nil
  refine ⟨events ++ a.arrival, hlog, ⟨clock, pc', hwire'⟩, h.copies.step hstep, ?_, ?_, ?_⟩
  · rw [List.append_assoc]
    exact harrival.append fun w hw hdata hid =>
      h.lifted_of_write hfirst (hfrom c w hw hdata) hid
  · rintro id hid hnot k' t' f hget' hf rfl
    have hsince : ¬ Lifted since f.transactionId := fun hl => hnot (hl.append _)
    rcases step_binds hstep hget' hf with ⟨t, hget, hf⟩ | hbinds
    · exact h.unbound _ hid hsince k' t f hget hf rfl
    · obtain ⟨hnew, hpend⟩ := h.not_binds hfirst hbinds hid hsince
      exact hnot (hopened _ hnew hpend)
  · intro id hid hnot harmed' txn' hget'
    have hsince : ¬ Lifted since id := fun hl => hnot (hl.append _)
    cases harmed : s.armed k with
    | false =>
      obtain ⟨now, hsender⟩ := armed_step hstep hwire harmed harmed'
      exact gated_declarePending (hsender ▸ hget')
    | true =>
      have hgated := h.gated id hid hsince harmed
      cases step_copies hstep hget' with
      | @kept txn hget hkeeps hgate =>
        rcases hgate (hgated txn hget) with hgate | hlifts
        · exact hgate
        · obtain ⟨e, he, hlift⟩ := hlifts.resumes
          exact absurd ⟨e, List.mem_append_left _ (List.mem_append_right _ he), hlift⟩ hnot
      | @framed txn ps hget hframes hheld => exact hframes.gate.trans (hgated txn hget)
      | opened hnew hholds hheld =>
        refine absurd (hopened id ?_ (TransactionSender.containsTransaction_of_get? hget')) hnot
        rw [TransactionSender.containsTransaction, Table.contains, hnew]
        rfl

/-- The call itself comes before everything. -/
theorem gateHolds_start {clock : ℕ} (hs : AllHold s)
    (hfirst : GateFirst held k c s (.start k (.wire c clock)))
    (hcall : step s (.start k (.wire c clock)) = some s') :
    s'.log = s.log ∧ GateHolds held k c [] s' := by
  have hs' : s' = s.setTask k (.wire c clock .check) := by
    simp only [step] at hcall
    split at hcall
    · cases hcall
    · cases hcall
      rfl
  have hself : s'.tasks.get? k = some (.wire c clock .check) := by
    rw [hs']
    exact Table.get?_insert_self _ _ _
  refine ⟨by rw [hs']; rfl, ⟨clock, .check, hself⟩, hs.step hcall, trivial, ?_, ?_⟩
  · rintro id hid - k' t f hget hf rfl
    rcases step_binds hcall hget hf with ⟨t₀, hget₀, hf₀⟩ | hbinds
    · have hmem : t₀ ∈ s.tasks.values := Table.mem_values.2 ⟨k', hget₀⟩
      exact hfirst rfl t₀ hmem f hf₀ hid
    · cases hbinds
  · intro id _ _ harmed
    rw [armed, hself] at harmed
    cases harmed

theorem GateHolds.run {acts : List Action} (h : GateHolds held k c [] s)
    (hmeets : RunMeets Session.step (GateFirst held k c) s acts)
    (hrun : Xacpp.run Session.step s acts = some s') :
    ∃ since, s'.log = since ++ s.log ∧ GateHolds held k c since s' := by
  refine run_induct_of (I := fun t => ∃ since, t.log = since ++ s.log ∧
    GateHolds held k c since t) ?_ ⟨[], rfl, h⟩ hmeets hrun
  rintro t a t' ⟨since, hlog, hholds⟩ hfirst hstep
  obtain ⟨events, hlog', hholds'⟩ := hholds.step hfirst hstep
  exact ⟨events ++ since, by rw [hlog', hlog, List.append_assoc], hholds'⟩

/-- **No data before the verdict.** `s₀` is any state a session reaches. In
every run from the `wire` call there in which the gate comes first, a data
frame written to the transport for a transaction that was pending at the
call, and was not opened anew since, comes after a handled response that
resumes it. -/
theorem data_follows_resume {config : TransferConfig} {start clock : ℕ} {acts₀ acts : List Action}
    {s₀ : Session} (hrun₀ : run step (new config start) acts₀ = some s₀)
    (hmeets : RunMeets step (GateFirst s₀.state.sender.pending.keys k c) s₀
      (.start k (.wire c clock) :: acts))
    (hrun : run step s₀ (.start k (.wire c clock) :: acts) = some s)
    {newer older : List Event} {w : Write}
    (hlog : s.log = newer ++ .wrote c w :: (older ++ s₀.log))
    (hdata : w.frame.frameType = .dataBinary)
    (hpend : s₀.state.sender.containsTransaction w.frame.transactionId = true)
    (hopened : .opened w.frame.transactionId ∉ older) :
    ∃ e ∈ older, e.resumes w.frame.transactionId = true := by
  obtain ⟨s₁, hcall, hrun⟩ := run_cons_eq_some.1 hrun
  obtain ⟨hfirst, hmeets⟩ := hmeets
  obtain ⟨hlog₁, hstart⟩ := gateHolds_start (AllHold.of_run hrun₀) hfirst hcall
  obtain ⟨since, hsince, hholds⟩ := hstart.run (hmeets s₁ hcall) hrun
  have hsplit : since = newer ++ .wrote c w :: older := by
    rw [hlog, hlog₁, ← List.cons_append, ← List.append_assoc] at hsince
    exact (List.append_cancel_right hsince).symm
  have hid : w.frame.transactionId ∈ s₀.state.sender.pending.keys :=
    Table.mem_keys_iff.2 (TransactionSender.containsTransaction_iff.1 hpend)
  obtain ⟨e, he, hlift⟩ := (hsplit ▸ hholds.obeys).lifted hdata hid
  rcases hlift with hresumes | hopens
  · exact ⟨e, he, hresumes⟩
  · cases e with
    | opened id =>
      have heq : id = w.frame.transactionId := of_decide_eq_true hopens
      exact absurd (heq ▸ he) hopened
    | _ => cases hopens

namespace Sample

/-- A payload of one byte was sent on connection 0, which is gone; the copy
is pending. -/
def disconnected : List Action :=
  wireUp 0 0 1 0 ++ .start 2 (.sendBinary zeroId [7] false 0) ::
    (List.replicate 4 (.advance 2 0 []) ++ .start 3 .unwire :: List.replicate 4 (.advance 3 0 []))

/-- Task 4 wires connection 1 without interruption, its clock ticks, and the
peer answers the declaration of task 6 with `Resumed`. -/
def resumed : List Action :=
  .start 4 (.wire 1 5) :: List.replicate 7 (.advance 4 3000 []) ++
    [.advance 5 3000 [], .start 6 .declarePendingSends, .advance 6 3000 [], .advance 6 3000 [],
      .advance 6 3000 [], .inbound 1 (controlFrame .resumeResponse ([1] ++ zeroId.toList ++ [1]))
        3000 []]

/-- The session when `wire` is called. -/
def atCall : Session := (run step (new {} 0) disconnected).getD (new {} 0)

/-- What happens from the call to the resend. -/
def afterCall : List Event :=
  [.inbound 1 (controlFrame .resumeResponse ([1] ++ zeroId.toList ++ [1])),
    .wrote 1 ⟨.control, controlFrame .resume
      ([1] ++ zeroId.toList ++ [0, 0, 0, 0, 0, 0, 0, 1]), true⟩]

/-- The clock of connection 1 ticks as soon as it is spawned. -/
def tickedEarly : List Action := List.replicate 3 (.advance 4 3000 []) ++ [.advance 5 3000 []]

end Sample

theorem data_follows_resume_sample :
    ∃ s older, run step Sample.atCall Sample.resumed = some s ∧
      s.log = .wrote 1 ⟨.data, dataFrame zeroId 1 0 [7], true⟩ :: (older ++ Sample.atCall.log) ∧
      ∃ e ∈ older, Event.resumes zeroId e = true := by
  have hrun₀ : run step (new {} 0) Sample.disconnected = some Sample.atCall :=
    Option.eq_some_iff_get_eq.2 ⟨by decide, rfl⟩
  obtain ⟨s, hrun, hlog⟩ : ∃ s, run step Sample.atCall Sample.resumed = some s ∧
      s.log = [] ++ .wrote 1 ⟨.data, dataFrame zeroId 1 0 [7], true⟩ ::
        (Sample.afterCall ++ Sample.atCall.log) := by decide
  exact ⟨_, Sample.afterCall, hrun, hlog,
    data_follows_resume hrun₀ (by decide) hrun hlog rfl (by decide) (by decide)⟩

/-- **The first tick comes before the gate**: the clock finds the pending
frame overdue and writes it to the new transport. No response was handled
at all. -/
theorem data_before_gate :
    ∃ s, run step (new {} 0) Sample.disconnected = some Sample.atCall ∧
      run step Sample.atCall (.start 4 (.wire 1 5) :: Sample.tickedEarly) = some s ∧
      Sample.atCall.state.sender.containsTransaction zeroId = true ∧
      .wrote 1 ⟨.data, dataFrame zeroId 1 0 [7], true⟩ ∈ s.log ∧
      ∀ e ∈ s.log, Event.resumes zeroId e = false := by
  have hrun₀ : run step (new {} 0) Sample.disconnected = some Sample.atCall :=
    Option.eq_some_iff_get_eq.2 ⟨by decide, rfl⟩
  rw [exists_and_left]
  exact ⟨hrun₀, by decide⟩

end Session

end Transfer

end Xacpp
