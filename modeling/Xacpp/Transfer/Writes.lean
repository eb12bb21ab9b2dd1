import Xacpp.Transfer.Handed
/-!
# Data on a connection

Where the data frames on one connection come from. A task binds frames to
the connection it read (`Binds`) and hands them over one by one; the clock,
a `NACK` and a `RESUME_RESPONSE` resend retained frames on the connection
they run on. `step_writes` and `step_binds` are the two inversions; the
rest of a session writes control frames only.
-/

namespace Xacpp

namespace Transfer

open Reliability

/-- The frames a task holds for a connection. -/
def Task.heldFor (conn : ℕ) : Task → List Frame
  | .sinkWrite _ _ (.flush c frames) | .sinkFinish _ (.flush c frames)
  | .sendBinary _ _ _ c (.flush frames) => if c = conn then frames else []
  | _ => []

namespace Session

variable {s s' : Session} {a : Action} {k now conn : ℕ} {outcomes : List Bool} {t t' : Task}
variable {id txid : TxId} {f : Frame}

/-! ## Copies own their frames -/

/-- Every copy is true to some history. -/
def AllHold (s : Session) : Prop :=
  ∀ id txn, s.state.sender.pending.get? id = some txn →
    ∃ framed appended, txn.Holds id txn.totalLen framed appended

theorem AllHold.step (h : AllHold s) (hstep : Session.step s a = some s') : AllHold s' := by
  intro id txn' hget'
  cases step_copies hstep hget' with
  | kept hget hkeeps hgate =>
    obtain ⟨framed, appended, hholds⟩ := h id _ hget
    rw [hkeeps.totalLen]
    exact ⟨framed, appended, hkeeps.holds _ _ _ hholds⟩
  | @framed txn ps hget hframes hheld =>
    obtain ⟨framed, appended, hholds⟩ := h id txn hget
    obtain ⟨appended', hholds'⟩ := hframes.holds framed appended hholds
    rw [hframes.totalLen]
    exact ⟨framed ++ ps, appended', hholds'⟩
  | @opened ps appended hnew hholds hheld => exact ⟨ps, appended, hholds⟩

theorem AllHold.of_run {config : TransferConfig} {start : ℕ} {acts : List Action}
    (hrun : run Session.step (new config start) acts = some s) : AllHold s :=
  run_induct (fun _ _ _ hs hstep => hs.step hstep) (fun id txn hget => by cases hget) hrun

theorem AllHold.ownsFrames (h : AllHold s) : s.state.sender.OwnsFrames := by
  intro id txn hget f hf
  obtain ⟨framed, appended, hholds⟩ := h id txn hget
  obtain ⟨i, p, -, rfl⟩ := hholds.mem hf
  rfl

/-! ## What is written -/

/-- **Where a data write on a connection comes from.** -/
inductive DataWrite (s : Session) (conn : ℕ) (f : Frame) : Action → Prop
  | handed {k now : ℕ} {outcomes : List Bool} {t : Task} (hget : s.tasks.get? k = some t)
      (hheld : f ∈ t.heldFor conn) : DataWrite s conn f (.advance k now outcomes)
  | due {k now : ℕ} {outcomes : List Bool} (hget : s.tasks.get? k = some (.clock conn .idle))
      (hdue : f ∈ (s.state.sender.dueRetransmissions now).1) :
      DataWrite s conn f (.advance k now outcomes)
  | nacked {frame : Frame} {now : ℕ} {outcomes : List Bool} {entries : List NackEntry}
      {entry : NackEntry} (htype : frame.frameType = .nack)
      (hdec : decodeNackPayload frame.payload = .ok entries) (hentry : entry ∈ entries)
      (hid : f.transactionId = entry.transactionId)
      (hpend : s.state.sender.containsTransaction entry.transactionId = true)
      (hlive : ¬ TransactionSender.Halted f.transactionId s.state.sender) :
      DataWrite s conn f (.inbound conn frame now outcomes)
  | resumed {frame : Frame} {now : ℕ} {outcomes : List Bool}
      {entries : List ResumeStatusEntry} (htype : frame.frameType = .resumeResponse)
      (hdec : decodeResumeResponse frame.payload = .ok entries)
      (hmem : ⟨f.transactionId, .resumed⟩ ∈ entries)
      (hlive : ¬ TransactionSender.Halted f.transactionId s.state.sender) :
      DataWrite s conn f (.inbound conn frame now outcomes)

/-- The data writes of some events come from the action. -/
def WritesFrom (s : Session) (a : Action) (events : List Event) : Prop :=
  ∀ conn w, .wrote conn w ∈ events → w.frame.frameType = .dataBinary →
    DataWrite s conn w.frame a

theorem writesFrom_nil (s : Session) (a : Action) : WritesFrom s a [] :=
  fun _ _ hw => absurd hw List.not_mem_nil

/-- A section that writes no data frame but those of a list. -/
theorem WritesFrom.of_writesOnly {st : SessionState} {h : Handling} (frames : List Frame)
    (hw : Handling.WritesOnly (.start st outcomes) h frames)
    (hfrom : ∀ f ∈ frames, DataWrite s conn f a) :
    WritesFrom s a (h.events conn).reverse := by
  intro c w hevent hdata
  obtain ⟨rfl, hmem⟩ := mem_events.1 hevent
  exact hfrom w.frame (hw.mem hmem hdata)

/-- A section that writes no data frame. -/
theorem WritesFrom.of_keepsSend {st : SessionState} {h : Handling}
    (hk : Handling.KeepsSend (.start st outcomes) h) :
    WritesFrom s a (h.events conn).reverse :=
  .of_writesOnly [] (hk.writesOnly []) (List.forall_mem_nil _)

theorem Hands.mem_heldFor {ok : Bool} (h : Hands t conn f ok t') : f ∈ t.heldFor conn := by
  cases h <;> simp [Task.heldFor]

theorem Announces.not_data {ok : Bool} (h : Announces t conn f ok t') :
    f.frameType ≠ .dataBinary := by
  cases h <;> exact fun hdata => by cases hdata

theorem Stretch.writes (hget : s.tasks.get? k = some t) (h : Stretch s k now outcomes t s') :
    ∃ events, s'.log = events ++ s.log ∧ WritesFrom s (.advance k now outcomes) events := by
  obtain ⟨events, hlog, hall⟩ := h.logs
  refine ⟨events, hlog, fun conn w hw hdata => ?_⟩
  cases hall conn w hw with
  | handed hhands => exact .handed hget hhands.mem_heldFor
  | announced hann => exact absurd hdata hann.not_data
  | @declared conn entries w hmem =>
    have hk : Handling.KeepsSend (.start s.state outcomes) _ :=
      Handling.keepsSend_sendResumeFrame entries
    exact absurd ((hk.writesOnly []).mem hmem hdata) List.not_mem_nil
  | ticked htick hmem => exact .due hget ((clockTick_effect htick).writes.mem hmem hdata)

theorem writes_receive (s : Session) (conn : ℕ) (frame : Frame) (now : ℕ) (outcomes : List Bool)
    (hown : s.state.sender.OwnsFrames) :
    ∃ events, (s.receive conn frame now outcomes).log =
        events ++ (Action.inbound conn frame now outcomes).arrival ++ s.log ∧
      WritesFrom s (.inbound conn frame now outcomes) events := by
  refine ⟨_, s.receive_log conn frame now outcomes, ?_⟩
  unfold handleInbound
  by_cases hdata : frame.frameType = .dataBinary
  · simp only [Handling.dispatch, hdata]
    exact .of_keepsSend Handling.keepsSend_onDataFrame
  by_cases hack : frame.frameType = .ack
  · simp only [Handling.dispatch, hack]
    have hport := (Handling.onAckFrame_spec (.start (s.state.touch now) outcomes) frame now).2.2
    exact .of_writesOnly [] (.of_port hport []) (List.forall_mem_nil _)
  by_cases hnack : frame.frameType = .nack
  · simp only [Handling.dispatch, hnack, Handling.onNackFrame]
    cases hdec : decodeNackPayload frame.payload with
    | error e =>
      dsimp only
      exact .of_writesOnly [] (.of_port rfl []) (List.forall_mem_nil _)
    | ok entries =>
      obtain ⟨ws, heq, hall⟩ :=
        Handling.nackLoop_writes (.start (s.state.touch now) outcomes) now entries
      intro c w hevent _
      obtain ⟨rfl, hmem⟩ := mem_events.1 hevent
      rw [heq] at hmem
      obtain ⟨entry, hentry, txn, hget, hcopy, hpaused⟩ := hall w hmem
      have hid := hown _ txn hget _ hcopy
      refine .nacked hnack hdec hentry hid (TransactionSender.containsTransaction_of_get? hget) ?_
      rw [hid]
      exact TransactionSender.not_halted hget hpaused
  by_cases hresp : frame.frameType = .resumeResponse
  · simp only [Handling.dispatch, hresp]
    cases hdec : decodeResumeResponse frame.payload with
    | error e =>
      simp only [Handling.onResumeResponseFrame, hdec]
      exact .of_writesOnly [] (.of_port rfl []) (List.forall_mem_nil _)
    | ok entries =>
      have hspec := Handling.onResumeResponseFrame_spec
        (.start (s.state.touch now) outcomes) now hdec
      refine .of_writesOnly _ hspec.2.2 fun f hf => ?_
      obtain ⟨id, txn, hmem, hget, hcopy⟩ :=
        (s.state.sender.applyResumeVerdicts_adjudicates entries now).retransmit f hf
      refine .resumed hresp hdec (hown id txn hget f hcopy ▸ hmem) fun hhalted => ?_
      exact (hhalted.ne_of_mem_applyVerdictsFrom hown hf).elim List.not_mem_nil fun hne => hne rfl
  · exact .of_keepsSend (Handling.dispatch_quiet _ _ _ now hdata hack hnack hresp).1

/-- **The data writes of a step**: they are newer than the frame it handles. -/
theorem step_writes (hown : s.state.sender.OwnsFrames) (hstep : step s a = some s') :
    ∃ events, s'.log = events ++ a.arrival ++ s.log ∧ WritesFrom s a events := by
  cases step_steps hstep with
  | idle hsame htasks hquiet =>
    refine ⟨[], ?_, writesFrom_nil s a⟩
    rw [hquiet]
    exact congrArg Core.log hsame
  | @opened txid totalLen now sender hopen =>
    refine ⟨[.opened txid], rfl, fun c w hw _ => ?_⟩
    cases List.mem_singleton.1 hw
  | unpaused hpaused | started hfresh hcall => exact ⟨[], rfl, writesFrom_nil s _⟩
  | advanced hget hstretch =>
    obtain ⟨events, hlog, hfrom⟩ := hstretch.writes hget
    exact ⟨events, by rw [hlog, List.append_assoc]; rfl, hfrom⟩
  | received hconn => exact s.writes_receive _ _ _ _ hown
  | sawClosed hget => exact ⟨[], rfl, writesFrom_nil s _⟩

/-! ## What is bound to a connection -/

/-- **How a frame comes to be held for a connection.** -/
inductive Binds (s : Session) (conn : ℕ) (f : Frame) (s' : Session) : Action → Prop
  /-- A `sink_write` framed it; its copy was held and ungated. -/
  | append {k now : ℕ} {outcomes : List Bool} {txid : TxId} {chunk : Bytes} {seen : ℕ}
      {frames : List Frame} {sender : TransactionSender}
      (hget : s.tasks.get? k = some (.sinkWrite txid chunk (.append seen conn)))
      (happend : s.state.sender.appendChunk txid chunk now = (.ok frames, sender))
      (hgate : s.state.sender.isAwaitingResume txid = false) (hf : f ∈ frames) :
      Binds s conn f s' (.advance k now outcomes)
  /-- A `sink_finish` found the session wired to the connection. -/
  | finish {k now : ℕ} {outcomes : List Bool} {txid : TxId} {tail : List Frame} {seen : ℕ}
      {waited : Bool}
      (hget : s.tasks.get? k = some (.sinkFinish txid (.checkWiring tail seen waited)))
      (hwired : s.wiring = some conn) (hf : f ∈ tail) :
      Binds s conn f s' (.advance k now outcomes)
  /-- A `send_binary` opened its transaction. -/
  | send {k now : ℕ} {outcomes : List Bool}
      (hnew : s.state.sender.containsTransaction f.transactionId = false)
      (hopened : s'.state.sender.containsTransaction f.transactionId = true) :
      Binds s conn f s' (.advance k now outcomes)

/-- What the locked section of `send_binary` frames belongs to the
transaction it opens. -/
theorem SendLocked.opens {payload : Bytes} {cb : Bool} {frames : List Frame} {s₁ : Session}
    (h : SendLocked s k txid payload cb now (some frames, s₁)) :
    s.state.sender.containsTransaction txid = false ∧
      s₁.state.sender.containsTransaction txid = true ∧ ∀ f ∈ frames, f.transactionId = txid := by
  cases h with
  | @framed sender sender₁ sender₂ frames tail hopen happend hfinish =>
    obtain ⟨hnew, hpending⟩ := containsTransaction_open hopen
    have hsame := containsTransaction_finish sender₁ txid now txid
    rw [hfinish, containsTransaction_append happend, (hpending txid).2 (.inr rfl)] at hsame
    refine ⟨hnew, by rw [registering_sender]; exact hsame, fun f hf => ?_⟩
    rcases List.mem_append.1 hf with hf | hf
    · obtain ⟨txn, txn₁, ps, -, -, -, -, rfl⟩ := TransactionSender.appendChunk_frames happend
      exact transactionId_of_mem_framesFrom hf
    · obtain ⟨txn, -, rfl, -⟩ := TransactionSender.finishTransaction_ok hfinish
      exact transactionId_of_mem_framesFrom hf

theorem Hands.heldFor_subset {c : ℕ} {g : Frame} {ok : Bool} (h : Hands t c g ok t')
    (hf : f ∈ t'.heldFor conn) : f ∈ t.heldFor conn := by
  cases h with
  | write | finish | send =>
    simp only [Task.heldFor] at hf ⊢
    split at hf
    · next heq =>
      rw [if_pos heq]
      exact List.mem_cons_of_mem _ hf
    · exact absurd hf List.not_mem_nil
  | writeFails | finishFails | sendFails => exact absurd hf List.not_mem_nil

theorem Stretch.binds (hget : s.tasks.get? k = some t) (h : Stretch s k now outcomes t s')
    (hget' : s'.tasks.get? k = some t') (hf : f ∈ t'.heldFor conn) :
    f ∈ t.heldFor conn ∨ Binds s conn f s' (.advance k now outcomes) := by
  cases h with
  | quiet hmoves hsame htasks =>
    cases Table.eq_of_get?_insert htasks hget'
    cases hmoves with
    | finish hmoves =>
      cases hmoves with
      | wired hw =>
        simp only [Task.heldFor] at hf
        split at hf
        · next heq =>
          subst heq
          exact .inr (.finish hget hw hf)
        · exact absurd hf List.not_mem_nil
      | abort hab => cases hab <;> exact absurd hf List.not_mem_nil
      | _ => exact absurd hf List.not_mem_nil
    | write hmoves => cases hmoves <;> exact absurd hf List.not_mem_nil
    | _ => exact absurd hf List.not_mem_nil
  | spawnClock hfresh hsame htasks | stopClock hclock hsame htasks =>
    cases Table.eq_of_get?_insert htasks hget'
    exact absurd hf List.not_mem_nil
  | hand hok hhands =>
    cases Table.eq_of_get?_insert rfl hget'
    exact .inl (hhands.heldFor_subset hf)
  | announce hann =>
    cases Table.eq_of_get?_insert rfl hget'
    cases hann <;> exact absurd hf List.not_mem_nil
  | append hpaused hgate happend =>
    cases Table.eq_of_get?_insert rfl hget'
    simp only [Task.heldFor] at hf
    split at hf
    · next heq =>
      subst heq
      exact .inr (.append hget happend hgate hf)
    · exact absurd hf List.not_mem_nil
  | abort hlock haborts =>
    cases Table.eq_of_get?_insert rfl hget'
    cases haborts <;> exact absurd hf List.not_mem_nil
  | send hlock =>
    cases Table.eq_of_get?_insert rfl hget'
    obtain ⟨hnew, hopened, hall⟩ := (sendLocked_cases hlock).opens
    simp only [Task.heldFor] at hf
    split at hf
    · have hid := hall f hf
      exact .inr (.send (hid ▸ hnew) (hid ▸ hopened))
    · exact absurd hf List.not_mem_nil
  | _ =>
    cases Table.eq_of_get?_insert rfl hget'
    exact absurd hf List.not_mem_nil

/-- **A frame held for a connection was held before, or is bound by the
step.** -/
theorem step_binds (hstep : step s a = some s') (hget' : s'.tasks.get? k = some t')
    (hf : f ∈ t'.heldFor conn) :
    (∃ t, s.tasks.get? k = some t ∧ f ∈ t.heldFor conn) ∨ Binds s conn f s' a := by
  cases step_task hstep hget' with
  | stood hget => exact .inl ⟨t', hget, hf⟩
  | @started call hcall ht =>
    subst ht
    cases call <;> exact absurd hf List.not_mem_nil
  | @advanced now outcomes t hget hstretch =>
    exact (hstretch.binds hget hget' hf).imp_left fun hin => ⟨t, hget, hin⟩
  | clock ht =>
    subst ht
    exact absurd hf List.not_mem_nil

/-! ## What is held -/

/-- **How a frame comes to be held.** -/
inductive Takes (s : Session) (f : Frame) (s' : Session) : Action → Prop
  /-- A `sink_write` framed it; its copy was not paused. -/
  | append {k now : ℕ} {outcomes : List Bool} {txid : TxId} {chunk : Bytes} {seen conn : ℕ}
      {frames : List Frame}
      (hget : s.tasks.get? k = some (.sinkWrite txid chunk (.append seen conn)))
      (hpaused : s.state.sender.isTransactionPaused txid = false)
      (happend : s.state.sender.appendChunk txid chunk now = (.ok frames, s'.state.sender))
      (hf : f ∈ frames) : Takes s f s' (.advance k now outcomes)
  /-- A `sink_finish` closed the sequence, and it is the tail. -/
  | close {k now : ℕ} {outcomes : List Bool} {txid : TxId} {tail : List Frame}
      (hget : s.tasks.get? k = some (.sinkFinish txid .close))
      (hclose : s.state.sender.finishTransaction txid now = (.ok tail, s'.state.sender))
      (hf : f ∈ tail) : Takes s f s' (.advance k now outcomes)
  /-- A `send_binary` opened its transaction and framed it. -/
  | send {k now : ℕ} {outcomes : List Bool} {txid : TxId} {payload : Bytes} {cb : Bool}
      {frames : List Frame} {s₁ : Session}
      (hlock : SendLocked s k txid payload cb now (some frames, s₁))
      (hsender : s'.state.sender = s₁.state.sender) (hf : f ∈ frames) :
      Takes s f s' (.advance k now outcomes)

theorem Stretch.takes (hget : s.tasks.get? k = some t) (h : Stretch s k now outcomes t s')
    (hget' : s'.tasks.get? k = some t') (hf : f ∈ t'.holding) :
    f ∈ t.holding ∨ Takes s f s' (.advance k now outcomes) := by
  cases h with
  | quiet hmoves hsame htasks =>
    cases Table.eq_of_get?_insert htasks hget'
    cases hmoves with
    | finish hmoves =>
      cases hmoves with
      | ungated | wired | park | woken => exact .inl hf
      | abort hab => cases hab <;> exact absurd hf List.not_mem_nil
      | _ => exact absurd hf List.not_mem_nil
    | write hmoves => cases hmoves <;> exact absurd hf List.not_mem_nil
    | _ => exact absurd hf List.not_mem_nil
  | spawnClock hfresh hsame htasks | stopClock hclock hsame htasks =>
    cases Table.eq_of_get?_insert htasks hget'
    exact absurd hf List.not_mem_nil
  | hand hok hhands =>
    cases Table.eq_of_get?_insert rfl hget'
    cases hhands with
    | write | finish | send => exact .inl (List.mem_cons_of_mem _ hf)
    | writeFails | finishFails | sendFails => exact absurd hf List.not_mem_nil
  | announce hann =>
    cases Table.eq_of_get?_insert rfl hget'
    cases hann <;> exact absurd hf List.not_mem_nil
  | append hpaused hgate happend =>
    cases Table.eq_of_get?_insert rfl hget'
    exact .inr (.append hget hpaused happend hf)
  | close hclose =>
    cases Table.eq_of_get?_insert rfl hget'
    exact .inr (.close hget hclose hf)
  | abort hlock haborts =>
    cases Table.eq_of_get?_insert rfl hget'
    cases haborts <;> exact absurd hf List.not_mem_nil
  | send hlock =>
    cases Table.eq_of_get?_insert rfl hget'
    exact .inr (.send (sendLocked_cases hlock) rfl hf)
  | _ =>
    cases Table.eq_of_get?_insert rfl hget'
    exact absurd hf List.not_mem_nil

/-- **A frame a task holds was held before, or is taken by the step.** -/
theorem step_takes (hstep : step s a = some s') (hheld : Held s' f) :
    Held s f ∨ Takes s f s' a := by
  obtain ⟨k, t', hget', hf⟩ := hheld
  cases step_task hstep hget' with
  | stood hget => exact .inl ⟨k, t', hget, hf⟩
  | @started call hcall ht =>
    subst ht
    cases call <;> exact absurd hf List.not_mem_nil
  | @advanced now outcomes t hget hstretch =>
    exact (hstretch.takes hget hget' hf).imp_left fun hin => ⟨k, t, hget, hin⟩
  | clock ht =>
    subst ht
    exact absurd hf List.not_mem_nil

/-- What is held for a connection is held. -/
theorem mem_holding_of_heldFor (hf : f ∈ t.heldFor conn) : f ∈ t.holding := by
  unfold Task.heldFor at hf
  split at hf
  · split at hf
    · exact hf
    · exact absurd hf List.not_mem_nil
  · split at hf
    · exact hf
    · exact absurd hf List.not_mem_nil
  · split at hf
    · exact hf
    · exact absurd hf List.not_mem_nil
  · exact absurd hf List.not_mem_nil

end Session

end Transfer

end Xacpp
