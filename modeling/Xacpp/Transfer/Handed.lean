import Xacpp.Reliability.Descent
import Xacpp.Transfer.Ledger
/-!
# Framed and handed over

A copy counts as fully sent once its declared bytes are framed. A framed
frame is handed to a transport by the task that framed it, later or never:
`sink_finish` gives its tail up where the copy is gated or the session
stays unwired, and every flush gives up what is behind a write that fails.
`step_copies` says what a step frames, `Held.step` what becomes of the
frames a task holds. Where no task gives frames up and no verdict confirms
a transaction some task still holds frames of, a confirmed transaction was
handed over whole.
-/

namespace Xacpp

namespace Transfer

open Reliability

/-- The event hands the frame to a transport write. -/
def Event.hands (f : Frame) : Event → Bool
  | .wrote _ w => decide (w.frame = f)
  | _ => false

/-- Clocks hold no frames. -/
theorem Task.holding_of_call_none {t : Task} (h : t.call? = none) : t.holding = [] := by
  cases t with
  | clock conn pc => rfl
  | _ => cases h

namespace Session

variable {s s' : Session} {a : Action} {k now : ℕ} {outcomes : List Bool} {t : Task}
variable {id txid : TxId} {txn txn' : PendingTxn} {f : Frame}

/-- The frame was handed to a transport write since its transaction was
opened, whether or not the write succeeded. -/
def Handed (log : List Event) (f : Frame) : Prop :=
  ∃ e ∈ sinceOpened f.transactionId log, e.hands f = true

instance (log : List Event) (f : Frame) : Decidable (Handed log f) :=
  inferInstanceAs (Decidable (∃ e ∈ sinceOpened f.transactionId log, e.hands f = true))

/-- A task still holds the frame to hand it over. -/
def Held (s : Session) (f : Frame) : Prop := ∃ k t, s.tasks.get? k = some t ∧ f ∈ t.holding

/-- The frames the task's next stretch gives up: framed, and neither handed
over nor held any longer. -/
def givesUp (s : Session) (outcomes : List Bool) : Task → List Frame
  -- a short write: the tail is framed and the finish fails
  | .sinkFinish txid .close =>
    match s.state.sender.pending.get? txid with
    | none => []
    | some txn =>
      if txn.written ≠ txn.totalLen.toNat then
        framesFrom txid txn.totalLen txn.frames.length (tailOf txn.partialBytes)
      else []
  | .sinkFinish txid (.sampleGate tail) =>
    if s.state.sender.isAwaitingResume txid then tail else []
  | .sinkFinish _ (.checkWiring tail _ true) => if s.wiring = none then tail else []
  | .sinkWrite _ _ (.flush _ (_ :: rest)) | .sinkFinish _ (.flush _ (_ :: rest))
  | .sendBinary _ _ _ _ (.flush (_ :: rest)) => if outcomes.headD true then [] else rest
  | _ => []

/-- The frames the action gives up. -/
def givenUp (s : Session) : Action → List Frame
  | .advance k _ outcomes => (s.tasks.get? k).elim [] (s.givesUp outcomes)
  | _ => []

/-- **Everything framed is flushed**: no task gives frames up, and no verdict
other than `resumed` comes for a transaction that counts as fully sent while
a task holds frames of it. -/
def FlushesAll (s : Session) : Action → Prop
  | .advance k now outcomes => s.givenUp (.advance k now outcomes) = []
  | .inbound _ frame _ _ =>
    frame.frameType = .resumeResponse →
      ∀ entries ∈ (decodeResumeResponse frame.payload).toOption, ∀ entry ∈ entries,
        entry.status ≠ .resumed →
          ∀ txn ∈ s.state.sender.pending.get? entry.transactionId, txn.isFullySent = true →
            ∀ t ∈ s.tasks.values, ∀ f ∈ t.holding, f.transactionId ≠ entry.transactionId
  | _ => True

instance decidableFlushesAll (s : Session) : ∀ a, Decidable (FlushesAll s a)
  | .advance k now outcomes =>
    inferInstanceAs (Decidable (s.givenUp (.advance k now outcomes) = []))
  | .inbound _ frame _ _ => inferInstanceAs (Decidable (frame.frameType = .resumeResponse → _))
  | .openBinarySink .. | .sinkResume .. | .start .. | .activity .. | .onBinary
  | .onBinaryStream | .close .. | .seeClosed .. => isTrue trivial

theorem FlushesAll.not_mem_givenUp (h : FlushesAll s a) : f ∉ s.givenUp a := by
  cases a with
  | advance k now outcomes =>
    rw [h]
    exact List.not_mem_nil
  | _ => exact List.not_mem_nil

/-! ## The history -/

/-- A step that does not open the transaction only adds to its history. -/
theorem Handed.of_enters {entries : List Event} (h : Handed s.log f)
    (hentries : Enters s s' entries) (hnot : .opened f.transactionId ∉ entries) :
    Handed s'.log f := by
  obtain ⟨events, hsince, -⟩ := hentries.sinceOpened hnot
  obtain ⟨e, hmem, hhands⟩ := h
  exact ⟨e, hsince ▸ List.mem_append_right _ hmem, hhands⟩

/-- **What was handed over stays so** while the copy is pending: opening it
anew needs it gone. -/
theorem Handed.step (h : Handed s.log f) (hstep : Session.step s a = some s')
    (hpend : s.state.sender.containsTransaction f.transactionId = true) : Handed s'.log f := by
  have hother : ∀ id, s.state.sender.containsTransaction id = false → f.transactionId ≠ id := by
    rintro id hnew rfl
    rw [hpend] at hnew
    cases hnew
  cases step_ledger hstep with
  | @settled closed taken hnodup hheld hpending htable hsinks hentries htaken hdenied =>
    exact h.of_enters hentries not_mem_settleEntries
  | opened hnew hpending htable hsinks hentries
  | sent haction htask hnew hpending htable hsinks hentries =>
    exact h.of_enters hentries (by simpa using hother _ hnew)
  | registered htask hpending htable hsinks hentries
  | dropped hwhy hpending htable hsinks hentries =>
    exact h.of_enters hentries (by simp)

theorem Handed.of_wrote {conn : ℕ} {channel : Channel} {ok : Bool} {log : List Event} :
    Handed (.wrote conn ⟨channel, f, ok⟩ :: log) f :=
  ⟨_, List.mem_cons_self, decide_eq_true rfl⟩

/-! ## What becomes of held frames -/

/-- The frames a task holds after its stretch: they are held, handed over or
given up. -/
theorem Stretch.holding (h : Stretch s k now outcomes t s') (hf : f ∈ t.holding) :
    (∃ t', s'.tasks.get? k = some t' ∧ f ∈ t'.holding) ∨ Handed s'.log f ∨
      f ∈ s.givesUp outcomes t := by
  have hself : ∀ {t' : Task} {m : Table ℕ Task}, s'.tasks = m.insert k t' → f ∈ t'.holding →
      (∃ t', s'.tasks.get? k = some t' ∧ f ∈ t'.holding) ∨ Handed s'.log f ∨
        f ∈ s.givesUp outcomes t := fun htasks hin =>
    .inl ⟨_, by rw [htasks]; exact Table.get?_insert_self _ _ _, hin⟩
  cases h with
  | quiet hmoves hsame htasks =>
    cases hmoves with
    | finish hmoves =>
      cases hmoves with
      | gated hgate =>
        refine .inr (.inr ?_)
        rw [givesUp, if_pos hgate]
        exact hf
      | ungated hgate | wired hw => exact hself htasks hf
      | giveUp hw =>
        refine .inr (.inr ?_)
        rw [givesUp, if_pos hw]
        exact hf
      | park hw | woken hw => exact hself htasks hf
      | _ => exact absurd hf List.not_mem_nil
    | write hmoves => cases hmoves <;> exact absurd hf List.not_mem_nil
    | _ => exact absurd hf List.not_mem_nil
  | hand hok hhands =>
    -- the head is handed over; what is behind it is kept or given up
    cases hhands with
    | write | finish | send =>
      rcases List.mem_cons.1 hf with rfl | hf
      · exact .inr (.inl .of_wrote)
      · exact hself rfl hf
    | writeFails | finishFails | sendFails =>
      rcases List.mem_cons.1 hf with rfl | hf
      · exact .inr (.inl .of_wrote)
      · refine .inr (.inr ?_)
        rw [givesUp, hok]
        exact hf
  | announce hann => cases hann <;> exact absurd hf List.not_mem_nil
  | abort hlock haborts => cases haborts <;> exact absurd hf List.not_mem_nil
  | _ => exact absurd hf List.not_mem_nil

/-- **What becomes of a held frame.** -/
theorem Held.step (h : Held s f) (hstep : Session.step s a = some s') :
    Held s' f ∨ Handed s'.log f ∨ f ∈ s.givenUp a := by
  obtain ⟨k, t, hget, hf⟩ := h
  have hsame : s'.tasks = s.tasks → Held s' f ∨ Handed s'.log f ∨ f ∈ s.givenUp a := fun heq =>
    .inl ⟨k, t, heq ▸ hget, hf⟩
  cases step_steps hstep with
  | idle hcore htasks => exact hsame htasks
  | opened hopen | unpaused hpaused => exact hsame rfl
  | @started k₁ call hfresh hcall =>
    have hne := Table.ne_of_fresh hget hfresh
    exact .inl ⟨k, t, (Table.get?_insert_of_ne _ _ hne).trans hget, hf⟩
  | @advanced k₁ now outcomes t₁ s' hget₁ hstretch =>
    by_cases hk : k = k₁
    · subst hk
      rw [hget, Option.some.injEq] at hget₁
      subst hget₁
      rcases hstretch.holding hf with ⟨t', hget', hf'⟩ | hhanded | hup
      · exact .inl ⟨k, t', hget', hf'⟩
      · exact .inr (.inl hhanded)
      · refine .inr (.inr ?_)
        rw [givenUp, hget]
        exact hup
    · obtain ⟨t', hts⟩ := hstretch.tasks
      rcases hts.others k hk with heq | ⟨-, hwas⟩
      · exact .inl ⟨k, t, heq.trans hget, hf⟩
      · rw [Task.holding_of_call_none (hwas t hget).1] at hf
        exact absurd hf List.not_mem_nil
  | received hconn => exact hsame (s.tasks_receive _ _ _ _)
  | @sawClosed k₁ conn hclock =>
    have hne : k ≠ k₁ := by
      rintro rfl
      rw [hget, Option.some.injEq] at hclock
      rw [hclock] at hf
      exact absurd hf List.not_mem_nil
    exact .inl ⟨k, t, (Table.get?_insert_of_ne _ _ hne).trans hget, hf⟩

/-! ## What a step frames -/

/-- The action is a response that resumes the transaction. -/
inductive Lifts (id : TxId) : Action → Prop
  | mk {conn : ℕ} {frame : Frame} {now : ℕ} {outcomes : List Bool}
      {entries : List ResumeStatusEntry} (htype : frame.frameType = .resumeResponse)
      (hdec : decodeResumeResponse frame.payload = .ok entries)
      (hmem : ⟨id, .resumed⟩ ∈ entries) : Lifts id (.inbound conn frame now outcomes)

/-- **Where a copy comes from.** -/
inductive CopyStep (s : Session) (a : Action) (s' : Session) (id : TxId) (txn' : PendingTxn) :
    Prop
  | kept {txn : PendingTxn} (hget : s.state.sender.pending.get? id = some txn)
      (hkeeps : PendingTxn.Keeps id txn txn')
      (hgate : txn.awaitingResume = true → txn'.awaitingResume = true ∨ Lifts id a)
  /-- More of it was framed, by the task that holds the frames now. -/
  | framed {txn : PendingTxn} {ps : List Bytes}
      (hget : s.state.sender.pending.get? id = some txn)
      (hframes : PendingTxn.Frames id txn ps txn')
      (hheld : ∀ f ∈ framesFrom id txn.totalLen txn.frames.length ps,
        Held s' f ∨ f ∈ s.givenUp a)
  | opened {ps : List Bytes} {appended : Bytes}
      (hnew : s.state.sender.pending.get? id = none)
      (hholds : txn'.Holds id txn'.totalLen ps appended)
      (hheld : ∀ f ∈ framesFrom id txn'.totalLen 0 ps, Held s' f)

/-- A step whose copies descend from those before. -/
theorem CopyStep.of_descends
    (h : TransactionSender.Descends (Lifts · a) s.state.sender s'.state.sender)
    (hget' : s'.state.sender.pending.get? id = some txn') : CopyStep s a s' id txn' := by
  obtain ⟨txn, hget, hkeeps, hgate⟩ := h id txn' hget'
  exact .kept hget hkeeps hgate

/-- A step that stores one copy leaves the others. -/
theorem CopyStep.of_insert {txn₁ : PendingTxn}
    (hsender : s'.state.sender =
      s.state.sender.withPending (s.state.sender.pending.insert txid txn₁))
    (hget' : s'.state.sender.pending.get? id = some txn')
    (hself : CopyStep s a s' txid txn₁) : CopyStep s a s' id txn' := by
  rw [hsender, TransactionSender.withPending_pending, Table.get?_insert] at hget'
  split at hget'
  · next heq =>
    cases hget'
    exact heq ▸ hself
  · exact .kept hget' (.refl id txn') .inl

/-- An opened copy has framed nothing. -/
theorem holds_of_open {sender sender' : TransactionSender} {total : UInt32}
    (hopen : sender.openTransaction txid total now = (.ok (), sender')) :
    ∃ txn, sender' = sender.withPending (sender.pending.insert txid txn) ∧
      sender.pending.get? txid = none ∧ txn.totalLen = total ∧ txn.frames = [] ∧
      txn.Holds txid txn.totalLen [] [] := by
  obtain ⟨hnone, -, txn, hsender, htotal, hframes, hstates, hpart, hwritten, -⟩ :=
    TransactionSender.openTransaction_ok hopen
  exact ⟨txn, hsender, hnone, htotal, hframes, .opened rfl hframes hstates hpart hwritten⟩

theorem CopyStep.of_open {sender : TransactionSender} {total : UInt32}
    (hopen : s.state.sender.openTransaction txid total now = (.ok (), sender))
    (hsender : s'.state.sender = sender)
    (hget' : s'.state.sender.pending.get? id = some txn') : CopyStep s a s' id txn' := by
  obtain ⟨txn, rfl, hnone, -, -, hholds⟩ := holds_of_open hopen
  exact .of_insert hsender hget'
    (.opened hnone hholds fun f hf => absurd hf List.not_mem_nil)

theorem registering_sender (s : Session) (k : ℕ) (txid : TxId) (cb : Bool) :
    (s.registering k txid cb).state.sender = s.state.sender := by
  cases cb <;> rfl

/-- A `send_binary` opens its copy and frames the whole payload. -/
theorem copies_send {payload : Bytes} {cb : Bool} {r : Option (List Frame) × Session}
    (hlock : SendLocked s k txid payload cb now r) (hsender : s'.state.sender = r.2.state.sender)
    (hheld : ∀ frames, r.1 = some frames → ∀ f ∈ frames, Held s' f)
    (hget' : s'.state.sender.pending.get? id = some txn') : CopyStep s a s' id txn' := by
  cases hlock with
  | refused =>
    rw [show s'.state.sender = s.state.sender from hsender] at hget'
    exact .kept hget' (.refl id txn') .inl
  | stranded hopen => exact .of_open hopen hsender hget'
  | @framed sender sender₁ sender₂ frames tail hopen happend hfinish =>
    obtain ⟨txn, rfl, hnone, -, hframes, hholds⟩ := holds_of_open hopen
    obtain ⟨txn₀, txn₁, ps, hget, rfl, hframes₁, hlength, rfl⟩ :=
      TransactionSender.appendChunk_frames happend
    rw [TransactionSender.get?_withPending_insert, Option.some.injEq] at hget
    subst hget
    obtain ⟨txn₂, hget, rfl, rfl⟩ := TransactionSender.finishTransaction_ok hfinish
    rw [TransactionSender.get?_withPending_insert, Option.some.injEq] at hget
    subst hget
    have hall := hframes₁.trans (TransactionSender.finishTransaction_frames now txn₁)
    obtain ⟨appended, hholds'⟩ := hall.holds [] [] hholds
    rw [← hall.totalLen] at hholds'
    rw [hsender, registering_sender] at hget'
    by_cases hid : id = txid
    · subst hid
      cases (Table.get?_insert_self _ _ _).symm.trans hget'
      refine .opened hnone hholds' fun f hf => hheld _ rfl f ?_
      rw [List.nil_append, hall.totalLen, framesFrom_append, Nat.zero_add] at hf
      rw [hframes₁.totalLen, hlength, hframes, List.length_nil, Nat.zero_add]
      exact hf
    · have hold : s.state.sender.pending.get? id = some txn' :=
        (((Table.get?_insert_of_ne _ _ hid).trans (Table.get?_insert_of_ne _ _ hid)).trans
          (Table.get?_insert_of_ne _ _ hid)).symm.trans hget'
      exact .kept hold (.refl id txn') .inl

theorem CopyStep.of_same (hsame : s'.state.sender = s.state.sender)
    (hget' : s'.state.sender.pending.get? id = some txn') : CopyStep s a s' id txn' :=
  .kept (hsame ▸ hget') (.refl id txn') .inl

/-- A `sink_finish` closes the frame sequence; the tail is held by the
finish, or given up where the write was short. -/
theorem copies_finish (hget : s.tasks.get? k = some (.sinkFinish txid .close))
    {result : Except BeginError (List Frame)} {sender : TransactionSender}
    (hclose : s.state.sender.finishTransaction txid now = (result, sender))
    (hsender : s'.state.sender = sender)
    (hheld : ∀ tail, result = .ok tail → ∀ f ∈ tail, Held s' f)
    (hget' : s'.state.sender.pending.get? id = some txn') :
    CopyStep s (.advance k now outcomes) s' id txn' := by
  cases hpend : s.state.sender.pending.get? txid with
  | none =>
    rw [TransactionSender.finishTransaction_none hpend] at hclose
    cases hclose
    exact .of_same hsender hget'
  | some txn =>
    rw [TransactionSender.finishTransaction_some hpend, Prod.mk.injEq] at hclose
    obtain ⟨hresult, rfl⟩ := hclose
    refine .of_insert hsender hget' (.framed hpend
      (TransactionSender.finishTransaction_frames now txn) fun f hf => ?_)
    split at hresult
    · next hshort =>
      refine .inr ?_
      rw [givenUp, hget, Option.elim_some, givesUp, hpend]
      dsimp only
      rw [if_pos hshort]
      exact hf
    · exact .inl (hheld _ hresult.symm f hf)

/-- The copies a tick leaves descend from those before. -/
theorem descends_tick {config : TransferConfig} {st : SessionState} {dead : Bool} {h : Handling}
    (htick : clockTick config st now outcomes = (dead, h)) (lifted : TxId → Prop) :
    TransactionSender.Descends lifted st.sender h.st.sender := by
  rcases (clockTick_effect htick).sender with heq | ⟨timeoutMs, heq⟩
  · rw [heq]
    exact TransactionSender.descends_dueRetransmissions lifted _ now
  · rw [heq]
    exact (TransactionSender.descends_dueRetransmissions lifted _ now).trans
      (TransactionSender.descends_timedOutDeclarations lifted _ now timeoutMs)

theorem Stretch.copies (hget : s.tasks.get? k = some t) (h : Stretch s k now outcomes t s')
    (hget' : s'.state.sender.pending.get? id = some txn') :
    CopyStep s (.advance k now outcomes) s' id txn' := by
  have hheld : ∀ {t' : Task} {m : Table ℕ Task}, s'.tasks = m.insert k t' →
      ∀ f ∈ t'.holding, Held s' f := fun htasks f hf =>
    ⟨k, _, by rw [htasks]; exact Table.get?_insert_self _ _ _, hf⟩
  cases h with
  | quiet hmoves hsame htasks | spawnClock hfresh hsame htasks | stopClock hclock hsame htasks =>
    exact .of_same (congrArg Core.sender hsame) hget'
  | hand hok hhands | announce hann => exact .of_same rfl hget'
  | append hpaused hgate happend =>
    obtain ⟨txn, txn₁, ps, hpend, rfl, hframes, -, rfl⟩ :=
      TransactionSender.appendChunk_frames happend
    exact .of_insert rfl hget' (.framed hpend hframes fun f hf => .inl (hheld rfl f hf))
  | close hclose =>
    exact copies_finish hget hclose rfl (fun tail heq f hf => by cases heq; exact hheld rfl f hf)
      hget'
  | closeFails hclose => exact copies_finish hget hclose rfl (fun tail heq => by cases heq) hget'
  | @abort txid t t' existed s₁ hlock haborts =>
    have hsender := sender_of_abortLocked hlock
    refine .of_descends ?_ hget'
    rw [show (s₁.setTask k t').state.sender = s₁.state.sender from rfl, hsender]
    exact TransactionSender.descends_erase _ _ _
  | register | consume => exact .of_same rfl hget'
  | @pause txid sender hpause =>
    have hdesc := TransactionSender.descends_setPaused (Lifts · (.advance k now outcomes))
      s.state.sender txid true now
    rw [hpause] at hdesc
    exact .of_descends hdesc hget'
  | send hlock =>
    exact copies_send (sendLocked_cases hlock) rfl
      (fun frames heq f hf => by cases heq; exact hheld rfl f hf) hget'
  | sendFails hlock =>
    exact copies_send (sendLocked_cases hlock) rfl (fun frames heq => by cases heq) hget'
  | arm | snapshot hpc =>
    exact .of_descends (TransactionSender.descends_declarePending _ _ now) hget'
  | @declare conn entries =>
    have hk : Handling.KeepsSend (.start s.state outcomes) _ :=
      Handling.keepsSend_sendResumeFrame entries
    exact .of_same hk.sender hget'
  | tickDead htick | tick htick => exact .of_descends (descends_tick htick _) hget'
  | drain hdrain =>
    have hsame := (drainCompleted_same hdrain).1
    exact .of_same hsame hget'

theorem copies_receive (s : Session) (conn : ℕ) (frame : Frame) (now : ℕ) (outcomes : List Bool)
    (hget' : (s.receive conn frame now outcomes).state.sender.pending.get? id = some txn') :
    CopyStep s (.inbound conn frame now outcomes) (s.receive conn frame now outcomes) id txn' := by
  have key : TransactionSender.Descends (Lifts · (.inbound conn frame now outcomes)) s.state.sender
      (handleInbound s.state frame s.binaryHandler s.streamHandler now outcomes).st.sender →
      CopyStep s (.inbound conn frame now outcomes) (s.receive conn frame now outcomes) id txn' :=
    fun hdesc => .of_descends (by rw [receive_state]; exact hdesc) hget'
  have hsame : Handling.KeepsSend (.start (s.state.touch now) outcomes)
      (handleInbound s.state frame s.binaryHandler s.streamHandler now outcomes) →
      CopyStep s (.inbound conn frame now outcomes) (s.receive conn frame now outcomes) id txn' :=
    fun hk => key (by rw [hk.sender]; exact .refl _ _)
  unfold handleInbound at key hsame
  by_cases hdata : frame.frameType = .dataBinary
  · simp only [Handling.dispatch, hdata] at hsame
    exact hsame Handling.keepsSend_onDataFrame
  by_cases hack : frame.frameType = .ack
  · simp only [Handling.dispatch, hack] at key
    obtain ⟨⟨entries, heq⟩, -⟩ :=
      Handling.onAckFrame_spec (.start (s.state.touch now) outcomes) frame now
    refine key ?_
    rw [heq]
    exact TransactionSender.descends_foldl
      (fun sender entry => TransactionSender.descends_handleAck _ sender entry now) _ entries
  by_cases hnack : frame.frameType = .nack
  · simp only [Handling.dispatch, hnack] at key
    obtain ⟨⟨entries, heq⟩, -⟩ :=
      Handling.onNackFrame_spec (.start (s.state.touch now) outcomes) frame now
    refine key ?_
    rw [heq]
    exact TransactionSender.descends_foldl
      (fun sender entry => TransactionSender.descends_handleNack _ sender _ _ now) _ entries
  by_cases hresp : frame.frameType = .resumeResponse
  · simp only [Handling.dispatch, hresp] at key hsame
    cases hdec : decodeResumeResponse frame.payload with
    | error e =>
      refine hsame ?_
      simp only [Handling.onResumeResponseFrame, hdec]
      exact .refl _
    | ok entries =>
      obtain ⟨heq, -⟩ := Handling.onResumeResponseFrame_spec
        (.start (s.state.touch now) outcomes) now hdec
      refine key ?_
      rw [heq]
      exact (TransactionSender.descends_applyResumeVerdicts _ entries now).mono
        fun id hid => .mk hresp hdec hid
  · exact hsame (Handling.dispatch_quiet _ _ _ now hdata hack hnack hresp).1

/-- **Every step says where its copies come from.** -/
theorem step_copies (hstep : step s a = some s')
    (hget' : s'.state.sender.pending.get? id = some txn') : CopyStep s a s' id txn' := by
  cases step_steps hstep with
  | idle hsame htasks => exact .of_same (congrArg Core.sender hsame) hget'
  | opened hopen => exact .of_open hopen rfl hget'
  | @unpaused txid now sender hpaused =>
    have hdesc := TransactionSender.descends_setPaused (Lifts · (.sinkResume txid now))
      s.state.sender txid false now
    rw [hpaused] at hdesc
    exact .of_descends hdesc hget'
  | started hfresh hcall => exact .of_same rfl hget'
  | advanced hget hstretch => exact hstretch.copies hget hget'
  | received hconn => exact s.copies_receive _ _ _ _ hget'
  | sawClosed hget => exact .of_same rfl hget'

/-! ## Every frame is on its way -/

/-- **Every framed frame was handed over or is held to be.** -/
def Underway (s : Session) : Prop :=
  ∀ id txn, s.state.sender.pending.get? id = some txn → ∃ framed appended,
    txn.Holds id txn.totalLen framed appended ∧
      ∀ i p, framed[i]? = some p →
        Handed s.log (dataFrame id txn.totalLen i p) ∨ Held s (dataFrame id txn.totalLen i p)

theorem mem_framesFrom_of_getElem? (id : TxId) (total : UInt32) (start : ℕ) {i : ℕ}
    {ps : List Bytes} {p : Bytes} (h : ps[i]? = some p) :
    dataFrame id total (start + i) p ∈ framesFrom id total start ps := by
  refine List.mem_of_getElem? (i := i) ?_
  rw [getElem?_framesFrom, h]
  rfl

/-- A frame that was on its way still is. -/
theorem underway_step (hflush : FlushesAll s a) (hstep : step s a = some s')
    (hpend : s.state.sender.containsTransaction f.transactionId = true)
    (h : Handed s.log f ∨ Held s f) : Handed s'.log f ∨ Held s' f := by
  rcases h with hhanded | hheld
  · exact .inl (hhanded.step hstep hpend)
  · rcases hheld.step hstep with hheld | hhanded | hup
    · exact .inr hheld
    · exact .inl hhanded
    · exact absurd hup hflush.not_mem_givenUp

theorem Underway.step (h : Underway s) (hflush : FlushesAll s a)
    (hstep : Session.step s a = some s') : Underway s' := by
  intro id txn' hget'
  cases step_copies hstep hget' with
  | @kept txn hget hkeeps hgate =>
    obtain ⟨framed, appended, hholds, hall⟩ := h id txn hget
    rw [hkeeps.totalLen]
    exact ⟨framed, appended, hkeeps.holds _ _ _ hholds, fun i p hp =>
      underway_step hflush hstep (TransactionSender.containsTransaction_of_get? hget) (hall i p hp)⟩
  | @framed txn ps hget hframes hheld =>
    obtain ⟨framed, appended, hholds, hall⟩ := h id txn hget
    obtain ⟨appended', hholds'⟩ := hframes.holds framed appended hholds
    rw [hframes.totalLen]
    refine ⟨framed ++ ps, appended', hholds', fun i p hp => ?_⟩
    -- the old payloads come first, the new ones are the ones just framed
    rcases Nat.lt_or_ge i framed.length with hi | hi
    · rw [List.getElem?_append_left hi] at hp
      exact underway_step hflush hstep (TransactionSender.containsTransaction_of_get? hget)
        (hall i p hp)
    · rw [List.getElem?_append_right hi] at hp
      have hmem := mem_framesFrom_of_getElem? id txn.totalLen txn.frames.length hp
      rw [hholds.frames_length, Nat.add_sub_cancel' hi] at hmem
      rcases hheld _ (hholds.frames_length ▸ hmem) with hheld | hup
      · exact .inr hheld
      · exact absurd hup hflush.not_mem_givenUp
  | @opened ps appended hnew hholds hheld =>
    refine ⟨ps, appended, hholds, fun i p hp => .inr (hheld _ ?_)⟩
    have hmem := mem_framesFrom_of_getElem? id txn'.totalLen 0 hp
    rw [Nat.zero_add] at hmem
    exact hmem

/-- **What a verdict confirms was handed over.** After a run in which
everything framed is flushed, a response confirms a transaction only if its
copy is framed whole and each of its frames was handed to a transport write
since it was opened. -/
theorem confirmed_was_handed {config : TransferConfig} {start : ℕ} {acts : List Action}
    (hmeets : RunMeets step FlushesAll (new config start) acts)
    (hrun : run step (new config start) acts = some s)
    {conn : ℕ} {frame : Frame} (hflush : FlushesAll s (.inbound conn frame now outcomes))
    (htype : frame.frameType = .resumeResponse) {entries : List ResumeStatusEntry}
    (hdec : decodeResumeResponse frame.payload = .ok entries)
    (hconf : txid ∈ (s.state.sender.applyResumeVerdicts entries now).1.confirmed) :
    ∃ txn framed, s.state.sender.pending.get? txid = some txn ∧
      txn.Holds txid txn.totalLen framed framed.flatten ∧
      framed.flatten.length = txn.totalLen.toNat ∧
      ∀ i p, framed[i]? = some p → Handed s.log (dataFrame txid txn.totalLen i p) := by
  have hunderway : Underway s :=
    run_induct_of (fun _ _ _ hs hf hstep => hs.step hf hstep)
      (fun id txn hget => by cases hget) hmeets hrun
  have hadj := s.state.sender.applyResumeVerdicts_adjudicates entries now
  obtain ⟨txn, hget, hsent⟩ := hadj.confirmed txid hconf
  obtain ⟨entry, hentry, rfl, hstatus⟩ := hadj.named txid (List.mem_append_left _ hconf)
  obtain ⟨framed, appended, hholds, hall⟩ := hunderway _ txn hget
  have hidle := hflush htype entries (by rw [hdec]; rfl) entry hentry hstatus txn hget hsent
  simp only [PendingTxn.isFullySent, Bool.and_eq_true, decide_eq_true_eq,
    List.isEmpty_iff] at hsent
  have hwhole : framed.flatten = appended := by
    rw [← hholds.bytes, hsent.2, List.append_nil]
  subst hwhole
  refine ⟨txn, framed, hget, hholds, by rw [← hholds.written, hsent.1], fun i p hp => ?_⟩
  rcases hall i p hp with hhanded | ⟨k, t, htask, hf⟩
  · exact hhanded
  · have hmem : t ∈ s.tasks.values := Table.mem_values.2 ⟨k, htask⟩
    exact absurd rfl (hidle t hmem _ hf)

namespace Sample

/-- The response to one declaration: unknown. -/
def unknownVerdict : Frame := controlFrame .resumeResponse ([1] ++ zeroId.toList ++ [3])

/-- A sink of one byte is opened and written by task 2, on connection 0. -/
def oneByteSink : List Action :=
  wireUp 0 0 1 0 ++
    [.openBinarySink zeroId 1 0, .start 2 (.sinkWrite zeroId [7]), .advance 2 0 [],
      .advance 2 0 [], .advance 2 0 [], .advance 2 0 []]

/-- What is pending is declared, by task 4. -/
def declared : List Action :=
  [.start 4 .declarePendingSends, .advance 4 0 [], .advance 4 0 [], .advance 4 0 []]

/-- The sink is finished by task 3, which flushes the tail, and declared
afterwards. -/
def flushedThenDeclared : List Action :=
  oneByteSink ++ .start 3 (.sinkFinish zeroId) :: List.replicate 10 (.advance 3 0 []) ++ declared

/-- The sink is declared and then finished: the finish finds it gated. -/
def declaredThenFinished : List Action :=
  oneByteSink ++ declared ++ .start 3 (.sinkFinish zeroId) :: List.replicate 5 (.advance 3 0 [])

end Sample

theorem confirmed_was_handed_sample :
    ∃ s, run step (new {} 0) Sample.flushedThenDeclared = some s ∧
      zeroId ∈ (s.state.sender.applyResumeVerdicts [⟨zeroId, .unknown⟩] 1).1.confirmed ∧
      ∃ txn framed, s.state.sender.pending.get? zeroId = some txn ∧
        txn.Holds zeroId txn.totalLen framed framed.flatten ∧
        framed.flatten.length = txn.totalLen.toNat ∧
        ∀ i p, framed[i]? = some p → Handed s.log (dataFrame zeroId txn.totalLen i p) := by
  obtain ⟨s, hrun, hflush, hconf⟩ :
      ∃ s, run step (new {} 0) Sample.flushedThenDeclared = some s ∧
        FlushesAll s (.inbound 0 Sample.unknownVerdict 1 []) ∧
        zeroId ∈ (s.state.sender.applyResumeVerdicts [⟨zeroId, .unknown⟩] 1).1.confirmed := by
    decide
  exact ⟨_, hrun, hconf, confirmed_was_handed (by decide) hrun hflush rfl (by decide) hconf⟩

/-- **A frame that was never sent is confirmed**: the finish frames the tail
of a gated transaction, holds it back, and the verdict confirms the
transaction. Its only frame was never handed to a transport. -/
theorem confirmed_though_never_sent :
    ∃ s, run step (new {} 0) Sample.declaredThenFinished = some s ∧
      decodeResumeResponse Sample.unknownVerdict.payload = .ok [⟨zeroId, .unknown⟩] ∧
      zeroId ∈ (s.state.sender.applyResumeVerdicts [⟨zeroId, .unknown⟩] 1).1.confirmed ∧
      (s.state.sender.pending.get? zeroId).map PendingTxn.frames =
        some [some (dataFrame zeroId 1 0 [7])] ∧
      ¬ Handed s.log (dataFrame zeroId 1 0 [7]) := by
  decide

end Session

end Transfer

end Xacpp
