import Xacpp.Transfer.Writes
/-!
# What a session asks of its sender

A session touches its sender only by the sender's own calls. `Asks` says
which call a step may make and on whose behalf; `step_asks` that the sender
after a step is the sender before it under such calls. What holds of every
sender under any calls so holds of the sender of every session that is
reached (`sender_of_run`), and a flag moves only in the steps that ask for
it.
-/

namespace Xacpp

namespace Transfer

open Reliability

/-- The next stretch of the task gates every pending transaction. -/
def Task.gates : Task → Bool
  | .wire _ _ .arm | .declarePendingSends (.snapshot _) => true
  | _ => false

namespace Session

variable {s s' : Session} {a : Action} {k now : ℕ} {outcomes : List Bool} {t : Task}
variable {id txid : TxId} {calls calls' : List (SenderCall × ℕ)}

/-- **The calls of a step.** -/
inductive Asks (s : Session) : Action → SenderCall → Prop
  | openSink {txid : TxId} {total : UInt32} {now : ℕ}
      (hnew : s.state.sender.containsTransaction txid = false) :
      Asks s (.openBinarySink txid total now) (.openTransaction txid total)
  | resume {txid : TxId} {now : ℕ} : Asks s (.sinkResume txid now) (.setPaused txid false)
  | append {k now : ℕ} {outcomes : List Bool} {txid : TxId} {chunk : Bytes} {seen conn : ℕ}
      (hget : s.tasks.get? k = some (.sinkWrite txid chunk (.append seen conn))) :
      Asks s (.advance k now outcomes) (.appendChunk txid chunk)
  | finish {k now : ℕ} {outcomes : List Bool} {txid : TxId}
      (hget : s.tasks.get? k = some (.sinkFinish txid .close)) :
      Asks s (.advance k now outcomes) (.finishTransaction txid)
  | abort {k now : ℕ} {outcomes : List Bool} {txid : TxId} {t t' : Task} {existed : Bool}
      (hget : s.tasks.get? k = some t) (haborts : Aborts txid t existed t') :
      Asks s (.advance k now outcomes) (.abortTransaction txid)
  | pause {k now : ℕ} {outcomes : List Bool} {txid : TxId}
      (hget : s.tasks.get? k = some (.sinkPause txid .lock)) :
      Asks s (.advance k now outcomes) (.setPaused txid true)
  /-- The locked section of `send_binary` makes three calls. -/
  | sendOpen {k now : ℕ} {outcomes : List Bool} {txid : TxId} {payload : Bytes} {cb : Bool}
      {conn : ℕ} (hget : s.tasks.get? k = some (.sendBinary txid payload cb conn .lock))
      (hnew : s.state.sender.containsTransaction txid = false) :
      Asks s (.advance k now outcomes) (.openTransaction txid (UInt32.ofNat payload.length))
  | sendAppend {k now : ℕ} {outcomes : List Bool} {txid : TxId} {payload : Bytes} {cb : Bool}
      {conn : ℕ} (hget : s.tasks.get? k = some (.sendBinary txid payload cb conn .lock)) :
      Asks s (.advance k now outcomes) (.appendChunk txid payload)
  | sendFinish {k now : ℕ} {outcomes : List Bool} {txid : TxId} {payload : Bytes} {cb : Bool}
      {conn : ℕ} (hget : s.tasks.get? k = some (.sendBinary txid payload cb conn .lock)) :
      Asks s (.advance k now outcomes) (.finishTransaction txid)
  | arm {k now : ℕ} {outcomes : List Bool} {conn clock : ℕ}
      (hget : s.tasks.get? k = some (.wire conn clock .arm)) :
      Asks s (.advance k now outcomes) .declarePending
  | snapshot {k now : ℕ} {outcomes : List Bool} {conn : ℕ}
      (hget : s.tasks.get? k = some (.declarePendingSends (.snapshot conn))) :
      Asks s (.advance k now outcomes) .declarePending
  | due {k now : ℕ} {outcomes : List Bool} {conn : ℕ}
      (hget : s.tasks.get? k = some (.clock conn .idle)) :
      Asks s (.advance k now outcomes) .dueRetransmissions
  | timedOut {k now : ℕ} {outcomes : List Bool} {conn timeoutMs : ℕ}
      (hget : s.tasks.get? k = some (.clock conn .idle)) :
      Asks s (.advance k now outcomes) (.timedOutDeclarations timeoutMs)
  | ack {conn : ℕ} {frame : Frame} {now : ℕ} {outcomes : List Bool} {entry : AckEntry}
      (htype : frame.frameType = .ack) :
      Asks s (.inbound conn frame now outcomes) (.handleAck entry)
  | nack {conn : ℕ} {frame : Frame} {now : ℕ} {outcomes : List Bool} {txid : TxId}
      {seqs : List UInt32} (htype : frame.frameType = .nack) :
      Asks s (.inbound conn frame now outcomes) (.handleNack txid seqs)
  | verdicts {conn : ℕ} {frame : Frame} {now : ℕ} {outcomes : List Bool}
      {entries : List ResumeStatusEntry} (htype : frame.frameType = .resumeResponse)
      (hdec : decodeResumeResponse frame.payload = .ok entries) :
      Asks s (.inbound conn frame now outcomes) (.applyResumeVerdicts entries)

/-- The sender is the one before, under calls the step may make. -/
def Asked (s : Session) (a : Action) (sender : TransactionSender) : Prop :=
  ∃ calls, run TransactionSender.step s.state.sender calls = some sender ∧
    ∀ c ∈ calls, Asks s a c.1

namespace Asked

variable {sender sender' : TransactionSender} {c : SenderCall}

theorem none : Asked s a s.state.sender := ⟨[], rfl, List.forall_mem_nil _⟩

theorem of_eq (h : sender = s.state.sender) : Asked s a sender := h ▸ none

theorem snoc (h : Asked s a sender) (hc : Asks s a c) (now : ℕ)
    (happly : (c.apply sender now).2 = sender') : Asked s a sender' := by
  obtain ⟨calls, hrun, hall⟩ := h
  refine ⟨calls ++ [(c, now)], run_snoc hrun (congrArg some happly), fun b hb => ?_⟩
  rcases List.mem_append.1 hb with hb | hb
  · exact hall b hb
  · cases List.mem_singleton.1 hb
    exact hc

theorem one (hc : Asks s a c) (now : ℕ) (happly : (c.apply s.state.sender now).2 = sender) :
    Asked s a sender :=
  none.snoc hc now happly

/-- One call for each entry of a list. -/
theorem foldl {α : Type*} {c : α → SenderCall} (hc : ∀ x, Asks s a (c x)) (now : ℕ)
    (h : Asked s a sender) (l : List α) :
    Asked s a (l.foldl (fun sender x => ((c x).apply sender now).2) sender) := by
  induction l generalizing sender with
  | nil => exact h
  | cons x l ih => exact ih (h.snoc (hc x) now rfl)

end Asked

/-- The locked section of `send_binary`: three calls, the first of which may
be all there is. -/
theorem asked_send {payload : Bytes} {cb : Bool} {conn : ℕ} {r : Option (List Frame) × Session}
    (hget : s.tasks.get? k = some (.sendBinary txid payload cb conn .lock))
    (hlock : SendLocked s k txid payload cb now r) :
    Asked s (.advance k now outcomes) r.2.state.sender := by
  cases hlock with
  | refused => exact .none
  | stranded hopen =>
    exact .one (.sendOpen hget (containsTransaction_open hopen).1) now (congrArg Prod.snd hopen)
  | @framed sender sender₁ sender₂ frames tail hopen happend hfinish =>
    rw [registering_sender]
    have hopened : Asked s (.advance k now outcomes) sender :=
      .one (.sendOpen hget (containsTransaction_open hopen).1) now (congrArg Prod.snd hopen)
    have happended : Asked s (.advance k now outcomes) sender₁ :=
      hopened.snoc (.sendAppend hget) now (congrArg Prod.snd happend)
    exact happended.snoc (.sendFinish hget) now (congrArg Prod.snd hfinish)

theorem asked_tick {conn : ℕ} {dead : Bool} {h : Handling}
    (hget : s.tasks.get? k = some (.clock conn .idle))
    (htick : clockTick s.config s.state now outcomes = (dead, h)) :
    Asked s (.advance k now outcomes) h.st.sender := by
  have hdue : Asked s (.advance k now outcomes) (s.state.sender.dueRetransmissions now).2 :=
    .one (.due hget) now rfl
  rcases (clockTick_effect htick).sender with heq | ⟨timeoutMs, heq⟩
  · rw [heq]
    exact hdue
  · rw [heq]
    exact hdue.snoc (.timedOut hget) now rfl

theorem Stretch.asked (hget : s.tasks.get? k = some t) (h : Stretch s k now outcomes t s') :
    Asked s (.advance k now outcomes) s'.state.sender := by
  cases h with
  | quiet hmoves hsame htasks | spawnClock hfresh hsame htasks | stopClock hclock hsame htasks =>
    exact .of_eq (congrArg Core.sender hsame)
  | append hpaused hgate happend => exact .one (.append hget) now (congrArg Prod.snd happend)
  | close hclose | closeFails hclose => exact .one (.finish hget) now (congrArg Prod.snd hclose)
  | @abort txid t t' existed s₁ hlock haborts =>
    exact .one (.abort hget haborts) now (sender_of_abortLocked hlock).symm
  | pause hpause => exact .one (.pause hget) now (congrArg Prod.snd hpause)
  | send hlock | sendFails hlock => exact asked_send hget (sendLocked_cases hlock)
  | arm => exact .one (.arm hget) now rfl
  | snapshot hpc => exact .one (.snapshot hget) now rfl
  | @declare conn entries =>
    have hk : Handling.KeepsSend (.start s.state outcomes) _ :=
      Handling.keepsSend_sendResumeFrame entries
    exact .of_eq hk.sender
  | tickDead htick | tick htick => exact asked_tick hget htick
  | drain hdrain => exact .of_eq (drainCompleted_same hdrain).1
  | hand hok hhands | announce hann | register | consume => exact .none

theorem asked_receive (s : Session) (conn : ℕ) (frame : Frame) (now : ℕ) (outcomes : List Bool) :
    Asked s (.inbound conn frame now outcomes)
      (s.receive conn frame now outcomes).state.sender := by
  rw [receive_state]
  have hsame : ∀ {h : Handling}, Handling.KeepsSend (.start (s.state.touch now) outcomes) h →
      Asked s (.inbound conn frame now outcomes) h.st.sender := fun hk => .of_eq hk.sender
  unfold handleInbound
  by_cases hdata : frame.frameType = .dataBinary
  · simp only [Handling.dispatch, hdata]
    exact hsame Handling.keepsSend_onDataFrame
  by_cases hack : frame.frameType = .ack
  · simp only [Handling.dispatch, hack]
    obtain ⟨⟨entries, heq⟩, -⟩ :=
      Handling.onAckFrame_spec (.start (s.state.touch now) outcomes) frame now
    rw [heq]
    exact Asked.none.foldl (fun _ => .ack hack) now entries
  by_cases hnack : frame.frameType = .nack
  · simp only [Handling.dispatch, hnack]
    obtain ⟨⟨entries, heq⟩, -⟩ :=
      Handling.onNackFrame_spec (.start (s.state.touch now) outcomes) frame now
    rw [heq]
    exact Asked.none.foldl (fun _ => .nack hnack) now entries
  by_cases hresp : frame.frameType = .resumeResponse
  · simp only [Handling.dispatch, hresp]
    cases hdec : decodeResumeResponse frame.payload with
    | error e =>
      simp only [Handling.onResumeResponseFrame, hdec]
      exact .none
    | ok entries =>
      rw [(Handling.onResumeResponseFrame_spec (.start (s.state.touch now) outcomes) now hdec).1]
      exact .one (.verdicts hresp hdec) now rfl
  · exact hsame (Handling.dispatch_quiet _ _ _ now hdata hack hnack hresp).1

/-- **Every step asks its sender.** -/
theorem step_asks (hstep : step s a = some s') : Asked s a s'.state.sender := by
  cases step_steps hstep with
  | idle hsame htasks => exact .of_eq (congrArg Core.sender hsame)
  | opened hopen =>
    exact .one (.openSink (containsTransaction_open hopen).1) _ (congrArg Prod.snd hopen)
  | unpaused hpaused => exact .one .resume _ (congrArg Prod.snd hpaused)
  | started hfresh hcall => exact .none
  | advanced hget hstretch => exact hstretch.asked hget
  | received hconn => exact s.asked_receive _ _ _ _
  | sawClosed hget => exact .none

/-- **The sender of a session that is reached** is reached by calls. -/
theorem sender_of_run {config : TransferConfig} {start : ℕ} {acts : List Action}
    (hrun : run step (new config start) acts = some s) :
    ∃ calls, run TransactionSender.step (.new config.sender) calls = some s.state.sender := by
  refine run_induct (I := fun s : Session => ∃ calls,
    run TransactionSender.step (.new config.sender) calls = some s.state.sender) ?_ ⟨[], rfl⟩ hrun
  rintro t a t' ⟨calls, hcalls⟩ hstep
  obtain ⟨more, hmore, -⟩ := step_asks hstep
  refine ⟨calls ++ more, ?_⟩
  rw [run_append, hcalls, Option.bind_some, hmore]

/-! ## Flags -/

/-- Only a step that opens the id asks for it. -/
theorem Asks.not_contains {c : SenderCall} (h : Asks s a c) (hopens : c.Opens id) :
    s.state.sender.containsTransaction id = false := by
  cases h with
  | openSink hnew | sendOpen hget hnew =>
    cases hopens
    exact hnew
  | _ => cases hopens

/-- Only `sink_resume` ends a pause. -/
theorem Asks.resume_of_unpause (h : Asks s a (.setPaused id false)) :
    ∃ now, a = .sinkResume id now := by
  cases h with
  | @resume txid now => exact ⟨now, rfl⟩

/-- Only the two declarations gate. -/
theorem Asks.gates_of_declare (h : Asks s a .declarePending) :
    ∃ k now outcomes t, a = .advance k now outcomes ∧ s.tasks.get? k = some t ∧
      t.gates = true := by
  cases h with
  | arm hget | snapshot hget => exact ⟨_, _, _, _, rfl, hget, rfl⟩

end Session

end Transfer

end Xacpp
