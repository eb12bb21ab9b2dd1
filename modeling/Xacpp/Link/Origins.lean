import Xacpp.Link.Replies
import Xacpp.Reliability.Reports
import Xacpp.Transfer.Surface
import Xacpp.Transfer.Writes
/-!
# Where traffic comes from

Every frame a session puts on a connection has an origin: a task that holds
it or announces with it, a declaration taken before, or the section that
answers a frame or a tick (`Origin`). `step_origins` is the inversion; with
it a declaration or a verdict met on the wire is traced to the state that
made it. Beside it stand the inversions of what a session keeps for later:
the declarations and the frames its tasks hold, and its slots.
-/

namespace Xacpp

namespace Transfer

open Reliability

/-! ## The writes of a step -/

namespace Session

variable {s s' : Session} {a : Action} {k now conn : ℕ} {outcomes : List Bool} {t t' : Task}
variable {id : TxId} {f : Frame}

/-- **Where a frame on a connection comes from.** -/
inductive Origin (s : Session) (conn : ℕ) (f : Frame) (s' : Session) : Action → Prop
  | handed {k now : ℕ} {outcomes : List Bool} {t : Task} (hget : s.tasks.get? k = some t)
      (hheld : f ∈ t.heldFor conn) : Origin s conn f s' (.advance k now outcomes)
  | announced {a : Action} (htype : f.frameType = .transactionPause ∨
      f.frameType = .transactionAbort ∨ f.frameType = .transactionCompleted) :
      Origin s conn f s' a
  | declared {k now : ℕ} {outcomes : List Bool} {entries : List AckEntry}
      (hget : s.tasks.get? k = some (.declarePendingSends (.write conn entries)))
      (hf : f ∈ controlOf .resume (encodeResumeRequest entries)) :
      Origin s conn f s' (.advance k now outcomes)
  | ticked {k now : ℕ} {outcomes : List Bool}
      (hget : s.tasks.get? k = some (.clock conn .idle))
      (hf : Handling.Ticks s.state s.config now f) :
      Origin s conn f s' (.advance k now outcomes)
  | replied {frame : Frame} {now : ℕ} {outcomes : List Bool}
      (hf : Handling.Replies s.state s'.state frame f) :
      Origin s conn f s' (.inbound conn frame now outcomes)

/-- The writes among some events have an origin. -/
def OriginsOf (s : Session) (s' : Session) (a : Action) (events : List Event) : Prop :=
  ∀ conn w, .wrote conn w ∈ events → Origin s conn w.frame s' a

theorem OriginsOf.of_not_wrote {events : List Event}
    (h : ∀ conn w, .wrote conn w ∉ events) : OriginsOf s s' a events :=
  fun conn w hw => absurd hw (h conn w)

theorem OriginsOf.of_adds {st : SessionState} {h : Handling} {P : Frame → Prop}
    (hadds : Handling.Adds P (.start st outcomes) h)
    (horigin : ∀ f, P f → Origin s conn f s' a) : OriginsOf s s' a (h.events conn).reverse := by
  intro c w hevent
  obtain ⟨rfl, hmem⟩ := mem_events.1 hevent
  exact horigin w.frame (hadds.mem hmem)

theorem Announces.frameType {ok : Bool} (h : Announces t conn f ok t') :
    f.frameType = .transactionPause ∨ f.frameType = .transactionAbort ∨
      f.frameType = .transactionCompleted := by
  cases h with
  | abort | finishAbort => exact .inr (.inl rfl)
  | finish | send => exact .inr (.inr rfl)
  | pause => exact .inl rfl

theorem Stretch.origins (hget : s.tasks.get? k = some t) (h : Stretch s k now outcomes t s') :
    ∃ events, s'.log = events ++ s.log ∧ OriginsOf s s' (.advance k now outcomes) events := by
  obtain ⟨events, hlog, hall⟩ := h.logs
  refine ⟨events, hlog, fun conn w hw => ?_⟩
  cases hall conn w hw with
  | handed hhands => exact .handed hget hhands.mem_heldFor
  | announced hann => exact .announced hann.frameType
  | declared hmem => exact .declared hget ((Handling.adds_writeControl _ _ _).mem hmem)
  | ticked htick hmem =>
    have hadds := (Handling.start s.state outcomes).adds_tick s.config now
    rw [show (Handling.start s.state outcomes).tick s.config now = _ from htick] at hadds
    exact .ticked hget (hadds.mem hmem)

theorem origins_receive (s : Session) (conn : ℕ) (frame : Frame) (now : ℕ)
    (outcomes : List Bool) :
    ∃ events, (s.receive conn frame now outcomes).log =
        events ++ (Action.inbound conn frame now outcomes).arrival ++ s.log ∧
      OriginsOf s (s.receive conn frame now outcomes) (.inbound conn frame now outcomes)
        events := by
  refine ⟨_, s.receive_log conn frame now outcomes, ?_⟩
  refine .of_adds ((Handling.start (s.state.touch now) outcomes).adds_dispatch frame
    s.binaryHandler s.streamHandler now) fun f hf => .replied ?_
  rw [receive_state]
  -- the activity stamp is not read
  cases hf with
  | final htype hentry hdone hf => exact .final htype hentry hdone hf
  | resent hf => exact .resent hf
  | verdicts hdecl hf => exact .verdicts hdecl hf

/-- **Every write of a step has an origin.** -/
theorem step_origins (hstep : step s a = some s') :
    ∃ events, s'.log = events ++ a.arrival ++ s.log ∧ OriginsOf s s' a events := by
  cases step_steps hstep with
  | idle hsame htasks hquiet =>
    refine ⟨[], ?_, .of_not_wrote fun _ _ => List.not_mem_nil⟩
    rw [hquiet]
    exact congrArg Core.log hsame
  | @opened txid totalLen now sender hopen =>
    exact ⟨[.opened txid], rfl, .of_not_wrote fun _ _ => by simp⟩
  | unpaused hpaused | started hfresh hcall =>
    exact ⟨[], rfl, .of_not_wrote fun _ _ => List.not_mem_nil⟩
  | advanced hget hstretch =>
    obtain ⟨events, hlog, hfrom⟩ := hstretch.origins hget
    exact ⟨events, by rw [hlog, List.append_assoc]; rfl, hfrom⟩
  | received hconn => exact s.origins_receive _ _ _ _
  | sawClosed hget => exact ⟨[], rfl, .of_not_wrote fun _ _ => List.not_mem_nil⟩

/-- The same for what is sent. -/
theorem origin_of_mem_sentTo {w : Write} (hstep : step s a = some s')
    (hw : w ∈ s.sentTo conn s') : Origin s conn w.frame s' a := by
  obtain ⟨events, hlog, horigins⟩ := step_origins hstep
  have hlog' : s'.log = ((events ++ a.arrival).reverse).reverse ++ s.log := by
    rw [List.reverse_reverse]
    exact hlog
  rw [sentTo_of_log hlog', List.mem_filterMap] at hw
  obtain ⟨e, he, hsent⟩ := hw
  rw [List.mem_reverse] at he
  cases e with
  | wrote c w' =>
    simp only [Event.sent?] at hsent
    split at hsent
    · next hok =>
      cases hsent
      rcases List.mem_append.1 he with he | he
      · exact hok.1 ▸ horigins c w he
      · cases a <;> simp [Action.arrival] at he
    · cases hsent
  | _ => cases hsent

/-! ## The frames tasks hold -/

theorem copies_insert {sender : TransactionSender} {txid : TxId} {txn : PendingTxn}
    (hf : some f ∈ txn.frames) :
    (sender.withPending (sender.pending.insert txid txn)).Copies f :=
  ⟨txid, txn, Table.get?_insert_self _ _ _, hf⟩

theorem mem_frames_extend {txn : PendingTxn} {txid : TxId} {ps : List Bytes} {rest : Bytes}
    (hf : f ∈ framesFrom txid txn.totalLen txn.frames.length ps) :
    some f ∈ (txn.extend txid ps rest now).frames :=
  List.mem_append_right _ (List.mem_map_of_mem hf)

/-- What the locked section of `send_binary` frames is copied. -/
theorem SendLocked.copies {txid : TxId} {payload : Bytes} {cb : Bool} {frames : List Frame}
    {s₁ : Session} (h : SendLocked s k txid payload cb now (some frames, s₁)) (hf : f ∈ frames) :
    s₁.state.sender.Copies f := by
  cases h with
  | @framed sender sender₁ sender₂ frames tail hopen happend hfinish =>
    obtain ⟨txn, hget, hroom, rfl, rfl⟩ := TransactionSender.appendChunk_ok happend
    obtain ⟨txn₁, hget₁, rfl, rfl⟩ := TransactionSender.finishTransaction_ok hfinish
    rw [TransactionSender.get?_withPending_insert, Option.some.injEq] at hget₁
    subst hget₁
    rw [registering_sender]
    refine copies_insert ?_
    rcases List.mem_append.1 hf with hf | hf
    · exact List.mem_append_left _ (mem_frames_extend hf)
    · exact mem_frames_extend hf

/-- What a step takes it has framed. -/
theorem Takes.copies (h : Takes s f s' a) : s'.state.sender.Copies f := by
  cases h with
  | append hget hpaused happend hf =>
    obtain ⟨txn, hpend, hroom, rfl, heq⟩ := TransactionSender.appendChunk_ok happend
    rw [heq]
    exact copies_insert (mem_frames_extend hf)
  | close hget hclose hf =>
    obtain ⟨txn, hpend, rfl, heq⟩ := TransactionSender.finishTransaction_ok hclose
    rw [heq]
    exact copies_insert (mem_frames_extend hf)
  | send hlock hsender hf =>
    rw [hsender]
    exact hlock.copies hf

/-- **A frame a task holds was held before, or was framed by the step.** -/
theorem held_origin (hstep : step s a = some s') (hheld : Held s' f) :
    Held s f ∨ s'.state.sender.Copies f :=
  (step_takes hstep hheld).imp_right Takes.copies

/-- Copies are true to some history, and tasks hold data frames only. -/
structure Framing (s : Session) : Prop where
  hold : AllHold s
  held : ∀ f, Held s f → f.frameType = .dataBinary

theorem AllHold.copies (h : AllHold s) (hf : s.state.sender.Copies f) :
    f.frameType = .dataBinary := by
  obtain ⟨id, txn, hget, hmem⟩ := hf
  obtain ⟨framed, appended, hholds⟩ := h id txn hget
  obtain ⟨i, p, -, rfl⟩ := hholds.mem hmem
  rfl

theorem Framing.new (config : TransferConfig) (start : ℕ) : Framing (new config start) where
  hold := fun _ _ hget => by cases hget
  held := fun _ ⟨_, _, hget, _⟩ => by cases hget

theorem Framing.step (h : Framing s) (hstep : Session.step s a = some s') : Framing s' where
  hold := h.hold.step hstep
  held f hf := (held_origin hstep hf).elim (h.held f) (h.hold.step hstep).copies

theorem held_of_heldFor (hget : s.tasks.get? k = some t) (hf : f ∈ t.heldFor conn) :
    Held s f := by
  refine ⟨k, t, hget, ?_⟩
  unfold Task.heldFor at hf
  split at hf
  all_goals first
    | (split at hf
       · exact hf
       · exact absurd hf List.not_mem_nil)
    | exact absurd hf List.not_mem_nil

/-! ## Declarations, verdicts and acknowledgements that are sent -/

theorem AllHold.due (h : AllHold s) (hf : f ∈ (s.state.sender.dueRetransmissions now).1) :
    f.frameType = .dataBinary := by
  obtain ⟨txn, hget, hdue⟩ := TransactionSender.mem_dueRetransmissions h.ownsFrames hf
  exact h.copies ⟨_, txn, hget, PendingTxn.mem_dueRetransmissions hdue⟩

theorem mem_redeclared {config : TransferConfig} {sender : TransactionSender}
    (hf : f ∈ Handling.redeclared sender config now) :
    (sender.timedOutDeclarations now config.resumeVerdictTimeoutMs).1 ≠ [] ∧
      f ∈ controlOf .resume (encodeResumeRequest
        (sender.timedOutDeclarations now config.resumeVerdictTimeoutMs).1) := by
  unfold Handling.redeclared at hf
  split at hf
  · exact absurd hf List.not_mem_nil
  · next hne => exact ⟨fun heq => hne (List.isEmpty_iff.2 heq), hf⟩

/-- What the step declares on the connection. -/
inductive Declares (s : Session) (conn : ℕ) (declared : List AckEntry) : Action → Prop
  /-- A task writes the declaration it has taken. -/
  | taken {k now : ℕ} {outcomes : List Bool}
      (hget : s.tasks.get? k = some (.declarePendingSends (.write conn declared))) :
      Declares s conn declared (.advance k now outcomes)
  /-- A tick declares again. -/
  | again {k now : ℕ} {outcomes : List Bool}
      (hget : s.tasks.get? k = some (.clock conn .idle)) (hne : declared ≠ [])
      (hentries : declared = s.redeclaration now) :
      Declares s conn declared (.advance k now outcomes)

/-- **Every declaration that is sent was taken, or is declared again.** -/
theorem declares_of_sent (hs : Framing s) (hstep : step s a = some s') {w : Write}
    (hw : w ∈ s.sentTo conn s') {declared : List AckEntry}
    (hread : declaration? w.frame = some declared) : Declares s conn declared a := by
  have htype := frameType_of_declaration hread
  have hdata : w.frame.frameType ≠ .dataBinary := by rw [htype]; decide
  cases origin_of_mem_sentTo hstep hw with
  | handed hget hheld => exact absurd (hs.held _ (held_of_heldFor hget hheld)) hdata
  | announced hother => simp [htype] at hother
  | declared hget hf =>
    rw [declaration_of_mem_controlOf hf hread]
    exact .taken hget
  | ticked hget hf =>
    cases hf with
    | acked hf => simp [frameType_of_mem_controlOf hf] at htype
    | nacked hother => simp [hother] at htype
    | due hf => exact absurd (hs.hold.due hf) hdata
    | redeclared hf =>
      obtain ⟨hne, hf⟩ := mem_redeclared hf
      rw [declaration_of_mem_controlOf hf hread]
      exact .again hget hne rfl
    | beat hother => simp [hother] at htype
  | replied hf =>
    cases hf with
    | final hdata' hentry hdone hf => simp [frameType_of_mem_controlOf hf] at htype
    | resent hf => exact absurd (hs.hold.copies hf) hdata
    | verdicts hdecl hf => simp [frameType_of_mem_controlOf hf] at htype

/-- What the step answers on the connection. -/
inductive Answers (s : Session) (conn : ℕ) (answered : List ResumeStatusEntry) : Action → Prop
  | mk {frame : Frame} {now : ℕ} {outcomes : List Bool} {declared : List AckEntry}
      (hdecl : declaration? frame = some declared)
      (hanswered : answered = declared.map fun entry =>
        ⟨entry.transactionId, Handling.verdictFor s.state.reassembler entry.transactionId⟩) :
      Answers s conn answered (.inbound conn frame now outcomes)

/-- **Every response that is sent answers a declaration just handled.** -/
theorem answers_of_sent (hs : Framing s) (hstep : step s a = some s') {w : Write}
    (hw : w ∈ s.sentTo conn s') {answered : List ResumeStatusEntry}
    (hread : response? w.frame = some answered) : Answers s conn answered a := by
  have htype := frameType_of_response hread
  have hdata : w.frame.frameType ≠ .dataBinary := by rw [htype]; decide
  cases origin_of_mem_sentTo hstep hw with
  | handed hget hheld => exact absurd (hs.held _ (held_of_heldFor hget hheld)) hdata
  | announced hother => simp [htype] at hother
  | declared hget hf => simp [frameType_of_mem_controlOf hf] at htype
  | ticked hget hf =>
    cases hf with
    | acked hf => simp [frameType_of_mem_controlOf hf] at htype
    | nacked hother => simp [hother] at htype
    | due hf => exact absurd (hs.hold.due hf) hdata
    | redeclared hf => simp [frameType_of_mem_controlOf (mem_redeclared hf).2] at htype
    | beat hother => simp [hother] at htype
  | replied hf =>
    cases hf with
    | final hdata' hentry hdone hf => simp [frameType_of_mem_controlOf hf] at htype
    | resent hf => exact absurd (hs.hold.copies hf) hdata
    | verdicts hdecl hf => exact .mk hdecl (response_of_mem_controlOf hf hread)

/-- **Where an acknowledgement that is sent comes from.** -/
inductive Acknowledges (s s' : Session) (entry : AckEntry) : Action → Prop
  /-- A tick exports the progress of a slot. -/
  | exported {k now : ℕ} {outcomes : List Bool}
      (hentry : s.state.reassembler.ackEntry entry.transactionId = some entry) :
      Acknowledges s s' entry (.advance k now outcomes)
  /-- A data frame completes its transaction. -/
  | final {conn : ℕ} {frame : Frame} {now : ℕ} {outcomes : List Bool} {emit : Bool}
      (htype : frame.frameType = .dataBinary) (hid : frame.transactionId = entry.transactionId)
      (hentry : (s.state.reassembler.receive frame emit).2.ackEntry entry.transactionId =
        some entry)
      (hdone : s'.state.awaits entry.transactionId = false) :
      Acknowledges s s' entry (.inbound conn frame now outcomes)

theorem ackEntry_of_mem_exported {st : SessionState} {config : TransferConfig} {entry : AckEntry}
    (h : entry ∈ Handling.exported st config now) :
    st.reassembler.ackEntry entry.transactionId = some entry := by
  unfold Handling.exported at h
  split at h
  · obtain ⟨id, -, hentry⟩ := List.mem_filterMap.1 h
    rw [(TransactionReassembler.of_ackEntry hentry).1]
    exact hentry
  · exact absurd h List.not_mem_nil

/-- **Every acknowledgement that is sent reports on a slot.** -/
theorem acknowledges_of_sent (hs : Framing s) (hstep : step s a = some s') {w : Write}
    (hw : w ∈ s.sentTo conn s') {entries : List AckEntry}
    (hread : acknowledged? w.frame = some entries) {entry : AckEntry} (hentry : entry ∈ entries) :
    Acknowledges s s' entry a := by
  have htype := frameType_of_acknowledged hread
  have hdata : w.frame.frameType ≠ .dataBinary := by rw [htype]; decide
  cases origin_of_mem_sentTo hstep hw with
  | handed hget hheld => exact absurd (hs.held _ (held_of_heldFor hget hheld)) hdata
  | announced hother => simp [htype] at hother
  | declared hget hf => simp [frameType_of_mem_controlOf hf] at htype
  | ticked hget hf =>
    cases hf with
    | acked hf =>
      rw [acknowledged_of_mem_controlOf hf hread] at hentry
      exact .exported (ackEntry_of_mem_exported hentry)
    | nacked hother => simp [hother] at htype
    | due hf => exact absurd (hs.hold.due hf) hdata
    | redeclared hf => simp [frameType_of_mem_controlOf (mem_redeclared hf).2] at htype
    | beat hother => simp [hother] at htype
  | replied hf =>
    cases hf with
    | final hdata' hfed hdone hf =>
      rw [acknowledged_of_mem_controlOf hf hread, List.mem_singleton] at hentry
      subst hentry
      have hid := (TransactionReassembler.of_ackEntry hfed).1
      exact .final hdata' hid.symm (hid ▸ hfed) (hid ▸ hdone)
    | resent hf => exact absurd (hs.hold.copies hf) hdata
    | verdicts hdecl hf => simp [frameType_of_mem_controlOf hf] at htype

/-- **Every data frame that is sent was held or copied.** -/
theorem data_of_sent (hs : Framing s) (hstep : step s a = some s') {w : Write}
    (hw : w ∈ s.sentTo conn s') (htype : w.frame.frameType = .dataBinary) :
    Held s w.frame ∨ s.state.sender.Copies w.frame := by
  cases origin_of_mem_sentTo hstep hw with
  | handed hget hheld => exact .inl (held_of_heldFor hget hheld)
  | announced hother => simp [htype] at hother
  | declared hget hf => simp [frameType_of_mem_controlOf hf] at htype
  | ticked hget hf =>
    cases hf with
    | acked hf => simp [frameType_of_mem_controlOf hf] at htype
    | nacked hother => simp [hother] at htype
    | due hf =>
      obtain ⟨txn, hget, hdue⟩ := TransactionSender.mem_dueRetransmissions hs.hold.ownsFrames hf
      exact .inr ⟨_, txn, hget, PendingTxn.mem_dueRetransmissions hdue⟩
    | redeclared hf => simp [frameType_of_mem_controlOf (mem_redeclared hf).2] at htype
    | beat hother => simp [hother] at htype
  | replied hf =>
    cases hf with
    | final hdata' hentry hdone hf => simp [frameType_of_mem_controlOf hf] at htype
    | resent hf => exact .inr hf
    | verdicts hdecl hf => simp [frameType_of_mem_controlOf hf] at htype

/-! ## The declarations tasks hold -/

theorem Stretch.declaration (h : Stretch s k now outcomes t s')
    (hget' : s'.tasks.get? k = some t') {declared : List AckEntry}
    (hd : t'.declaration? conn = some declared) :
    t = .declarePendingSends (.snapshot conn) ∧
      declared = (s.state.sender.declarePending now).1 := by
  cases h with
  | quiet hmoves hsame htasks =>
    cases Table.eq_of_get?_insert htasks hget'
    cases hmoves <;> cases hd
  | spawnClock hfresh hsame htasks | stopClock hclock hsame htasks =>
    cases Table.eq_of_get?_insert htasks hget'
    cases hd
  | hand hok hhands =>
    cases Table.eq_of_get?_insert rfl hget'
    cases hhands <;> cases hd
  | announce hann =>
    cases Table.eq_of_get?_insert rfl hget'
    cases hann <;> cases hd
  | abort hlock haborts =>
    cases Table.eq_of_get?_insert rfl hget'
    cases haborts <;> cases hd
  | @snapshot c pc hpc =>
    cases Table.eq_of_get?_insert rfl hget'
    rcases hpc with rfl | rfl
    · cases hd
    · simp only [Task.declaration?] at hd
      split at hd
      · next hc =>
        subst hc
        exact ⟨rfl, (Option.some.inj hd).symm⟩
      · cases hd
  | _ =>
    cases Table.eq_of_get?_insert rfl hget'
    cases hd

/-- **A declaration a task holds was held before, or is taken by the step.** -/
theorem declaration_origin (hstep : step s a = some s') (hget' : s'.tasks.get? k = some t')
    {declared : List AckEntry} (hd : t'.declaration? conn = some declared) :
    s.tasks.get? k = some t' ∨ ∃ now outcomes, a = .advance k now outcomes ∧
      s.tasks.get? k = some (.declarePendingSends (.snapshot conn)) ∧
        declared = (s.state.sender.declarePending now).1 := by
  cases step_task hstep hget' with
  | stood hget => exact .inl hget
  | @started call hcall ht =>
    subst ht
    cases call <;> cases hd
  | @advanced now outcomes t hget hstretch =>
    obtain ⟨rfl, hentries⟩ := hstretch.declaration hget' hd
    exact .inr ⟨now, outcomes, rfl, hget, hentries⟩
  | clock ht =>
    subst ht
    cases hd

/-! ## Slots -/

/-- **Where a slot comes from.** -/
inductive SlotStep (s : Session) (id : TxId) (slot' : Slot) : Action → Prop
  | kept {a : Action} (hget : s.state.reassembler.slots.get? id = some slot') :
      SlotStep s id slot' a
  | fed {conn : ℕ} {frame : Frame} {now : ℕ} {outcomes : List Bool}
      (hdata : frame.frameType = .dataBinary) (hid : frame.transactionId = id)
      (hget : (s.state.reassembler.receive frame s.streamHandler).2.slots.get? id = some slot') :
      SlotStep s id slot' (.inbound conn frame now outcomes)

theorem slots_takeAll {slot : Slot} : ∀ (ids : List TxId) (r : TransactionReassembler),
    (takeAll ids r).2.slots.get? id = some slot → r.slots.get? id = some slot
  | [], _, hget => hget
  | txid :: rest, r, hget => by
    unfold takeAll at hget
    rcases Handling.takeCompleted_cases r txid with heq | ⟨slot', -, -, heq⟩
    · rw [heq] at hget
      exact slots_takeAll rest r hget
    · rw [heq] at hget
      have hrest := slots_takeAll rest _ hget
      exact (Table.of_get?_erase hrest).2

theorem slots_onDataFrame (h : Handling) (frame : Frame) (handlerPresent streamPresent : Bool)
    {slot : Slot} (hget : (h.onDataFrame frame handlerPresent
      streamPresent).st.reassembler.slots.get? id = some slot) :
    (h.st.reassembler.receive frame streamPresent).2.slots.get? id = some slot := by
  unfold TransactionReassembler.receive
  simp only [Handling.onDataFrame] at hget
  generalize h.st.reassembler.receiveFrame frame.transactionId frame.seq frame.totalLen
    frame.payload.length frame.payload streamPresent = res at hget ⊢
  obtain ⟨outcome, r⟩ := res
  rcases outcome with e | outcome
  · exact hget
  cases outcome with
  | duplicate | slotlessDropped => exact hget
  | accepted complete emitted =>
    obtain ⟨-, hrest⟩ := (h.withState (h.st.withReassembler r)).dataAccepted_spec frame
      (streamPresent && decide (frame.seq = 0) &&
        !h.st.reassembler.containsTransaction frame.transactionId) complete emitted handlerPresent
    rcases hrest with ⟨hr, -⟩ | ⟨hr, -⟩
    · dsimp only at hget
      rw [hr] at hget
      exact hget
    · dsimp only at hget
      rw [hr] at hget
      exact (Table.of_get?_erase hget).2

/-- **What a step does on the receive side**: at most the stall marks move,
or a clock drains, or a frame is handled. -/
inductive ReceiveStep (s s' : Session) : Action → Prop
  | idle {a : Action} (h : Idles s s') : ReceiveStep s s' a
  | drained {a : Action} (hstate : s'.state = (drainCompleted s.state s.binaryHandler).2) :
      ReceiveStep s s' a
  | handled {conn : ℕ} {frame : Frame} {now : ℕ} {outcomes : List Bool}
      (hstate : s'.state = (handleInbound s.state frame s.binaryHandler s.streamHandler now
        outcomes).st) : ReceiveStep s s' (.inbound conn frame now outcomes)

theorem step_receiveStep (hstep : step s a = some s') : ReceiveStep s s' a := by
  have hsame : s'.binaryHandler = s.binaryHandler → SameSurface s.state s'.state →
      ReceiveStep s s' a := fun hhandler h => .idle ⟨fun hs => hhandler.trans hs, .inl h⟩
  cases step_steps hstep with
  | idle hcore htasks hquiet hidles => exact .idle hidles
  | opened hopen | unpaused hpaused | started hfresh hcall | sawClosed hget =>
    exact hsame rfl ⟨rfl, rfl, rfl, rfl⟩
  | @advanced k now outcomes t s' hget hstretch =>
    by_cases hdrain : ∃ conn, t = .clock conn .drain
    · obtain ⟨conn, rfl⟩ := hdrain
      obtain ⟨taken, state, htake, hstate, -⟩ := hstretch.drained
      exact .drained (by rw [hstate, htake])
    · exact .idle (hstretch.idles fun conn heq => hdrain ⟨conn, heq⟩)
  | received hconn => exact .handled (s.receive_state _ _ _ _)

theorem slot_origin (hstep : step s a = some s') {slot' : Slot}
    (hget' : s'.state.reassembler.slots.get? id = some slot') : SlotStep s id slot' a := by
  cases step_receiveStep hstep with
  | idle hidles => exact .kept (hidles.slots.1 ▸ hget')
  | drained hstate =>
    rw [hstate] at hget'
    refine .kept ?_
    unfold drainCompleted at hget'
    split at hget'
    · exact slots_takeAll _ _ hget'
    · exact hget'
  | @handled conn frame now outcomes hstate =>
    rw [hstate, handleInbound] at hget'
    by_cases hdata : frame.frameType = .dataBinary
    · simp only [Handling.dispatch, hdata] at hget'
      have hfed := slots_onDataFrame _ _ _ _ hget'
      by_cases hid : frame.transactionId = id
      · exact .fed hdata hid hfed
      · exact .kept ((TransactionReassembler.get?_receive_of_ne (Ne.symm hid)).symm.trans hfed)
    · exact .kept ((Handling.onlyDrops_dispatch _ _ _ now hdata).slots id slot' hget')

end Session

end Transfer

end Xacpp
