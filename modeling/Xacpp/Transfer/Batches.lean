import Xacpp.Transfer.Model.Traffic
import Xacpp.Transfer.Sending
import Xacpp.Transfer.Stretch
import Xacpp.Wire.RoundTrip
/-!
# What one frame has room for

Declarations and batched acknowledgements go out as one frame whose entry
count is one byte, over tables of any size. The state is updated before the
frame is encoded, and an encoding that fails writes nothing: past 255
entries the gate is armed, or the accounting cleared, and no frame leaves.
`Emits` says which control frames a section adds where every write is
accepted.
-/

namespace Xacpp

namespace Transfer

open Reliability

/-- The frame a control payload goes out in, where it can be encoded. -/
def controlOf (frameType : FrameType) (payload : Except ControlError Bytes) : List Frame :=
  payload.toOption.toList.map (controlFrame frameType)

theorem mem_controlOf {frameType : FrameType} {payload : Except ControlError Bytes}
    {frame : Frame} : frame ∈ controlOf frameType payload ↔
      ∃ bytes, payload = .ok bytes ∧ frame = controlFrame frameType bytes := by
  cases payload with
  | error e | ok bytes => simp [controlOf, Except.toOption]

theorem frameType_of_mem_controlOf {frameType : FrameType} {payload : Except ControlError Bytes}
    {frame : Frame} (h : frame ∈ controlOf frameType payload) : frame.frameType = frameType := by
  obtain ⟨bytes, -, rfl⟩ := mem_controlOf.1 h
  rfl

/-! ## One count byte -/

theorem encodeAckEntries_of_le {min : ℕ} {entries : List AckEntry} (hmin : min ≤ entries.length)
    (hmax : entries.length ≤ 255) : ∃ bytes, encodeAckEntries min entries = .ok bytes := by
  have hlen := length_flatMap_const layout_ackEntry.length entries
  have hcap : (UInt8.ofNat entries.length :: entries.flatMap writeAckEntry).length ≤
      controlPayloadCap := by
    have hwidth : ackEntryLen = 24 := rfl
    have hbound : controlPayloadCap = 16384 := rfl
    rw [List.length_cons, hlen, hwidth, hbound]
    omega
  exact ⟨_, by rw [encodeAckEntries, checkCount_ok hmin hmax]; exact finish_ok hcap⟩

theorem encodeAckEntries_of_gt {min : ℕ} {entries : List AckEntry}
    (h : ¬ (min ≤ entries.length ∧ entries.length ≤ 255)) :
    (encodeAckEntries min entries).toOption = none := by
  cases henc : encodeAckEntries min entries with
  | error e => rfl
  | ok bytes =>
    obtain ⟨hmin, hmax, -⟩ := of_checkCount_bind henc
    exact absurd ⟨hmin, hmax⟩ h

/-- What the peer reads out of a batched acknowledgement: all of it, or
nothing was sent. -/
theorem acknowledged_controlOf (entries : List AckEntry) :
    ((controlOf .ack (encodeAckPayload entries)).filterMap acknowledged?).flatten =
      if entries.length ≤ 255 then entries else [] := by
  unfold controlOf encodeAckPayload
  by_cases hfits : 1 ≤ entries.length ∧ entries.length ≤ 255
  · obtain ⟨bytes, hbytes⟩ := encodeAckEntries_of_le hfits.1 hfits.2
    have hread : acknowledged? (controlFrame .ack bytes) = some entries := by
      rw [acknowledged?, if_pos (controlFrame_frameType _ _), controlFrame_payload,
        decodeAckPayload, (exact_ackEntries 1).reads entries bytes hbytes]
      rfl
    rw [hbytes, if_pos hfits.2]
    simp [Except.toOption, hread]
  · rw [encodeAckEntries_of_gt hfits]
    by_cases hmax : entries.length ≤ 255
    · rw [if_pos hmax, List.eq_nil_of_length_eq_zero (by omega : entries.length = 0)]
      rfl
    · rw [if_neg hmax]
      rfl

/-- The same for a declaration. -/
theorem declaration_controlFrame {entries : List AckEntry} {bytes : Bytes}
    (hbytes : encodeResumeRequest entries = .ok bytes) :
    declaration? (controlFrame .resume bytes) =
      (some entries).filter fun entries => !entries.isEmpty := by
  rw [declaration?, if_pos (controlFrame_frameType _ _), controlFrame_payload,
    decodeResumeRequest_encodeResumeRequest hbytes]
  rfl

theorem declared_controlOf (entries : List AckEntry) :
    ((controlOf .resume (encodeResumeRequest entries)).filterMap declaration?).flatten =
      if entries.length ≤ 255 then entries else [] := by
  unfold controlOf encodeResumeRequest
  by_cases hmax : entries.length ≤ 255
  · obtain ⟨bytes, hbytes⟩ := encodeAckEntries_of_le (Nat.zero_le _) hmax
    have hread := declaration_controlFrame hbytes
    rw [hbytes, if_pos hmax]
    show ([controlFrame .resume bytes].filterMap declaration?).flatten = entries
    rw [List.filterMap_cons, hread]
    cases entries with
    | nil => rfl
    | cons entry rest => exact List.append_nil _
  · rw [encodeAckEntries_of_gt (fun h => hmax h.2), if_neg hmax]
    rfl

theorem acknowledged_eq_nil {frames : List Frame} (h : ∀ f ∈ frames, f.frameType ≠ .ack) :
    frames.filterMap acknowledged? = [] :=
  List.filterMap_eq_nil_iff.2 fun f hf => if_neg (h f hf)

theorem declaration_eq_nil {frames : List Frame} (h : ∀ f ∈ frames, f.frameType ≠ .resume) :
    frames.filterMap declaration? = [] :=
  List.filterMap_eq_nil_iff.2 fun f hf => if_neg (h f hf)

/-! ## The control frames of a section -/

/-- Every write to come is accepted. -/
def Port.Accepts (port : Port) : Prop := ∀ ok ∈ port.outcomes, ok = true

/-- The writes that went out. -/
def Port.sent (port : Port) : List Write := port.writes.filter Write.ok

theorem Port.Accepts.write {port : Port} (h : port.Accepts) (channel : Channel) (frame : Frame) :
    (port.write channel frame).1 = true ∧ (port.write channel frame).2.Accepts ∧
      (port.write channel frame).2.sent = port.sent ++ [⟨channel, frame, true⟩] := by
  have hok : port.outcomes.headD true = true := by
    cases hout : port.outcomes with
    | nil => rfl
    | cons ok rest => exact h ok (by rw [hout]; exact List.mem_cons_self)
  refine ⟨hok, fun ok hmem => h ok (List.mem_of_mem_tail hmem), ?_⟩
  simp only [Port.write, Port.sent, hok, List.filter_append, List.filter_cons_of_pos,
    List.filter_nil]

theorem Port.Accepts.writeAll {port : Port} (h : port.Accepts) (frames : List Frame) :
    (port.writeAll frames).1 = true ∧ (port.writeAll frames).2.Accepts ∧
      controlFrames (port.writeAll frames).2.sent = controlFrames port.sent := by
  induction frames generalizing port with
  | nil => exact ⟨rfl, h, rfl⟩
  | cons frame rest ih =>
    obtain ⟨hok, haccepts, hsent⟩ := h.write .data frame
    have hnext : port.writeAll (frame :: rest) = (port.write .data frame).2.writeAll rest := by
      rw [Port.writeAll]
      split
      · next heq => rw [heq]
      · next heq =>
        rw [heq] at hok
        cases hok
    rw [hnext]
    refine ⟨(ih haccepts).1, (ih haccepts).2.1, (ih haccepts).2.2.trans ?_⟩
    rw [hsent, controlFrames, controlFrames, List.filter_append, List.map_append]
    exact List.append_nil _

namespace Handling

variable {h h' h'' : Handling} {frames frames' : List Frame}

/-- The control frames a section adds, where every write is accepted. -/
structure Emits (h h' : Handling) (frames : List Frame) : Prop where
  accepts : h.port.Accepts → h'.port.Accepts
  frames : h.port.Accepts → controlFrames h'.port.sent = controlFrames h.port.sent ++ frames

theorem Emits.of_port (hport : h'.port = h.port) : Emits h h' [] :=
  ⟨fun ha => by rw [hport]; exact ha, fun _ => by rw [hport, List.append_nil]⟩

/-- Only the write surface counts. -/
theorem Emits.before (hport : h'.port = h.port) (he : Emits h' h'' frames) : Emits h h'' frames :=
  ⟨fun ha => he.accepts (by rw [hport]; exact ha),
    fun ha => by rw [he.frames (by rw [hport]; exact ha), hport]⟩

theorem Emits.trans (h₁ : Emits h h' frames) (h₂ : Emits h' h'' frames') :
    Emits h h'' (frames ++ frames') :=
  ⟨fun ha => h₂.accepts (h₁.accepts ha), fun ha => by
    rw [h₂.frames (h₁.accepts ha), h₁.frames ha, List.append_assoc]⟩

theorem emits_writeControl (h : Handling) (frameType : FrameType)
    (payload : Except ControlError Bytes) :
    Emits h (h.writeControl frameType payload) (controlOf frameType payload) := by
  cases payload with
  | error e => exact .of_port rfl
  | ok bytes =>
    refine ⟨fun ha => (ha.write .control _).2.1, fun ha => ?_⟩
    have hsent := (ha.write .control (controlFrame frameType bytes)).2.2
    show controlFrames (h.port.write .control (controlFrame frameType bytes)).2.sent = _
    rw [hsent, controlFrames, List.filter_append, List.map_append]
    rfl

/-- What the tick acknowledges. -/
def exported (st : SessionState) (config : TransferConfig) (now : ℕ) : List AckEntry :=
  if st.pendingAckFrames.values.sum ≥ config.ackBatchFrames ∨
      st.pendingAckFrames.values.sum > 0 ∧ now - st.lastAckMs ≥ config.ackBatchIntervalMs then
    st.pendingAckFrames.keys.filterMap st.reassembler.ackEntry
  else []

theorem emits_exportAcks (h : Handling) (config : TransferConfig) (now : ℕ) :
    Emits h (h.exportAcks config now)
      (controlOf .ack (encodeAckPayload (exported h.st config now))) := by
  unfold exportAcks exported
  dsimp only
  split
  · unfold sendAckEntries
    split
    · next hempty =>
      rw [List.isEmpty_iff.1 hempty]
      exact .of_port rfl
    · refine Emits.before ?_ (emits_writeControl _ _ _)
      rfl
  · exact .of_port rfl

theorem emits_nackFeedback (h : Handling) (config : TransferConfig) (now : ℕ) :
    ∃ frames, Emits h (h.nackFeedback config now) frames ∧ ∀ f ∈ frames, f.frameType = .nack := by
  refine h.nackFeedback_rel config now
    (R := fun h h' => ∃ frames, Emits h h' frames ∧ ∀ f ∈ frames, f.frameType = .nack)
    (fun _ => ⟨[], .of_port rfl, List.forall_mem_nil _⟩) ?_
    (fun _ _ => ⟨_, emits_writeControl _ _ _, fun _ hf => frameType_of_mem_controlOf hf⟩)
    ⟨[], .of_port rfl, List.forall_mem_nil _⟩
  rintro h h' h'' ⟨frames, hemits, htype⟩ ⟨frames', hemits', htype'⟩
  exact ⟨frames ++ frames', hemits.trans hemits',
    fun f hf => (List.mem_append.1 hf).elim (htype f) (htype' f)⟩

theorem emits_retransmitDue (h : Handling) (now : ℕ) : Emits h (h.retransmitDue now).2 [] :=
  ⟨fun ha => (ha.writeAll _).2.1, fun ha => by rw [List.append_nil]; exact (ha.writeAll _).2.2⟩

/-- What a re-declaration sends. -/
def redeclared (sender : TransactionSender) (config : TransferConfig) (now : ℕ) : List Frame :=
  if (sender.timedOutDeclarations now config.resumeVerdictTimeoutMs).1.isEmpty then []
  else controlOf .resume
    (encodeResumeRequest (sender.timedOutDeclarations now config.resumeVerdictTimeoutMs).1)

theorem emits_redeclare (h : Handling) (config : TransferConfig) (now : ℕ) :
    Emits h (h.redeclare config now) (redeclared h.st.sender config now) := by
  unfold redeclare redeclared
  dsimp only
  split
  · exact .of_port rfl
  · refine Emits.before ?_ (emits_writeControl _ _ _)
    rfl

theorem emits_heartbeat (h : Handling) (config : TransferConfig) (now : ℕ) :
    ∃ frames, Emits h (h.heartbeat config now) frames ∧
      ∀ f ∈ frames, f.frameType = .heartbeat := by
  unfold heartbeat
  dsimp only
  split
  · refine ⟨_, (emits_writeControl _ _ _).before ?_, fun _ hf => frameType_of_mem_controlOf hf⟩
    rfl
  · exact ⟨[], .of_port rfl, List.forall_mem_nil _⟩

/-! ## The accounting -/

theorem st_writeControl (h : Handling) (frameType : FrameType)
    (payload : Except ControlError Bytes) : (h.writeControl frameType payload).st = h.st := by
  obtain ⟨port, heq⟩ := h.writeControl_eq frameType payload
  rw [heq]

theorem st_sendAckEntries (h : Handling) (entries : List AckEntry) :
    (h.sendAckEntries entries).st = h.st := by
  unfold sendAckEntries
  split
  · rfl
  · exact st_writeControl _ _ _

theorem pendingAckFrames_nackFeedback (h : Handling) (config : TransferConfig) (now : ℕ) :
    (h.nackFeedback config now).st.pendingAckFrames = h.st.pendingAckFrames := by
  refine h.nackFeedback_rel config now
    (R := fun h h' => h'.st.pendingAckFrames = h.st.pendingAckFrames) (fun _ => rfl)
    (fun _ _ _ h₁ h₂ => h₂.trans h₁) (fun h payload => ?_) rfl
  rw [st_writeControl]

theorem pendingAckFrames_redeclare (h : Handling) (config : TransferConfig) (now : ℕ) :
    (h.redeclare config now).st.pendingAckFrames = h.st.pendingAckFrames := by
  unfold redeclare
  dsimp only
  split
  · rfl
  · rw [sendResumeFrame, st_writeControl]
    rfl

theorem pendingAckFrames_heartbeat (h : Handling) (config : TransferConfig) (now : ℕ) :
    (h.heartbeat config now).st.pendingAckFrames = h.st.pendingAckFrames := by
  unfold heartbeat
  dsimp only
  split
  · rw [st_writeControl]
    rfl
  · rfl

/-- Past the batched export a tick leaves the accounting alone. -/
theorem pendingAckFrames_tick (h : Handling) (config : TransferConfig) (now : ℕ) :
    (h.tick config now).2.st.pendingAckFrames = (h.exportAcks config now).st.pendingAckFrames := by
  have hbook := (h.exportAcks config now).pendingAckFrames_nackFeedback config now
  unfold tick
  dsimp only
  generalize (h.exportAcks config now).nackFeedback config now = h₁ at hbook
  have hkept : (h₁.retransmitDue now).2.st.pendingAckFrames = h₁.st.pendingAckFrames := rfl
  generalize h₁.retransmitDue now = r at hkept
  obtain ⟨ok, h₂⟩ := r
  cases ok with
  | false => exact hkept.trans hbook
  | true =>
    calc ((h₂.redeclare config now).heartbeat config now).st.pendingAckFrames
        = h₂.st.pendingAckFrames :=
          (pendingAckFrames_heartbeat _ config now).trans (pendingAckFrames_redeclare _ config now)
      _ = (h.exportAcks config now).st.pendingAckFrames := hkept.trans hbook

/-- **What a tick sends on the control channel**, where every write is
accepted. -/
theorem tick_emits (h : Handling) (config : TransferConfig) (now : ℕ) (ha : h.port.Accepts) :
    ∃ nacks beats, (∀ f ∈ nacks, f.frameType = .nack) ∧ (∀ f ∈ beats, f.frameType = .heartbeat) ∧
      controlFrames (h.tick config now).2.port.sent = controlFrames h.port.sent ++
        (controlOf .ack (encodeAckPayload (exported h.st config now)) ++ (nacks ++
          (redeclared (h.st.sender.dueRetransmissions now).2 config now ++ beats))) := by
  have hacks := h.emits_exportAcks config now
  obtain ⟨nacks, hnacks, hnackType⟩ := (h.exportAcks config now).emits_nackFeedback config now
  have hsender := ((h.exportAcks_quiet config now).1.trans
    ((h.exportAcks config now).nackFeedback_quiet config now).1).sender
  have hfirst := hacks.trans hnacks
  unfold tick
  dsimp only
  generalize (h.exportAcks config now).nackFeedback config now = h₁ at hnacks hsender hfirst
  have hdue := h₁.emits_retransmitDue now
  have hdone : (h₁.retransmitDue now).1 = true := ((hfirst.accepts ha).writeAll _).1
  have hsent : (h₁.retransmitDue now).2.st.sender = (h.st.sender.dueRetransmissions now).2 := by
    rw [← hsender]
    rfl
  generalize h₁.retransmitDue now = r at hdue hdone hsent
  obtain ⟨ok, h₂⟩ := r
  subst hdone
  have hre := h₂.emits_redeclare config now
  obtain ⟨beats, hbeats, hbeatType⟩ := (h₂.redeclare config now).emits_heartbeat config now
  refine ⟨nacks, beats, hnackType, hbeatType, ?_⟩
  have hall := (hfirst.trans (hdue.trans (hre.trans hbeats))).frames ha
  rw [hsent, List.nil_append, List.append_assoc] at hall
  exact hall

end Handling

/-- The batched export is due: enough frames, or some and long enough. -/
def ackBatchDue (config : TransferConfig) (st : SessionState) (now : ℕ) : Prop :=
  st.pendingAckFrames.values.sum ≥ config.ackBatchFrames ∨
    st.pendingAckFrames.values.sum > 0 ∧ now - st.lastAckMs ≥ config.ackBatchIntervalMs

instance (config : TransferConfig) (st : SessionState) (now : ℕ) :
    Decidable (ackBatchDue config st now) :=
  inferInstanceAs (Decidable (_ ∨ _))

theorem SessionState.pendingAckFrames_onStream (st : SessionState) {txid : TxId}
    (update : StreamInner → StreamInner) :
    (st.onStream txid update).pendingAckFrames = st.pendingAckFrames := by
  unfold SessionState.onStream
  split <;> rfl

/-- The transactions the export takes out of the accounting. -/
def SessionState.exportable (st : SessionState) : List TxId :=
  st.pendingAckFrames.keys.filter fun txid => (st.reassembler.ackEntry txid).isSome

namespace Session

variable {s s' : Session} {k conn now : ℕ} {outcomes : List Bool}

theorem sentTo_of_log {events : List Event} (hlog : s'.log = events.reverse ++ s.log) :
    s.sentTo conn s' = events.filterMap (Event.sent? conn) := by
  have hlen : s'.log.length - s.log.length = events.reverse.length := by
    rw [hlog, List.length_append]
    omega
  rw [sentTo, hlen, hlog, List.take_left, List.reverse_reverse]

theorem sent_wrote (conn : ℕ) (writes : List Write) :
    (writes.map (Event.wrote conn)).filterMap (Event.sent? conn) = writes.filter Write.ok := by
  induction writes with
  | nil => rfl
  | cons w rest ih =>
    rw [List.map_cons, List.filterMap_cons, ih, List.filter_cons, Event.sent?]
    cases w.ok <;> simp

theorem sent_events (h : Handling) (conn : ℕ) :
    (h.events conn).filterMap (Event.sent? conn) = h.port.sent := by
  have hrest : ∀ events : List Event, (∀ e ∈ events, Event.sent? conn e = none) →
      events.filterMap (Event.sent? conn) = [] := fun _ => List.filterMap_eq_nil_iff.2
  rw [Handling.events, List.filterMap_append, sent_wrote, hrest, List.append_nil]
  · rfl
  · intro e he
    simp only [List.mem_append, List.mem_map, Function.uncurry] at he
    rcases he with ⟨p, -, rfl⟩ | ⟨p, -, rfl⟩ | ⟨p, -, rfl⟩ | ⟨p, -, rfl⟩ <;> rfl

/-- A clock task's tick: the handling it runs, what it sends and the state it
leaves. -/
theorem step_tick (hk : s.tasks.get? k = some (.clock conn .idle))
    (hstep : s.step (.advance k now outcomes) = some s') :
    ∃ h, h = (clockTick s.config s.state now outcomes).2 ∧ s'.state = h.st ∧
      s.sentTo conn s' = h.port.sent := by
  obtain ⟨t, hget, hadv⟩ := Option.bind_eq_some_iff.1 hstep
  rw [hk, Option.some.injEq] at hget
  subst hget
  simp only [advance, advanceClock] at hadv
  split at hadv
  · next h htick =>
    cases hadv
    refine ⟨h, by rw [htick], rfl, ?_⟩
    rw [← sent_events h conn]
    exact sentTo_of_log rfl
  · next h htick =>
    cases hadv
    refine ⟨h, by rw [htick], rfl, ?_⟩
    rw [← sent_events h conn]
    exact sentTo_of_log rfl

/-- **What a tick acknowledges and declares**, where every write is
accepted. -/
theorem tick_reads (hk : s.tasks.get? k = some (.clock conn .idle))
    (hstep : s.step (.advance k now outcomes) = some s') (haccept : ∀ ok ∈ outcomes, ok = true) :
    (acknowledgedIn (s.sentTo conn s') =
      let entries := Handling.exported s.state s.config now
      if entries.length ≤ 255 then entries else []) ∧
    (declaredIn (s.sentTo conn s') =
      let entries := ((s.state.sender.dueRetransmissions now).2.timedOutDeclarations now
        s.config.resumeVerdictTimeoutMs).1
      (if entries.length ≤ 255 then entries else []).map AckEntry.transactionId) ∧
    s'.state.pendingAckFrames = ((Handling.start s.state outcomes).exportAcks s.config
      now).st.pendingAckFrames := by
  obtain ⟨h, rfl, hstate, hsent⟩ := step_tick hk hstep
  obtain ⟨nacks, beats, hnacks, hbeats, hframes⟩ :=
    (Handling.start s.state outcomes).tick_emits s.config now haccept
  have hnone : controlFrames (Handling.start s.state outcomes).port.sent = [] := rfl
  have hst : (Handling.start s.state outcomes).st = s.state := rfl
  rw [hnone, List.nil_append, hst] at hframes
  have hframes' : controlFrames (s.sentTo conn s') = _ :=
    (congrArg controlFrames hsent).trans hframes
  have hackOnly : ∀ f ∈ controlOf .ack
      (encodeAckPayload (Handling.exported s.state s.config now)), f.frameType ≠ .resume := by
    intro f hf
    rw [frameType_of_mem_controlOf hf]
    decide
  have hnackOnly : ∀ f ∈ nacks, f.frameType ≠ .resume ∧ f.frameType ≠ .ack := by
    intro f hf
    rw [hnacks f hf]
    decide
  have hbeatOnly : ∀ f ∈ beats, f.frameType ≠ .resume ∧ f.frameType ≠ .ack := by
    intro f hf
    rw [hbeats f hf]
    decide
  refine ⟨?_, ?_, ?_⟩
  · have hre : ∀ f ∈ Handling.redeclared (s.state.sender.dueRetransmissions now).2 s.config now,
        f.frameType ≠ .ack := by
      intro f hf
      unfold Handling.redeclared at hf
      split at hf
      · exact absurd hf List.not_mem_nil
      · rw [frameType_of_mem_controlOf hf]
        decide
    rw [acknowledgedIn, hframes', List.filterMap_append, List.filterMap_append,
      List.filterMap_append, acknowledged_eq_nil fun f hf => (hnackOnly f hf).2,
      acknowledged_eq_nil hre, acknowledged_eq_nil fun f hf => (hbeatOnly f hf).2]
    simp only [List.append_nil]
    exact acknowledged_controlOf _
  · rw [declaredIn, hframes', List.filterMap_append, List.filterMap_append,
      List.filterMap_append, declaration_eq_nil hackOnly,
      declaration_eq_nil fun f hf => (hnackOnly f hf).1,
      declaration_eq_nil fun f hf => (hbeatOnly f hf).1]
    simp only [List.append_nil, List.nil_append]
    refine congrArg (List.map AckEntry.transactionId) ?_
    unfold Handling.redeclared
    split
    · next hempty =>
      rw [List.isEmpty_iff.1 hempty]
      rfl
    · exact declared_controlOf _
  · rw [hstate]
    exact (Handling.start s.state outcomes).pendingAckFrames_tick s.config now

/-! ## Batched acknowledgements -/

theorem length_exportable (st : SessionState) :
    st.exportable.length = (st.pendingAckFrames.keys.filterMap st.reassembler.ackEntry).length := by
  rw [SessionState.exportable, ← List.countP_eq_length_filter, List.length_filterMap_eq_countP]

theorem contains_exportAcks (h : Handling) (config : TransferConfig) (id : TxId) :
    (h.exportAcks config now).st.pendingAckFrames.contains id =
      (h.st.pendingAckFrames.contains id &&
        !decide (ackBatchDue config h.st now ∧ id ∈ h.st.exportable)) := by
  unfold Handling.exportAcks
  dsimp only
  split
  · next hdue =>
    rw [Handling.st_sendAckEntries]
    show (h.st.exportable.foldl Table.erase h.st.pendingAckFrames).contains id = _
    rw [Table.contains, Table.get?_foldl_erase]
    by_cases hid : id ∈ h.st.exportable
    · rw [if_pos hid, decide_eq_true ⟨hdue, hid⟩, Bool.not_true, Bool.and_false]
      rfl
    · rw [if_neg hid, decide_eq_false fun h => hid h.2, Bool.not_false, Bool.and_true]
      rfl
  · next hdue =>
    rw [decide_eq_false fun h => hdue h.1, Bool.not_false, Bool.and_true]

/-- **Accounting that leaves goes out as an entry**, exactly where the batch
fits one frame. -/
theorem exported_iff_fits (hk : s.tasks.get? k = some (.clock conn .idle))
    (hstep : s.step (.advance k now outcomes) = some s') (haccept : ∀ ok ∈ outcomes, ok = true) :
    (∀ id, s.state.pendingAckFrames.contains id = true →
      s'.state.pendingAckFrames.contains id = false →
      ∃ entry ∈ acknowledgedIn (s.sentTo conn s'),
        s.state.reassembler.ackEntry id = some entry) ↔
      (ackBatchDue s.config s.state now → s.state.exportable.length ≤ 255) := by
  obtain ⟨hread, -, hbook⟩ := tick_reads hk hstep haccept
  have hgone : ∀ id, s'.state.pendingAckFrames.contains id =
      (s.state.pendingAckFrames.contains id &&
        !decide (ackBatchDue s.config s.state now ∧ id ∈ s.state.exportable)) := by
    intro id
    rw [hbook]
    exact contains_exportAcks (Handling.start s.state outcomes) s.config id
  constructor
  · intro hall hdue
    by_contra hmany
    -- the batch is too long for a frame: whoever left it went unannounced
    obtain ⟨id, hid⟩ := List.exists_mem_of_length_pos (by omega : 0 < s.state.exportable.length)
    obtain ⟨v, hv⟩ := Table.mem_keys_iff.1 (List.mem_of_mem_filter hid)
    have hwas : s.state.pendingAckFrames.contains id = true := Table.contains_iff.2 ⟨v, hv⟩
    obtain ⟨entry, hentry, -⟩ := hall id hwas (by
      rw [hgone, decide_eq_true ⟨hdue, hid⟩, Bool.not_true, Bool.and_false])
    rw [hread] at hentry
    have hexported : Handling.exported s.state s.config now =
        s.state.pendingAckFrames.keys.filterMap s.state.reassembler.ackEntry := if_pos hdue
    dsimp only at hentry
    rw [hexported, if_neg (by rw [← length_exportable]; exact hmany)] at hentry
    exact absurd hentry List.not_mem_nil
  · intro hfits id hwas hnow
    rw [hgone, hwas, Bool.true_and, Bool.not_eq_false', decide_eq_true_eq] at hnow
    obtain ⟨hdue, hid⟩ := hnow
    obtain ⟨hkey, hsome⟩ := List.mem_filter.1 hid
    obtain ⟨entry, hentry⟩ := Option.isSome_iff_exists.1 hsome
    have hexported : Handling.exported s.state s.config now =
        s.state.pendingAckFrames.keys.filterMap s.state.reassembler.ackEntry := if_pos hdue
    refine ⟨entry, ?_, hentry⟩
    rw [hread]
    dsimp only
    rw [hexported, if_pos (by rw [← length_exportable]; exact hfits hdue)]
    exact List.mem_filterMap.2 ⟨id, hkey, hentry⟩

/-! ## Declarations -/

/-- A declaring task stands where it is until it is advanced. -/
theorem declaring_kept {a : Action} {pc : DeclarePc} (hstep : s.step a = some s')
    (hother : ∀ now outcomes, a ≠ .advance k now outcomes)
    (hget : s.tasks.get? k = some (.declarePendingSends pc)) :
    s'.tasks.get? k = some (.declarePendingSends pc) := by
  cases step_steps hstep with
  | idle hcore htasks => rw [htasks]; exact hget
  | opened hopen | unpaused hpaused => exact hget
  | @started k' call hfresh hcall =>
    have hne := Table.ne_of_fresh hget hfresh
    exact (Table.get?_insert_of_ne _ _ hne).trans hget
  | @advanced k' now outcomes t₁ s' hget₁ hstretch =>
    have hne : k ≠ k' := by
      rintro rfl
      exact hother now outcomes rfl
    obtain ⟨t', hts⟩ := hstretch.tasks
    rcases hts.others k hne with heq | ⟨-, hwas⟩
    · exact heq.trans hget
    · cases (hwas _ hget).1
  | received hconn => exact (congrArg (·.get? k) (s.tasks_receive _ _ _ _)).trans hget
  | @sawClosed k' conn hclock =>
    have hne : k ≠ k' := by
      rintro rfl
      rw [hget] at hclock
      cases hclock
    exact (Table.get?_insert_of_ne _ _ hne).trans hget

theorem declaring_kept_run {pc : DeclarePc} {acts : List Action}
    (hrun : run Session.step s acts = some s')
    (hother : ∀ a ∈ acts, ∀ now outcomes, a ≠ .advance k now outcomes)
    (hget : s.tasks.get? k = some (.declarePendingSends pc)) :
    s'.tasks.get? k = some (.declarePendingSends pc) := by
  induction acts generalizing s with
  | nil =>
    rw [run_nil, Option.some.injEq] at hrun
    exact hrun ▸ hget
  | cons a rest ih =>
    obtain ⟨t, hstep, hrest⟩ := run_cons_eq_some.1 hrun
    exact ih hrest (fun b hb => hother b (List.mem_cons_of_mem _ hb))
      (declaring_kept hstep (hother a List.mem_cons_self) hget)

/-- What a declaring task writes next. -/
theorem declare_writes {entries : List AckEntry}
    (hk : s.tasks.get? k = some (.declarePendingSends (.write conn entries)))
    (haccept : ∀ ok ∈ outcomes, ok = true) :
    controlFrames (s.sentBy conn (.advance k now outcomes)) =
      controlOf .resume (encodeResumeRequest entries) := by
  have hstep : s.step (.advance k now outcomes) = some ((s.absorb conn
      ((Handling.start s.state outcomes).sendResumeFrame entries)).setTask k
        (.declarePendingSends .returned)) := by
    simp only [step, hk, Option.bind_some]
    rfl
  have hsent : s.sentBy conn (.advance k now outcomes) =
      ((Handling.start s.state outcomes).sendResumeFrame entries).port.sent := by
    rw [sentBy, hstep, ← sent_events _ conn]
    exact sentTo_of_log rfl
  have hframes := ((Handling.start s.state outcomes).emits_writeControl .resume
    (encodeResumeRequest entries)).frames haccept
  have hnone : controlFrames (Handling.start s.state outcomes).port.sent = [] := rfl
  rw [hnone, List.nil_append] at hframes
  rw [hsent, Handling.sendResumeFrame, hframes]

theorem declare_reads {entries : List AckEntry}
    (hk : s.tasks.get? k = some (.declarePendingSends (.write conn entries)))
    (haccept : ∀ ok ∈ outcomes, ok = true) :
    declaredIn (s.sentBy conn (.advance k now outcomes)) =
      (if entries.length ≤ 255 then entries else []).map AckEntry.transactionId := by
  rw [declaredIn, declare_writes hk haccept]
  exact congrArg (List.map AckEntry.transactionId) (declared_controlOf entries)

theorem sentBy_returned (hk : s.tasks.get? k = some (.declarePendingSends .returned)) :
    s.sentBy conn (.advance k now outcomes) = [] := by
  have hnone : s.step (.advance k now outcomes) = none := by
    simp only [step, hk, Option.bind_some]
    rfl
  rw [sentBy, hnone]

theorem ids_declarePending (sender : TransactionSender) (now : ℕ) :
    (sender.declarePending now).1.map AckEntry.transactionId = sender.pending.keys := by
  show (sender.pending.toList.map _).map _ = _
  rw [List.map_map, Table.toList, List.map_map]
  rfl

theorem ids_timedOutDeclarations (sender : TransactionSender) (now timeoutMs : ℕ) :
    (sender.timedOutDeclarations now timeoutMs).1.map AckEntry.transactionId =
      (sender.pending.toList.filter fun e => e.2.timedOut now timeoutMs).map Prod.fst := by
  show (List.map _ _).map _ = _
  rw [List.map_map]
  rfl

/-- Retransmission leaves gated copies alone, so it does not change what is
declared again. -/
theorem timedOutDeclarations_dueRetransmissions (sender : TransactionSender) (now timeoutMs : ℕ) :
    ((sender.dueRetransmissions now).2.timedOutDeclarations now timeoutMs).1 =
      (sender.timedOutDeclarations now timeoutMs).1 := by
  have hsame : ∀ txn : PendingTxn, txn.timedOut now timeoutMs = true →
      (txn.dueRetransmissions sender.config now).1 = txn := by
    intro txn htimed
    have hgated : txn.awaitingResume = true := (Bool.and_eq_true_iff.1 htimed).1
    rw [PendingTxn.dueRetransmissions, hgated, Bool.or_true, if_pos rfl]
  have hpick : ∀ txn : PendingTxn,
      (txn.dueRetransmissions sender.config now).1.timedOut now timeoutMs =
        txn.timedOut now timeoutMs := by
    intro txn
    unfold PendingTxn.dueRetransmissions
    split <;> rfl
  show ((Table.toList (sender.pending.mapValues _)).filter _).map _ = _
  rw [Table.toList_mapValues, List.filter_map, List.map_map]
  have hfilter : ∀ l : List (TxId × PendingTxn), l.filter ((fun e : TxId × PendingTxn =>
      e.2.timedOut now timeoutMs) ∘ fun e => (e.1, (e.2.dueRetransmissions sender.config now).1)) =
      l.filter fun e => e.2.timedOut now timeoutMs := by
    intro l
    exact List.filter_congr fun e _ => hpick e.2
  rw [hfilter]
  refine List.map_congr_left fun e he => ?_
  have htimed := (List.mem_filter.1 he).2
  rw [Function.comp_apply, hsame e.2 htimed]

/-- The snapshot gates every pending send, and the task keeps what it is to
declare. -/
theorem snapshot_spec (hk : s.tasks.get? k = some (.declarePendingSends (.snapshot conn)))
    (hstep : s.step (.advance k now outcomes) = some s') :
    (∀ id, s'.state.sender.isAwaitingResume id = true ↔ id ∈ s.state.sender.pending.keys) ∧
      s'.tasks.get? k = some (.declarePendingSends
        (if (s.state.sender.declarePending now).1.isEmpty then .returned
          else .write conn (s.state.sender.declarePending now).1)) := by
  have hadv : s.advanceDeclare k now outcomes (.snapshot conn) = some s' := by
    rw [← hstep]
    simp only [step, hk, Option.bind_some]
    rfl
  have hgated : ∀ id, (s.state.sender.declarePending now).2.isAwaitingResume id = true ↔
      id ∈ s.state.sender.pending.keys := by
    intro id
    rw [Table.mem_keys_iff, TransactionSender.isAwaitingResume, TransactionSender.declarePending,
      TransactionSender.withPending_pending, Table.get?_mapValues]
    cases s.state.sender.pending.get? id with
    | none => simp
    | some txn => simp [PendingTxn.gate]
  simp only [advanceDeclare] at hadv
  split at hadv
  · next hempty =>
    cases hadv
    rw [if_pos hempty]
    exact ⟨hgated, Table.get?_insert_self _ _ _⟩
  · next hsome =>
    cases hadv
    rw [if_neg hsome]
    exact ⟨hgated, Table.get?_insert_self _ _ _⟩

/-- The whole list is declared, or none of it. -/
theorem mem_ids_iff_fits {entries : List AckEntry} {ids : List TxId}
    (hids : entries.map AckEntry.transactionId = ids) :
    (∀ id ∈ ids, id ∈ (if entries.length ≤ 255 then entries else []).map
      AckEntry.transactionId) ↔ ids.length ≤ 255 := by
  have hlen : ids.length = entries.length := by rw [← hids, List.length_map]
  rw [hlen]
  constructor
  · intro hall
    by_contra hmany
    obtain ⟨id, hid⟩ := List.exists_mem_of_length_pos (by omega : 0 < ids.length)
    have hnone := hall id hid
    rw [if_neg hmany] at hnone
    exact absurd hnone List.not_mem_nil
  · intro hfits id hid
    rw [if_pos hfits, hids]
    exact hid

/-- **Gated transactions have been declared**, exactly where the declaration
fits one frame: those `declare_pending_sends` gates at its snapshot, and
those a tick declares again. -/
theorem declared_iff_fits {s s₁ : Session} {k conn now : ℕ} {outcomes : List Bool}
    (hstep : s.step (.advance k now outcomes) = some s₁) :
    (s.tasks.get? k = some (.declarePendingSends (.snapshot conn)) →
      ∀ {s₂ : Session} {now' : ℕ} {outcomes' : List Bool} {acts : List Action},
      run Session.step s₁ acts = some s₂ →
      (∀ a ∈ acts, ∀ now outcomes, a ≠ .advance k now outcomes) →
      (∀ ok ∈ outcomes', ok = true) →
      ((∀ id, s₁.state.sender.isAwaitingResume id = true →
        id ∈ declaredIn (s₂.sentBy conn (.advance k now' outcomes'))) ↔
        s.state.sender.pending.keys.length ≤ 255)) ∧
    (s.tasks.get? k = some (.clock conn .idle) → (∀ ok ∈ outcomes, ok = true) →
      ((∀ id txn, s.state.sender.pending.get? id = some txn →
        txn.timedOut now s.config.resumeVerdictTimeoutMs = true →
        id ∈ declaredIn (s.sentTo conn s₁)) ↔
        (s.state.sender.pending.toList.filter fun e =>
          e.2.timedOut now s.config.resumeVerdictTimeoutMs).length ≤ 255)) := by
  constructor
  · intro hk s₂ now' outcomes' acts hrun hother haccept
    obtain ⟨hgated, hpc⟩ := snapshot_spec hk hstep
    have hpc₂ := declaring_kept_run hrun hother hpc
    have hids := ids_declarePending s.state.sender now
    have hread : declaredIn (s₂.sentBy conn (.advance k now' outcomes')) =
        (if (s.state.sender.declarePending now).1.length ≤ 255
          then (s.state.sender.declarePending now).1 else []).map AckEntry.transactionId := by
      by_cases hempty : (s.state.sender.declarePending now).1.isEmpty
      · -- nothing pending: the task has returned and there is nothing to declare
        rw [if_pos hempty] at hpc₂
        rw [sentBy_returned hpc₂, List.isEmpty_iff.1 hempty]
        rfl
      · rw [if_neg hempty] at hpc₂
        exact declare_reads hpc₂ haccept
    rw [← mem_ids_iff_fits hids, hread]
    exact forall_congr' fun id => imp_congr_left (hgated id)
  · intro hk haccept
    obtain ⟨-, hread, -⟩ := tick_reads hk hstep haccept
    dsimp only at hread
    rw [timedOutDeclarations_dueRetransmissions] at hread
    have hids := ids_timedOutDeclarations s.state.sender now s.config.resumeVerdictTimeoutMs
    rw [hread, ← List.length_map (f := Prod.fst), ← mem_ids_iff_fits hids]
    constructor
    · intro hall id hid
      obtain ⟨⟨id', txn⟩, he, rfl⟩ := List.mem_map.1 hid
      obtain ⟨hmem, htimed⟩ := List.mem_filter.1 he
      exact hall id' txn (Table.mem_toList.1 hmem) htimed
    · intro hall id txn hget htimed
      exact hall id (List.mem_map.2 ⟨(id, txn),
        List.mem_filter.2 ⟨Table.mem_toList.2 hget, htimed⟩, rfl⟩)

namespace Sample

/-- As many ids as a byte has values. -/
def idOf (i : ℕ) : TxId := ⟨UInt8.ofNat i :: List.replicate 15 0, rfl⟩

theorem idOf_injective {i j : ℕ} (hi : i < 256) (hj : j < 256) (h : idOf i = idOf j) : i = j := by
  have hbyte : UInt8.ofNat i = UInt8.ofNat j := (List.cons.inj (congrArg Subtype.val h)).1
  have hnat := congrArg UInt8.toNat hbyte
  rw [UInt8.toNat_ofNat', UInt8.toNat_ofNat'] at hnat
  omega

/-- Open that many sinks of one byte. -/
def opening (n : ℕ) : List Action := (List.range n).map fun i => .openBinarySink (idOf i) 1 0

/-- A wired session whose task 2 is about to take its declaration. -/
def declaring : List Action :=
  wireUp 0 0 1 0 ++ [.start 2 .declarePendingSends, .advance 2 0 []]

theorem opening_succ (n : ℕ) : opening (n + 1) = opening n ++ [.openBinarySink (idOf n) 1 0] := by
  rw [opening, List.range_succ, List.map_append]
  rfl

theorem step_opening {s : Session} {id : TxId} (hnew : id ∉ s.state.sender.pending.keys) :
    ∃ s' txn, s.step (.openBinarySink id 1 0) = some s' ∧ s'.tasks = s.tasks ∧
      s'.state.sender.pending = s.state.sender.pending.insert id txn := by
  have hfresh : s.state.sender.pending.contains id = false := by
    rw [Bool.eq_false_iff]
    exact fun hc => hnew (Table.mem_keys_iff.2 (Table.contains_iff.1 hc))
  have hopen : ∃ txn, s.state.sender.openTransaction id 1 0 =
      (.ok (), s.state.sender.withPending (s.state.sender.pending.insert id txn)) := by
    rw [TransactionSender.openTransaction, hfresh]
    exact ⟨_, rfl⟩
  obtain ⟨txn, hopen⟩ := hopen
  simp only [step, hopen]
  exact ⟨_, txn, rfl, rfl, rfl⟩

theorem keys_insert_new {α : Type} {t : Table TxId α} {id : TxId} (hnew : id ∉ t.keys) (v : α) :
    (t.insert id v).keys = id :: t.keys :=
  (AList.keys_insert t).trans (by rw [List.erase_of_not_mem hnew])

/-- Each sink is one more pending send. -/
theorem run_opening {s : Session} (hnone : s.state.sender.pending.keys = []) {n : ℕ}
    (hn : n ≤ 256) :
    ∃ s', run Session.step s (opening n) = some s' ∧ s'.tasks = s.tasks ∧
      s'.state.sender.pending.keys.length = n ∧
      ∀ id ∈ s'.state.sender.pending.keys, ∃ i < n, id = idOf i := by
  induction n with
  | zero =>
    refine ⟨s, rfl, rfl, ?_, ?_⟩ <;> rw [hnone]
    · exact List.length_nil
    · exact fun id hid => absurd hid List.not_mem_nil
  | succ n ih =>
    obtain ⟨s₁, hrun, htasks, hcount, hids⟩ := ih (by omega)
    have hnew : idOf n ∉ s₁.state.sender.pending.keys := by
      intro hmem
      obtain ⟨i, hi, heq⟩ := hids _ hmem
      have := idOf_injective (by omega) (by omega) heq
      omega
    obtain ⟨s₂, txn, hstep, htasks₂, hpending⟩ := step_opening hnew
    have hkeys : s₂.state.sender.pending.keys = idOf n :: s₁.state.sender.pending.keys := by
      rw [hpending]
      exact keys_insert_new hnew txn
    refine ⟨s₂, ?_, htasks₂.trans htasks, ?_, ?_⟩
    · rw [opening_succ]
      exact run_snoc hrun hstep
    · rw [hkeys, List.length_cons, hcount]
    · intro id hid
      rw [hkeys] at hid
      rcases List.mem_cons.1 hid with rfl | hid
      · exact ⟨n, by omega, rfl⟩
      · obtain ⟨i, hi, heq⟩ := hids id hid
        exact ⟨i, by omega, heq⟩

/-- One sink is open when the declaration is taken. -/
def atSnapshot : Session := (run step (new {} 0) (declaring ++ opening 1)).getD (new {} 0)

/-- The same session with its declaration taken. -/
def gated : Session := (atSnapshot.step (.advance 2 0 [])).getD atSnapshot

/-- The clock ticks past the verdict timeout. -/
def redeclared : Session := (gated.step (.advance 1 3000 [])).getD gated

end Sample

theorem declared_iff_fits_sample :
    run step (new {} 0) (Sample.declaring ++ Sample.opening 1) = some Sample.atSnapshot ∧
      (Sample.gated.state.sender.isAwaitingResume (Sample.idOf 0) = true ∧
        Sample.idOf 0 ∈ declaredIn (Sample.gated.sentBy 0 (.advance 2 0 []))) ∧
      Sample.idOf 0 ∈ declaredIn (Sample.gated.sentTo 0 Sample.redeclared) := by
  have hrun : run step (new {} 0) (Sample.declaring ++ Sample.opening 1) =
      some Sample.atSnapshot := Option.eq_some_iff_get_eq.2 ⟨by decide, rfl⟩
  have hsnap : Sample.atSnapshot.step (.advance 2 0 []) = some Sample.gated :=
    Option.eq_some_iff_get_eq.2 ⟨by decide, rfl⟩
  have htick : Sample.gated.step (.advance 1 3000 []) = some Sample.redeclared :=
    Option.eq_some_iff_get_eq.2 ⟨by decide, rfl⟩
  have haccept : ∀ ok ∈ ([] : List Bool), ok = true := List.forall_mem_nil _
  have hk : Sample.atSnapshot.tasks.get? 2 = some (.declarePendingSends (.snapshot 0)) := by decide
  have hclock : Sample.gated.tasks.get? 1 = some (.clock 0 .idle) := by decide
  have hall : ∀ id, Sample.gated.state.sender.isAwaitingResume id = true →
      id ∈ declaredIn (Sample.gated.sentBy 0 (.advance 2 0 [])) :=
    ((declared_iff_fits hsnap).1 hk run_nil (List.forall_mem_nil _) haccept).2
      (by decide)
  have hagain := ((declared_iff_fits htick).2 hclock haccept).2 (by decide)
  have hgated : Sample.gated.state.sender.isAwaitingResume (Sample.idOf 0) = true := by decide
  obtain ⟨txn, hget, htimed⟩ : ∃ txn,
      Sample.gated.state.sender.pending.get? (Sample.idOf 0) = some txn ∧
        txn.timedOut 3000 Sample.gated.config.resumeVerdictTimeoutMs = true := by decide
  exact ⟨hrun, ⟨hgated, hall _ hgated⟩, hagain _ _ hget htimed⟩

/-- **256 pending sends**: the snapshot gates them all, and the task writes
nothing, although the transport would have taken it. -/
theorem gated_and_undeclared :
    ∃ s s₁, run step (new {} 0) (Sample.declaring ++ Sample.opening 256) = some s ∧
      s.tasks.get? 2 = some (.declarePendingSends (.snapshot 0)) ∧
      s.step (.advance 2 0 []) = some s₁ ∧
      (∃ id, s₁.state.sender.isAwaitingResume id = true) ∧
      declaredIn (s₁.sentBy 0 (.advance 2 0 [])) = [] := by
  obtain ⟨s₀, hrun₀, hnone, hat⟩ : ∃ s₀, run step (new {} 0) Sample.declaring = some s₀ ∧
      s₀.state.sender.pending.keys = [] ∧
      s₀.tasks.get? 2 = some (.declarePendingSends (.snapshot 0)) :=
    ⟨_, Option.eq_some_iff_get_eq.2 ⟨by decide, rfl⟩, by decide, by decide⟩
  obtain ⟨s, hrun, htasks, hcount, -⟩ := Sample.run_opening hnone (le_refl 256)
  have hk : s.tasks.get? 2 = some (.declarePendingSends (.snapshot 0)) := by
    rw [htasks]
    exact hat
  obtain ⟨s₁, hsnap⟩ : ∃ s₁, s.step (.advance 2 0 []) = some s₁ := by
    simp only [step, hk, Option.bind_some, advance, advanceDeclare]
    split <;> exact ⟨_, rfl⟩
  obtain ⟨hgated, hpc⟩ := snapshot_spec hk hsnap
  have hlen : (s.state.sender.declarePending 0).1.length = 256 := by
    have hids := congrArg List.length (ids_declarePending s.state.sender 0)
    rw [List.length_map] at hids
    exact hids.trans hcount
  refine ⟨s, s₁, ?_, hk, hsnap, ?_, ?_⟩
  · rw [run_append, hrun₀, Option.bind_some, hrun]
  · obtain ⟨id, hid⟩ := List.exists_mem_of_length_pos
      (by omega : 0 < s.state.sender.pending.keys.length)
    exact ⟨id, (hgated id).2 hid⟩
  · have hmore : (s.state.sender.declarePending 0).1.isEmpty = false := by
      rw [List.isEmpty_eq_false_iff, ← List.length_pos_iff]
      omega
    rw [hmore] at hpc
    rw [declare_reads hpc (List.forall_mem_nil _), hlen]
    rfl

namespace Sample

/-- The first of two bytes of that many transactions arrive. -/
def arriving (n : ℕ) : List Action :=
  (List.range n).map fun i => .inbound 0 (dataFrame (idOf i) 2 0 [7]) 0 []

theorem arriving_succ (n : ℕ) :
    arriving (n + 1) = arriving n ++ [.inbound 0 (dataFrame (idOf n) 2 0 [7]) 0 []] := by
  rw [arriving, List.range_succ, List.map_append]
  rfl

/-- The slot a first frame leaves. -/
def firstStored : Slot := (Slot.opened 2).store 0 [7]

theorem handleInbound_first {st : SessionState} {id : TxId}
    (hslot : st.reassembler.slots.get? id = none) (hcount : st.pendingAckFrames.get? id = none) :
    (handleInbound st (dataFrame id 2 0 [7]) false false 0 []).st.pendingAckFrames =
        st.pendingAckFrames.insert id 1 ∧
      (handleInbound st (dataFrame id 2 0 [7]) false false 0 []).st.reassembler.slots =
        (st.reassembler.slots.insert id (Slot.opened 2)).insert id firstStored := by
  have hnone : st.reassembler.slots.contains id = false := by
    rw [Table.contains, hslot]
    rfl
  have hreceive : st.reassembler.receiveFrame id 0 2 1 [7] false = (.ok (.accepted false []),
      ⟨(st.reassembler.slots.insert id (Slot.opened 2)).insert id firstStored⟩) := by
    rw [TransactionReassembler.receiveFrame, hslot, hnone]
    rfl
  have hfirst : handleInbound st (dataFrame id 2 0 [7]) false false 0 [] =
      ((Handling.start (st.touch 0) []).withState ((st.touch 0).withReassembler
        ⟨(st.reassembler.slots.insert id (Slot.opened 2)).insert id firstStored⟩)).dataAccepted
        (dataFrame id 2 0 [7]) false false [] false := by
    show (Handling.start (st.touch 0) []).onDataFrame (dataFrame id 2 0 [7]) false false = _
    exact Handling.onDataFrame_of_accepted _ hreceive
  rw [hfirst]
  have haccount : (st.pendingAckFrames.get? id).getD 0 + 1 = 1 := by
    rw [hcount]
    rfl
  constructor
  · refine (SessionState.pendingAckFrames_onStream _ _).trans ?_
    exact congrArg (Table.insert st.pendingAckFrames id) haccount
  · exact congrArg TransactionReassembler.slots (SessionState.reassembler_onStream _)

theorem step_arriving {s : Session} {id : TxId} (hconn : 0 ∈ s.hooked)
    (hbinary : s.binaryHandler = false) (hstream : s.streamHandler = false)
    (hslot : s.state.reassembler.slots.get? id = none)
    (hcount : s.state.pendingAckFrames.get? id = none) :
    ∃ s', s.step (.inbound 0 (dataFrame id 2 0 [7]) 0 []) = some s' ∧ s'.tasks = s.tasks ∧
      s'.config = s.config ∧ s'.hooked = s.hooked ∧ s'.binaryHandler = false ∧
      s'.streamHandler = false ∧
      s'.state.pendingAckFrames = s.state.pendingAckFrames.insert id 1 ∧
      ∀ id', s'.state.reassembler.slots.get? id' =
        if id' = id then some firstStored else s.state.reassembler.slots.get? id' := by
  obtain ⟨hbook, hslots⟩ := handleInbound_first hslot hcount
  refine ⟨s.receive 0 (dataFrame id 2 0 [7]) 0 [], if_pos hconn, s.tasks_receive _ _ _ _, rfl, rfl,
    hbinary, hstream, ?_, fun id' => ?_⟩
  · rw [receive_state, hbinary, hstream]
    exact hbook
  · rw [receive_state, hbinary, hstream, hslots, Table.get?_insert, Table.get?_insert]
    split <;> rfl

/-- Each first frame is one more transaction to acknowledge. -/
structure Arrived (s : Session) (n : ℕ) (s' : Session) : Prop where
  tasks : s'.tasks = s.tasks
  config : s'.config = s.config
  hooked : s'.hooked = s.hooked
  binary : s'.binaryHandler = false
  stream : s'.streamHandler = false
  count : s'.state.pendingAckFrames.keys.length = n
  sum : s'.state.pendingAckFrames.values.sum = n
  ids : ∀ id ∈ s'.state.pendingAckFrames.keys, ∃ i < n, id = idOf i
  stored : ∀ id ∈ s'.state.pendingAckFrames.keys,
    s'.state.reassembler.slots.get? id = some firstStored
  others : ∀ id, id ∉ s'.state.pendingAckFrames.keys → s'.state.reassembler.slots.get? id = none

theorem run_arriving {s : Session} (hs : Arrived s 0 s) (hconn : 0 ∈ s.hooked) {n : ℕ}
    (hn : n ≤ 256) : ∃ s', run Session.step s (arriving n) = some s' ∧ Arrived s n s' := by
  induction n with
  | zero => exact ⟨s, rfl, hs⟩
  | succ n ih =>
    obtain ⟨s₁, hrun, h₁⟩ := ih (by omega)
    have hnew : idOf n ∉ s₁.state.pendingAckFrames.keys := by
      intro hmem
      obtain ⟨i, hi, heq⟩ := h₁.ids _ hmem
      have := idOf_injective (by omega) (by omega) heq
      omega
    have hfresh : s₁.state.pendingAckFrames.get? (idOf n) = none := by
      rw [← Option.not_isSome_iff_eq_none]
      exact fun hc => hnew (Table.mem_keys_iff.2 (Option.isSome_iff_exists.1 hc))
    obtain ⟨s₂, hstep, htasks, hconfig, hhooked, hbinary, hstream, hbook, hslots⟩ :=
      step_arriving (h₁.hooked ▸ hconn) h₁.binary h₁.stream (h₁.others _ hnew) hfresh
    have hkeys : s₂.state.pendingAckFrames.keys = idOf n :: s₁.state.pendingAckFrames.keys := by
      rw [hbook]
      exact keys_insert_new hnew 1
    have hvalues : s₂.state.pendingAckFrames.values = 1 :: s₁.state.pendingAckFrames.values := by
      rw [hbook, Table.values, Table.toList, Table.insert, AList.entries_insert_of_notMem hnew]
      rfl
    refine ⟨s₂, ?_, htasks.trans h₁.tasks, hconfig.trans h₁.config, hhooked.trans h₁.hooked,
      hbinary, hstream, ?_, ?_, ?_, ?_, ?_⟩
    · rw [arriving_succ]
      exact run_snoc hrun hstep
    · rw [hkeys, List.length_cons, h₁.count]
    · rw [hvalues, List.sum_cons, h₁.sum]
      omega
    · intro id hid
      rw [hkeys] at hid
      rcases List.mem_cons.1 hid with rfl | hid
      · exact ⟨n, by omega, rfl⟩
      · obtain ⟨i, hi, heq⟩ := h₁.ids id hid
        exact ⟨i, by omega, heq⟩
    · intro id hid
      rw [hslots]
      split
      · rfl
      · next hne =>
        rw [hkeys] at hid
        exact h₁.stored id ((List.mem_cons.1 hid).resolve_left hne)
    · intro id hid
      rw [hkeys, List.mem_cons, not_or] at hid
      rw [hslots, if_neg hid.1]
      exact h₁.others id hid.2

/-- Every frame is a batch. -/
def eager : TransferConfig := { ackBatchFrames := 1 }

/-- One first frame has arrived. -/
def arrived : Session :=
  (run step (new eager 0) (wireUp 0 0 1 0 ++ arriving 1)).getD (new eager 0)

def acknowledged : Session := (arrived.step (.advance 1 100 [])).getD arrived

end Sample

theorem exported_iff_fits_sample :
    run step (new Sample.eager 0) (wireUp 0 0 1 0 ++ Sample.arriving 1) = some Sample.arrived ∧
      Sample.arrived.state.pendingAckFrames.contains (Sample.idOf 0) = true ∧
      Sample.acknowledged.state.pendingAckFrames.contains (Sample.idOf 0) = false ∧
      ∃ entry ∈ acknowledgedIn (Sample.arrived.sentTo 0 Sample.acknowledged),
        Sample.arrived.state.reassembler.ackEntry (Sample.idOf 0) = some entry := by
  have hrun : run step (new Sample.eager 0) (wireUp 0 0 1 0 ++ Sample.arriving 1) =
      some Sample.arrived :=
    Option.eq_some_iff_get_eq.2 ⟨by decide, rfl⟩
  have htick : Sample.arrived.step (.advance 1 100 []) = some Sample.acknowledged :=
    Option.eq_some_iff_get_eq.2 ⟨by decide, rfl⟩
  have hclock : Sample.arrived.tasks.get? 1 = some (.clock 0 .idle) := by decide
  have hwas : Sample.arrived.state.pendingAckFrames.contains (Sample.idOf 0) = true := by decide
  have hgone : Sample.acknowledged.state.pendingAckFrames.contains (Sample.idOf 0) = false := by
    decide
  have hall := (exported_iff_fits hclock htick (List.forall_mem_nil _)).2
    (by decide)
  exact ⟨hrun, hwas, hgone, hall _ hwas hgone⟩

/-- **256 transactions to acknowledge**: the tick clears their accounting and
acknowledges none of them, although the transport would have taken it. -/
theorem cleared_and_unacknowledged :
    ∃ s s', run step (new {} 0) (wireUp 0 0 1 0 ++ Sample.arriving 256) = some s ∧
      s.tasks.get? 1 = some (.clock 0 .idle) ∧ s.step (.advance 1 1000 []) = some s' ∧
      (∃ id, s.state.pendingAckFrames.contains id = true ∧
        s'.state.pendingAckFrames.contains id = false) ∧
      acknowledgedIn (s.sentTo 0 s') = [] := by
  obtain ⟨s₀, hrun₀, hs₀, hconn, hat, hconfig₀⟩ : ∃ s₀,
      run step (new {} 0) (wireUp 0 0 1 0) = some s₀ ∧ Sample.Arrived s₀ 0 s₀ ∧ 0 ∈ s₀.hooked ∧
      s₀.tasks.get? 1 = some (.clock 0 .idle) ∧ s₀.config = {} :=
    ⟨_, Option.eq_some_iff_get_eq.2 ⟨by decide, rfl⟩,
      ⟨rfl, rfl, rfl, rfl, rfl, rfl, rfl, fun id hid => absurd hid List.not_mem_nil,
        fun id hid => absurd hid List.not_mem_nil, fun id _ => rfl⟩, by decide, by decide, rfl⟩
  obtain ⟨s, hrun, hs⟩ := Sample.run_arriving hs₀ hconn (le_refl 256)
  have hclock : s.tasks.get? 1 = some (.clock 0 .idle) := by
    rw [hs.tasks]
    exact hat
  obtain ⟨s', hstep⟩ : ∃ s', s.step (.advance 1 1000 []) = some s' := by
    simp only [step, hclock, Option.bind_some, advance, advanceClock]
    split <;> exact ⟨_, rfl⟩
  obtain ⟨hread, -, hbook⟩ := tick_reads hclock hstep (List.forall_mem_nil _)
  have hdue : ackBatchDue s.config s.state 1000 := by
    refine .inl ?_
    rw [hs.sum, hs.config, hconfig₀]
    decide
  have hall : s.state.exportable = s.state.pendingAckFrames.keys := by
    refine List.filter_eq_self.2 fun id hid => ?_
    rw [TransactionReassembler.ackEntry, hs.stored id hid]
    rfl
  have hlen : (Handling.exported s.state s.config 1000).length = 256 := by
    have hexported : Handling.exported s.state s.config 1000 =
        s.state.pendingAckFrames.keys.filterMap s.state.reassembler.ackEntry := if_pos hdue
    rw [hexported, ← length_exportable, hall, hs.count]
  refine ⟨s, s', ?_, hclock, hstep, ?_, ?_⟩
  · rw [run_append, hrun₀, Option.bind_some, hrun]
  · obtain ⟨id, hid⟩ := List.exists_mem_of_length_pos
      (by rw [hs.count]; omega : 0 < s.state.pendingAckFrames.keys.length)
    have hwas := Table.contains_iff.2 (Table.mem_keys_iff.1 hid)
    refine ⟨id, hwas, ?_⟩
    rw [hbook, contains_exportAcks, decide_eq_true ⟨hdue, hall ▸ hid⟩, Bool.not_true,
      Bool.and_false]
  · rw [hread]
    exact if_neg (by rw [hlen]; omega)

end Session

end Transfer

end Xacpp
