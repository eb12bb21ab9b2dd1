import Xacpp.Link.Model
import Xacpp.Transfer.Batches
import Xacpp.Transfer.Sending
/-!
# Replies

The frames a locked section writes, each with its reason: `Ticks` for the
clock, `Replies` for the handling of a frame. And what the peer reads back
out of a control frame: the very entries it was made from.
-/

namespace Xacpp

open Reliability

/-- The frame is one of a held copy. -/
def Reliability.TransactionSender.Copies (sender : TransactionSender) (f : Frame) : Prop :=
  ∃ id txn, sender.pending.get? id = some txn ∧ some f ∈ txn.frames

namespace Transfer

/-! ## Reading a control frame back -/

theorem declaration_of_mem_controlOf {entries declared : List AckEntry} {f : Frame}
    (hf : f ∈ controlOf .resume (encodeResumeRequest entries))
    (hread : declaration? f = some declared) : declared = entries := by
  obtain ⟨bytes, hbytes, rfl⟩ := mem_controlOf.1 hf
  rw [declaration?, if_pos (controlFrame_frameType _ _), controlFrame_payload,
    decodeResumeRequest_encodeResumeRequest hbytes] at hread
  exact (Option.some.inj (Option.filter_eq_some_iff.1 hread).1).symm

theorem response_of_mem_controlOf {entries answered : List ResumeStatusEntry} {f : Frame}
    (hf : f ∈ controlOf .resumeResponse (encodeResumeResponse entries))
    (hread : response? f = some answered) : answered = entries := by
  obtain ⟨bytes, hbytes, rfl⟩ := mem_controlOf.1 hf
  rw [response?, if_pos (controlFrame_frameType _ _), controlFrame_payload,
    decodeResumeResponse_encodeResumeResponse hbytes] at hread
  exact (Option.some.inj hread).symm

theorem acknowledged_of_mem_controlOf {entries acked : List AckEntry} {f : Frame}
    (hf : f ∈ controlOf .ack (encodeAckPayload entries))
    (hread : acknowledged? f = some acked) : acked = entries := by
  obtain ⟨bytes, hbytes, rfl⟩ := mem_controlOf.1 hf
  rw [acknowledged?, if_pos (controlFrame_frameType _ _), controlFrame_payload, decodeAckPayload,
    (exact_ackEntries 1).reads entries bytes hbytes] at hread
  exact (Option.some.inj hread).symm

theorem frameType_of_declaration {f : Frame} {declared : List AckEntry}
    (h : declaration? f = some declared) : f.frameType = .resume := by
  unfold declaration? at h
  split at h
  · next htype => exact htype
  · cases h

theorem frameType_of_response {f : Frame} {answered : List ResumeStatusEntry}
    (h : response? f = some answered) : f.frameType = .resumeResponse := by
  unfold response? at h
  split at h
  · next htype => exact htype
  · cases h

theorem frameType_of_acknowledged {f : Frame} {acked : List AckEntry}
    (h : acknowledged? f = some acked) : f.frameType = .ack := by
  unfold acknowledged? at h
  split at h
  · next htype => exact htype
  · cases h

/-! ## The writes of a section -/

namespace Handling

variable {h h' h'' : Handling} {frame f : Frame} {P Q : Frame → Prop}

/-- Every frame the section writes has the property. -/
def Adds (P : Frame → Prop) (h h' : Handling) : Prop :=
  ∃ ws, h'.port.writes = h.port.writes ++ ws ∧ ∀ w ∈ ws, P w.frame

theorem Adds.of_port (hport : h'.port = h.port) : Adds P h h' :=
  ⟨[], by rw [hport, List.append_nil], List.forall_mem_nil _⟩

/-- What a section on a fresh port has written. -/
theorem Adds.mem {st : SessionState} {outcomes : List Bool} {w : Write}
    (h : Adds P (.start st outcomes) h') (hw : w ∈ h'.port.writes) : P w.frame := by
  obtain ⟨ws, heq, hall⟩ := h
  rw [heq] at hw
  exact hall w hw

theorem Adds.trans (h₁ : Adds P h h') (h₂ : Adds P h' h'') : Adds P h h'' := by
  obtain ⟨ws₁, heq₁, hall₁⟩ := h₁
  obtain ⟨ws₂, heq₂, hall₂⟩ := h₂
  refine ⟨ws₁ ++ ws₂, by rw [heq₂, heq₁, List.append_assoc], fun w hw => ?_⟩
  exact (List.mem_append.1 hw).elim (hall₁ w) (hall₂ w)

theorem Adds.mono (hadds : Adds P h h') (hPQ : ∀ f, P f → Q f) : Adds Q h h' := by
  obtain ⟨ws, heq, hall⟩ := hadds
  exact ⟨ws, heq, fun w hw => hPQ w.frame (hall w hw)⟩

theorem adds_writeControl (h : Handling) (frameType : FrameType)
    (payload : Except ControlError Bytes) :
    Adds (· ∈ controlOf frameType payload) h (h.writeControl frameType payload) := by
  cases payload with
  | error e => exact .of_port rfl
  | ok bytes =>
    refine ⟨[_], rfl, fun w hw => ?_⟩
    rw [List.mem_singleton.1 hw]
    exact mem_controlOf.2 ⟨bytes, rfl, rfl⟩

theorem adds_sendAckEntries (h : Handling) (entries : List AckEntry) :
    Adds (· ∈ controlOf .ack (encodeAckPayload entries)) h (h.sendAckEntries entries) := by
  unfold sendAckEntries
  split
  · exact .of_port rfl
  · exact h.adds_writeControl _ _

/-! ### The clock -/

/-- **What a tick writes.** -/
inductive Ticks (st : SessionState) (config : TransferConfig) (now : ℕ) (f : Frame) : Prop
  | acked (hf : f ∈ controlOf .ack (encodeAckPayload (exported st config now)))
  | nacked (htype : f.frameType = .nack)
  | due (hf : f ∈ (st.sender.dueRetransmissions now).1)
  | redeclared (hf : f ∈ redeclared (st.sender.dueRetransmissions now).2 config now)
  | beat (htype : f.frameType = .heartbeat)

theorem adds_exportAcks (h : Handling) (config : TransferConfig) (now : ℕ) :
    Adds (· ∈ controlOf .ack (encodeAckPayload (exported h.st config now))) h
      (h.exportAcks config now) := by
  unfold exportAcks exported
  dsimp only
  split
  · exact adds_sendAckEntries (h.withState _) _
  · exact .of_port rfl

theorem adds_nackFeedback (h : Handling) (config : TransferConfig) (now : ℕ) :
    Adds (fun f => f.frameType = .nack) h (h.nackFeedback config now) := by
  refine h.nackFeedback_rel config now (fun _ => .of_port rfl) (fun _ _ _ => Adds.trans)
    (fun h payload => ?_) (.of_port rfl)
  exact (h.adds_writeControl _ _).mono fun _ hf => frameType_of_mem_controlOf hf

theorem adds_redeclare (h : Handling) (config : TransferConfig) (now : ℕ) :
    Adds (· ∈ redeclared h.st.sender config now) h (h.redeclare config now) := by
  unfold redeclare redeclared
  dsimp only
  split
  · exact .of_port rfl
  · exact adds_writeControl (h.withState _) _ _

theorem adds_heartbeat (h : Handling) (config : TransferConfig) (now : ℕ) :
    Adds (fun f => f.frameType = .heartbeat) h (h.heartbeat config now) := by
  unfold heartbeat
  dsimp only
  split
  · exact (adds_writeControl (h.withState _) _ _).mono fun _ hf => frameType_of_mem_controlOf hf
  · exact .of_port rfl

theorem adds_tick (h : Handling) (config : TransferConfig) (now : ℕ) :
    Adds (Ticks h.st config now) h (h.tick config now).2 := by
  have hacks : Adds (Ticks h.st config now) h (h.exportAcks config now) :=
    (h.adds_exportAcks config now).mono fun _ hf => .acked hf
  have hnacks : Adds (Ticks h.st config now) (h.exportAcks config now)
      ((h.exportAcks config now).nackFeedback config now) :=
    ((h.exportAcks config now).adds_nackFeedback config now).mono fun _ hf => .nacked hf
  have hsender := ((h.exportAcks_quiet config now).1.trans
    ((h.exportAcks config now).nackFeedback_quiet config now).1).sender
  have hfirst := hacks.trans hnacks
  unfold tick
  dsimp only
  generalize (h.exportAcks config now).nackFeedback config now = h₁ at hsender hfirst
  have hdue : Adds (Ticks h.st config now) h₁ (h₁.retransmitDue now).2 := by
    obtain ⟨ws, heq, hall⟩ := writeAll_writes h₁.port (h₁.st.sender.dueRetransmissions now).1
    refine ⟨ws, heq, fun w hw => .due ?_⟩
    rw [← hsender]
    exact hall w hw
  have hleft : (h₁.retransmitDue now).2.st.sender = (h.st.sender.dueRetransmissions now).2 := by
    rw [← hsender]
    rfl
  generalize h₁.retransmitDue now = r at hdue hleft
  obtain ⟨ok, h₂⟩ := r
  cases ok with
  | false => exact hfirst.trans hdue
  | true =>
    have hre : Adds (Ticks h.st config now) h₂ (h₂.redeclare config now) := by
      refine (h₂.adds_redeclare config now).mono fun f hf => .redeclared ?_
      rw [← hleft]
      exact hf
    exact ((hfirst.trans hdue).trans hre).trans
      (((h₂.redeclare config now).adds_heartbeat config now).mono fun _ hf => .beat hf)

/-! ### Frames -/

/-- **What the handling of a frame writes**, given the state before and the
state after. -/
inductive Replies (st st' : SessionState) (frame f : Frame) : Prop
  /-- The final ACK of a transaction the frame completes. -/
  | final {entry : AckEntry} {emit : Bool} (htype : frame.frameType = .dataBinary)
      (hentry : (st.reassembler.receive frame emit).2.ackEntry frame.transactionId = some entry)
      (hdone : st'.awaits frame.transactionId = false)
      (hf : f ∈ controlOf .ack (encodeAckPayload [entry]))
  | resent (hf : st.sender.Copies f)
  | verdicts {declared : List AckEntry} (hdecl : declaration? frame = some declared)
      (hf : f ∈ controlOf .resumeResponse (encodeResumeResponse (declared.map fun entry =>
        ⟨entry.transactionId, verdictFor st.reassembler entry.transactionId⟩)))

theorem awaits_eq_false_iff {st : SessionState} {id : TxId} :
    st.awaits id = false ↔
      ∀ slot, st.reassembler.slots.get? id = some slot → slot.isComplete = true := by
  unfold SessionState.awaits TransactionReassembler.containsTransaction
    TransactionReassembler.isComplete Table.contains
  cases hget : st.reassembler.slots.get? id with
  | none | some slot => simp

theorem awaits_iff {st : SessionState} {id : TxId} :
    st.awaits id = true ↔
      ∃ slot, st.reassembler.slots.get? id = some slot ∧ slot.isComplete = false := by
  rw [← Bool.not_eq_false, awaits_eq_false_iff]
  push Not
  simp only [ne_eq, Bool.not_eq_true]

theorem adds_finalAck (h : Handling) (txid : TxId) :
    Adds (fun f => ∃ entry, h.st.reassembler.ackEntry txid = some entry ∧
      f ∈ controlOf .ack (encodeAckPayload [entry])) h (h.finalAck txid) := by
  unfold finalAck
  cases hentry : h.st.reassembler.ackEntry txid with
  | none => exact .of_port rfl
  | some entry =>
    have hsent := h.adds_sendAckEntries [entry]
    exact (hsent.mono fun f hf => ⟨entry, rfl, hf⟩).trans (.of_port rfl)

theorem port_handOver (h : Handling) (txid : TxId) (handlerPresent : Bool) :
    (h.handOver txid handlerPresent).port = h.port := by
  unfold handOver
  split
  · rfl
  · split
    · split
      · rfl
      · rfl
    · rfl

theorem port_streamAccepted (h : Handling) (frame : Frame) (opensStream : Bool)
    (emitted : List (ℕ × Bytes)) :
    (h.streamAccepted frame opensStream emitted).port = h.port := by
  unfold streamAccepted
  split
  · rfl
  · rfl

/-- An accepted frame is answered where it completes its transaction. -/
theorem adds_dataAccepted (h : Handling) (frame : Frame) (opensStream complete : Bool)
    (emitted : List (ℕ × Bytes)) (handlerPresent : Bool) :
    Adds (fun f => complete = true ∧ ∃ entry,
        h.st.reassembler.ackEntry frame.transactionId = some entry ∧
          f ∈ controlOf .ack (encodeAckPayload [entry])) h
      (h.dataAccepted frame opensStream complete emitted handlerPresent) := by
  have hfed : ∀ st, ((h.withState st).streamAccepted frame opensStream emitted).port = h.port :=
    fun st => (h.withState st).port_streamAccepted frame opensStream emitted
  unfold dataAccepted
  dsimp only
  cases complete with
  | false => exact .of_port (hfed _)
  | true =>
    generalize hst : h.st.withPendingAckFrames _ = st
    have hslots : ((h.withState st).streamAccepted frame opensStream emitted).st.reassembler =
        h.st.reassembler := by
      rw [((h.withState st).streamAccepted_spec frame opensStream emitted).2.1, ← hst]
      rfl
    have hfirst : ∀ P, Adds P h ((h.withState st).streamAccepted frame opensStream emitted) :=
      fun P => .of_port (hfed st)
    refine ((hfirst _).trans ((adds_finalAck _ _).mono fun f hf => ⟨rfl, ?_⟩)).trans
      (.of_port (port_handOver _ _ _))
    rw [hslots] at hf
    exact hf

theorem adds_onDataFrame (h : Handling) (htype : frame.frameType = .dataBinary)
    (handlerPresent streamPresent : Bool) :
    Adds (Replies h.st (h.onDataFrame frame handlerPresent streamPresent).st frame) h
      (h.onDataFrame frame handlerPresent streamPresent) := by
  have hfeeds := TransactionReassembler.receive_feeds h.st.reassembler frame streamPresent
  rw [TransactionReassembler.receive] at hfeeds
  generalize hreceive : h.st.reassembler.receiveFrame frame.transactionId frame.seq frame.totalLen
    frame.payload.length frame.payload streamPresent = res at hfeeds
  have hquiet : ∀ {e r}, res = (.error e, r) →
      Adds (Replies h.st (h.onDataFrame frame handlerPresent streamPresent).st frame) h
        (h.onDataFrame frame handlerPresent streamPresent) := by
    rintro e r rfl
    refine .of_port ?_
    simp only [onDataFrame, hreceive]
    rfl
  cases hfeeds with
  | refused | overlong hnone hseq => exact hquiet rfl
  | dropped hnone hseq | duplicate hget =>
    refine .of_port ?_
    simp only [onDataFrame, hreceive]
    rfl
  | @stored slot emitted r' hslot hroom hget hothers hnew =>
    rw [onDataFrame_of_accepted handlerPresent hreceive]
    have hstored : ∀ P, Adds P h (h.withState (h.st.withReassembler r')) := fun P => .of_port rfl
    refine (hstored _).trans ((adds_dataAccepted _ _ _ _ _ _).mono ?_)
    rintro f ⟨hcomplete, entry, hentry, hf⟩
    have hfed : (h.st.reassembler.receive frame streamPresent).2.ackEntry frame.transactionId =
        some entry := by
      rw [TransactionReassembler.receive, hreceive]
      exact hentry
    refine .final htype hfed (awaits_eq_false_iff.2 fun slot' hget' => ?_) hf
    obtain ⟨-, hrest⟩ := (h.withState (h.st.withReassembler r')).dataAccepted_spec frame
      (streamPresent && decide (frame.seq = 0) &&
        !h.st.reassembler.containsTransaction frame.transactionId)
      (slot.store frame.seq.toNat frame.payload).isComplete emitted handlerPresent
    -- the completed slot is still there, or was handed over
    rcases hrest with ⟨hr, -⟩ | ⟨hr, -⟩
    · rw [hr] at hget'
      change r'.slots.get? frame.transactionId = some slot' at hget'
      rw [hget, Option.some.injEq] at hget'
      exact hget' ▸ hcomplete
    · rw [hr, Table.get?_erase_self] at hget'
      cases hget'

theorem Heeds.adds {h' : Handling} (hheeds : Heeds h frame h') (st' : SessionState) :
    Adds (Replies h.st st' frame) h h' := by
  cases hheeds with
  | adjudicated hread =>
    exact (adds_writeControl (h.withState _) _ _).mono fun f hf => .verdicts hread hf
  | _ => exact .of_port rfl

theorem adds_onResumeResponseFrame (h : Handling) (frame : Frame) (now : ℕ) (st' : SessionState) :
    Adds (Replies h.st st' frame) h (h.onResumeResponseFrame frame now) := by
  cases hdec : decodeResumeResponse frame.payload with
  | error e =>
    simp only [onResumeResponseFrame, hdec]
    exact .of_port rfl
  | ok entries =>
    have hruled : Adds (Replies h.st st' frame) h (h.ruled entries now) := by
      obtain ⟨ws, heq, hall⟩ := writeAll_writes h.port
        (h.st.sender.applyResumeVerdicts entries now).1.retransmit
      refine ⟨ws, heq, fun w hw => .resent ?_⟩
      obtain ⟨id, txn, -, hget, hcopy⟩ :=
        (h.st.sender.applyResumeVerdicts_adjudicates entries now).retransmit _ (hall w hw)
      exact ⟨id, txn, hget, hcopy⟩
    rcases h.onResumeResponseFrame_cases now hdec with ⟨-, heq⟩ | ⟨-, htakes⟩
    · rw [heq]
      exact hruled
    · exact hruled.trans (.of_port htakes.port)

/-- **Every reply has its reason.** -/
theorem adds_dispatch (h : Handling) (frame : Frame) (handlerPresent streamPresent : Bool)
    (now : ℕ) :
    Adds (Replies h.st (h.dispatch frame handlerPresent streamPresent now).st frame) h
      (h.dispatch frame handlerPresent streamPresent now) := by
  refine dispatch_rule (P := fun h' => Adds (Replies h.st h'.st frame) h h') h ?_ ?_ ?_ ?_ ?_
  · exact fun htype => h.adds_onDataFrame htype handlerPresent streamPresent
  · exact fun _ => .of_port (h.onAckFrame_spec frame now).2.2
  · intro _
    unfold onNackFrame
    split
    · exact .of_port rfl
    · next entries _ =>
      obtain ⟨ws, heq, hall⟩ := h.nackLoop_writes now entries
      refine ⟨ws, heq, fun w hw => .resent ?_⟩
      obtain ⟨entry, -, txn, hget, hcopy, -⟩ := hall w hw
      exact ⟨_, txn, hget, hcopy⟩
  · exact fun _ => h.adds_onResumeResponseFrame frame now _
  · exact fun h' hheeds => hheeds.adds h'.st

end Handling

end Transfer

end Xacpp
