import Xacpp.Common.Run
import Xacpp.Reliability.Slots
import Xacpp.Transfer.Model.Clock
import Xacpp.Transfer.Model.Traffic
/-!
# The receive side of a locked section

Two facts split every handler. One that serves the receive side leaves the
sender, the callbacks and the data channel alone (`KeepsSend`). One that is
not given a data frame opens no stream, delivers nothing and stores
nothing; it may only drop slots (`OnlyDrops`). What a data frame does is
`DataEffect`. What the peer's other frames do to the receive side is
`Heeds`, which the two facts and those of later modules are read off.
-/

namespace Xacpp

namespace Transfer

open Reliability

variable {txid : TxId} {terminal update : StreamInner → StreamInner}

namespace SessionState

variable (st : SessionState)

@[simp] theorem sender_withReassembler (r : TransactionReassembler) :
    (st.withReassembler r).sender = st.sender := rfl

@[simp] theorem completions_withReassembler (r : TransactionReassembler) :
    (st.withReassembler r).completions = st.completions := rfl

@[simp] theorem reassembler_withReassembler (r : TransactionReassembler) :
    (st.withReassembler r).reassembler = r := rfl

@[simp] theorem sender_withPendingAckFrames (frames : Table TxId ℕ) :
    (st.withPendingAckFrames frames).sender = st.sender := rfl

@[simp] theorem completions_withPendingAckFrames (frames : Table TxId ℕ) :
    (st.withPendingAckFrames frames).completions = st.completions := rfl

@[simp] theorem reassembler_withPendingAckFrames (frames : Table TxId ℕ) :
    (st.withPendingAckFrames frames).reassembler = st.reassembler := rfl

@[simp] theorem sender_disown : (st.disown txid).sender = st.sender := rfl

@[simp] theorem completions_disown : (st.disown txid).completions = st.completions := rfl

@[simp] theorem reassembler_disown : (st.disown txid).reassembler = st.reassembler := rfl

@[simp] theorem sender_endStream : (st.endStream txid terminal).sender = st.sender := by
  unfold endStream
  split <;> rfl

@[simp] theorem completions_endStream :
    (st.endStream txid terminal).completions = st.completions := by
  unfold endStream
  split <;> rfl

@[simp] theorem reassembler_endStream :
    (st.endStream txid terminal).reassembler = st.reassembler := by
  unfold endStream
  split <;> rfl

@[simp] theorem sender_onStream : (st.onStream txid update).sender = st.sender := by
  unfold onStream
  split <;> rfl

@[simp] theorem completions_onStream : (st.onStream txid update).completions = st.completions := by
  unfold onStream
  split <;> rfl

@[simp] theorem reassembler_onStream : (st.onStream txid update).reassembler = st.reassembler := by
  unfold onStream
  split <;> rfl

@[simp] theorem sender_dropReceive : (st.dropReceive txid terminal).sender = st.sender := by
  simp [dropReceive]

@[simp] theorem completions_dropReceive :
    (st.dropReceive txid terminal).completions = st.completions := by
  simp [dropReceive]

@[simp] theorem slots_dropReceive :
    (st.dropReceive txid terminal).reassembler.slots = st.reassembler.slots.erase txid := by
  simp [dropReceive, TransactionReassembler.discard]

theorem streamOwned_endStream : (st.endStream txid terminal).streamOwned = st.streamOwned := by
  unfold endStream
  split <;> rfl

theorem streamOwned_onStream : (st.onStream txid update).streamOwned = st.streamOwned := by
  unfold onStream
  split <;> rfl

theorem streamOwned_dropReceive :
    (st.dropReceive txid terminal).streamOwned = st.streamOwned.erase txid :=
  congrArg (Finset.erase · txid) st.streamOwned_endStream

end SessionState

namespace Handling

variable {h h' h'' : Handling} {st : SessionState} {frame : Frame}

/-- A reflexive and transitive relation that NACK frames and the stamp of
their instant are in holds across the NACK feedback. -/
theorem nackFeedback_rel (h : Handling) (config : TransferConfig) (now : ℕ)
    {R : Handling → Handling → Prop} (hrefl : ∀ h, R h h)
    (htrans : ∀ h h' h'', R h h' → R h' h'' → R h h'')
    (hwrite : ∀ h payload, R h (h.writeControl .nack payload))
    (hstamp : R h (h.withState { h.st with lastNackMs := now })) :
    R h (h.nackFeedback config now) := by
  have hone : ∀ h id, R h (nackFeedbackOne h id) := by
    intro h id
    unfold nackFeedbackOne
    dsimp only
    split
    · exact hrefl h
    · exact hwrite h _
  unfold nackFeedback
  split
  · exact htrans _ _ _ hstamp (foldl_rel hrefl htrans hone _ _)
  · exact hrefl h

/-! ## What the peer says of its transactions -/

/-- **What a control frame that concerns the receive side does**, one case
for each way a handler of one leaves the section. -/
inductive Heeds (h : Handling) (frame : Frame) : Handling → Prop
  | ignored : Heeds h frame h
  | paused {txid : TxId} : Heeds h frame (h.withState (h.st.onStream txid StreamInner.setPaused))
  | aborted {txid : TxId} (htype : frame.frameType = .transactionAbort)
      (hdec : decodeTransactionAbort frame.payload = .ok txid) :
      Heeds h frame (h.withState
        ((h.st.dropReceive txid fun inner => inner.finish .cancelled).withPendingAckFrames
          ((h.st.dropReceive txid fun inner => inner.finish .cancelled).pendingAckFrames.erase
            txid)))
  | closed {txid : TxId} :
      Heeds h frame (h.withState
        ((h.st.endStream txid fun inner => inner.finish .complete).disown txid))
  | cutShort {txid : TxId} {received : ℕ} {expected : UInt32}
      (hopen : h.st.reassembler.isComplete txid = false) :
      Heeds h frame (h.withState
        ((h.st.dropReceive txid fun inner =>
          inner.finishIncomplete received expected).withPendingAckFrames
          ((h.st.dropReceive txid fun inner =>
            inner.finishIncomplete received expected).pendingAckFrames.erase txid)))
  | expired {payload : ErrorPayload} {txid : TxId} (htype : frame.frameType = .error)
      (hdec : decodeError frame.payload = .ok payload) (hcode : payload.code = transactionExpired)
      (hparse : parseHexTxidPrefix payload.message = some txid) :
      Heeds h frame (h.withState (h.st.dropReceive txid fun inner => inner.finish .cancelled))
  | adjudicated {declared : List AckEntry} (hread : declaration? frame = some declared) :
      Heeds h frame ((h.withState (dropAbandoned h.st
        (abandoned h.st.reassembler declared))).writeControl .resumeResponse
          (encodeResumeResponse (declared.map fun entry =>
            ⟨entry.transactionId, verdictFor h.st.reassembler entry.transactionId⟩)))

theorem heeds_onTransactionPauseFrame : Heeds h frame (h.onTransactionPauseFrame frame) := by
  unfold onTransactionPauseFrame
  split
  · exact .ignored
  · exact .paused

theorem heeds_onTransactionAbortFrame (htype : frame.frameType = .transactionAbort) :
    Heeds h frame (h.onTransactionAbortFrame frame) := by
  unfold onTransactionAbortFrame
  split
  · exact .ignored
  · next txid hdec => exact .aborted htype hdec

theorem heeds_onTransactionCompletedFrame :
    Heeds h frame (h.onTransactionCompletedFrame frame) := by
  unfold onTransactionCompletedFrame
  split
  · exact .ignored
  · split
    · exact .ignored
    · split
      · split
        · exact .closed
        · exact .ignored
      · next hopen => exact .cutShort (Bool.eq_false_iff.2 hopen)

theorem heeds_onErrorFrame (htype : frame.frameType = .error) :
    Heeds h frame (h.onErrorFrame frame) := by
  unfold onErrorFrame
  split
  · exact .ignored
  · next payload hdec =>
    split
    · next hcode =>
      split
      · exact .ignored
      · next txid hparse => exact .expired htype hdec hcode hparse
    · exact .ignored

theorem heeds_onResumeRequestFrame (htype : frame.frameType = .resume) :
    Heeds h frame (h.onResumeRequestFrame frame) := by
  unfold onResumeRequestFrame
  split
  · exact .ignored
  · next declared hdec =>
    split
    · exact .ignored
    · next hasks =>
      refine .adjudicated ?_
      rw [declaration?, if_pos htype, hdec]
      exact Option.filter_eq_some_iff.2 ⟨rfl, Bool.not_eq_true' _ ▸ Bool.eq_false_iff.2 hasks⟩

/-- A dispatched frame is a data frame, one of the three the send side
answers to, or one whose effect `Heeds` tells. -/
theorem dispatch_rule {P : Handling → Prop} (h : Handling) {handlerPresent streamPresent : Bool}
    {now : ℕ} (hdata : frame.frameType = .dataBinary →
      P (h.onDataFrame frame handlerPresent streamPresent))
    (hack : frame.frameType = .ack → P (h.onAckFrame frame now))
    (hnack : frame.frameType = .nack → P (h.onNackFrame frame now))
    (hresp : frame.frameType = .resumeResponse → P (h.onResumeResponseFrame frame now))
    (hheeds : ∀ h', Heeds h frame h' → P h') :
    P (h.dispatch frame handlerPresent streamPresent now) := by
  unfold dispatch
  split
  · next htype => exact hdata htype
  · next htype => exact hack htype
  · next htype => exact hnack htype
  · next htype => exact hheeds _ (heeds_onResumeRequestFrame htype)
  · next htype => exact hresp htype
  · exact hheeds _ heeds_onTransactionPauseFrame
  · next htype => exact hheeds _ (heeds_onTransactionAbortFrame htype)
  · exact hheeds _ heeds_onTransactionCompletedFrame
  · next htype => exact hheeds _ (heeds_onErrorFrame htype)
  all_goals exact hheeds h .ignored

/-! ## The send side is left alone -/

/-- The section leaves the sender and the callbacks alone and writes no
data frame. -/
structure KeepsSend (h h' : Handling) : Prop where
  sender : h'.st.sender = h.st.sender
  table : h'.st.completions = h.st.completions
  completions : h'.completions = h.completions
  settled : h'.settled = h.settled
  writes : ∃ ws, h'.port.writes = h.port.writes ++ ws ∧ ∀ w ∈ ws, w.frame.frameType ≠ .dataBinary

theorem KeepsSend.refl (h : Handling) : KeepsSend h h :=
  ⟨rfl, rfl, rfl, rfl, [], (List.append_nil _).symm, List.forall_mem_nil _⟩

theorem KeepsSend.trans (h₁ : KeepsSend h h') (h₂ : KeepsSend h' h'') : KeepsSend h h'' := by
  obtain ⟨ws, hws, hcontrol⟩ := h₁.writes
  obtain ⟨ws', hws', hcontrol'⟩ := h₂.writes
  refine ⟨h₂.sender.trans h₁.sender, h₂.table.trans h₁.table,
    h₂.completions.trans h₁.completions, h₂.settled.trans h₁.settled, ws ++ ws', ?_, ?_⟩
  · rw [hws', hws, List.append_assoc]
  · intro w hw
    rcases List.mem_append.1 hw with hw | hw
    · exact hcontrol w hw
    · exact hcontrol' w hw

/-- A section that only replaces the state. -/
theorem KeepsSend.of_state (hsender : st.sender = h.st.sender)
    (htable : st.completions = h.st.completions) : KeepsSend h (h.withState st) :=
  ⟨hsender, htable, rfl, rfl, [], (List.append_nil _).symm, List.forall_mem_nil _⟩

theorem keepsSend_writeControl {frameType : FrameType} (htype : frameType ≠ .dataBinary)
    (payload : Except ControlError Bytes) : KeepsSend h (h.writeControl frameType payload) := by
  cases payload with
  | error e => exact .refl h
  | ok bytes =>
    refine ⟨rfl, rfl, rfl, rfl, [⟨.control, controlFrame frameType bytes, _⟩], rfl, ?_⟩
    intro w hw
    rw [List.mem_singleton.1 hw]
    exact htype

theorem keepsSend_sendResumeFrame (entries : List AckEntry) :
    KeepsSend h (h.sendResumeFrame entries) :=
  keepsSend_writeControl (by decide) _

theorem keepsSend_sendAckEntries (entries : List AckEntry) :
    KeepsSend h (h.sendAckEntries entries) := by
  unfold sendAckEntries
  split
  · exact .refl h
  · exact keepsSend_writeControl (by decide) _

theorem sender_dropAbandoned (st : SessionState) (ids : List TxId) :
    (dropAbandoned st ids).sender = st.sender ∧
      (dropAbandoned st ids).completions = st.completions := by
  induction ids generalizing st with
  | nil => exact ⟨rfl, rfl⟩
  | cons id ids ih =>
    obtain ⟨hsender, htable⟩ := ih (st.dropReceive id fun inner => inner.finish .cancelled)
    exact ⟨hsender.trans (by simp), htable.trans (by simp)⟩

theorem Heeds.keepsSend (hheeds : Heeds h frame h') : KeepsSend h h' := by
  cases hheeds with
  | ignored => exact .refl h
  | adjudicated hread =>
    obtain ⟨hsender, htable⟩ := sender_dropAbandoned h.st _
    exact (KeepsSend.of_state hsender htable).trans (keepsSend_writeControl (by decide) _)
  | _ => exact .of_state (by simp) (by simp)

theorem keepsSend_streamAccepted (frame : Frame) (opensStream : Bool)
    (emitted : List (ℕ × Bytes)) :
    KeepsSend h (h.streamAccepted frame opensStream emitted) := by
  unfold streamAccepted
  split
  · exact ⟨rfl, rfl, rfl, rfl, [], (List.append_nil _).symm,
      List.forall_mem_nil _⟩
  · exact .of_state (by simp) (by simp)

theorem keepsSend_finalAck : KeepsSend h (h.finalAck txid) := by
  unfold finalAck
  cases h.st.reassembler.ackEntry txid with
  | none => exact .of_state rfl rfl
  | some entry => exact (keepsSend_sendAckEntries [entry]).trans (.of_state rfl rfl)

theorem keepsSend_handOver {handlerPresent : Bool} :
    KeepsSend h (h.handOver txid handlerPresent) := by
  unfold handOver
  split
  · exact .of_state (by simp) (by simp)
  · split
    · split
      · exact .refl h
      · exact ⟨rfl, rfl, rfl, rfl, [], (List.append_nil _).symm,
          List.forall_mem_nil _⟩
    · exact .refl h

theorem keepsSend_dataAccepted {opensStream complete handlerPresent : Bool}
    {emitted : List (ℕ × Bytes)} :
    KeepsSend h (h.dataAccepted frame opensStream complete emitted handlerPresent) := by
  unfold dataAccepted
  have hcounted : KeepsSend h (h.withState (h.st.withPendingAckFrames
      (h.st.pendingAckFrames.insert frame.transactionId
        ((h.st.pendingAckFrames.get? frame.transactionId).getD 0 + 1)))) := .of_state rfl rfl
  have hstream := hcounted.trans (keepsSend_streamAccepted frame opensStream emitted)
  dsimp only
  split
  · exact hstream.trans (keepsSend_finalAck.trans keepsSend_handOver)
  · exact hstream

theorem keepsSend_onDataFrame {handlerPresent streamPresent : Bool} :
    KeepsSend h (h.onDataFrame frame handlerPresent streamPresent) := by
  unfold onDataFrame
  have hfed : KeepsSend h (h.withState (h.st.withReassembler
      (h.st.reassembler.receiveFrame frame.transactionId frame.seq frame.totalLen
        frame.payload.length frame.payload streamPresent).2)) := .of_state rfl rfl
  dsimp only
  split
  · exact hfed
  · exact hfed
  · exact hfed
  · exact hfed.trans keepsSend_dataAccepted

/-! ## Nothing is received -/

/-- The section opens no stream, delivers nothing and stores nothing; slots
may go. -/
structure OnlyDrops (h h' : Handling) : Prop where
  opened : h'.opened = h.opened
  delivered : h'.delivered = h.delivered
  slots : ∀ id slot, h'.st.reassembler.slots.get? id = some slot →
    h.st.reassembler.slots.get? id = some slot

theorem OnlyDrops.refl (h : Handling) : OnlyDrops h h := ⟨rfl, rfl, fun _ _ hget => hget⟩

theorem OnlyDrops.trans (h₁ : OnlyDrops h h') (h₂ : OnlyDrops h' h'') : OnlyDrops h h'' :=
  ⟨h₂.opened.trans h₁.opened, h₂.delivered.trans h₁.delivered,
    fun id slot hget => h₁.slots id slot (h₂.slots id slot hget)⟩

/-- A section that leaves the receive side alone. -/
theorem OnlyDrops.of_eq (hopened : h'.opened = h.opened) (hdelivered : h'.delivered = h.delivered)
    (hr : h'.st.reassembler = h.st.reassembler) : OnlyDrops h h' :=
  ⟨hopened, hdelivered, fun _ _ hget => hr ▸ hget⟩

theorem OnlyDrops.of_state (hr : st.reassembler = h.st.reassembler) :
    OnlyDrops h (h.withState st) :=
  .of_eq rfl rfl hr

/-- A section that forgets one receive transaction. -/
theorem OnlyDrops.of_erase (txid : TxId)
    (hslots : st.reassembler.slots = h.st.reassembler.slots.erase txid) :
    OnlyDrops h (h.withState st) := by
  refine ⟨rfl, rfl, fun id slot hget => ?_⟩
  rw [withState, hslots] at hget
  exact (Table.of_get?_erase hget).2

theorem onlyDrops_writeControl {frameType : FrameType} {payload : Except ControlError Bytes} :
    OnlyDrops h (h.writeControl frameType payload) := by
  cases payload with
  | error e => exact .refl h
  | ok bytes => exact .of_eq rfl rfl rfl

theorem onlyDrops_sendAckEntries (entries : List AckEntry) :
    OnlyDrops h (h.sendAckEntries entries) := by
  unfold sendAckEntries
  split
  · exact .refl h
  · exact onlyDrops_writeControl

/-- The cross-check names the incomplete slots that were not declared. -/
theorem mem_abandoned_iff {r : TransactionReassembler} {declared : List AckEntry} {id : TxId} :
    id ∈ abandoned r declared ↔ ∃ slot, r.slots.get? id = some slot ∧ slot.isComplete = false ∧
      id ∉ declared.map AckEntry.transactionId := by
  have hdeclared : (!declared.any fun entry => entry.transactionId == id) = true ↔
      id ∉ declared.map AckEntry.transactionId := by
    rw [Bool.not_eq_true', List.any_eq_false, List.mem_map]
    constructor
    · rintro hnone ⟨entry, hentry, heq⟩
      exact hnone entry hentry (beq_iff_eq.2 heq)
    · exact fun hout entry hentry heq => hout ⟨entry, hentry, beq_iff_eq.1 heq⟩
  rw [abandoned, List.mem_filter, TransactionReassembler.openTransactions, Table.mem_keys_iff,
    Bool.and_eq_true, hdeclared, TransactionReassembler.isComplete]
  constructor
  · rintro ⟨⟨slot, hget⟩, hopen, hout⟩
    rw [hget, Bool.not_eq_true'] at hopen
    exact ⟨slot, hget, hopen, hout⟩
  · rintro ⟨slot, hget, hopen, hout⟩
    refine ⟨⟨slot, hget⟩, ?_, hout⟩
    rw [hget, Bool.not_eq_true']
    exact hopen

/-- The cross-check drops what it names and nothing else. -/
theorem get?_dropAbandoned (st : SessionState) (ids : List TxId) (id : TxId) :
    (dropAbandoned st ids).reassembler.slots.get? id =
      if id ∈ ids then none else st.reassembler.slots.get? id := by
  induction ids generalizing st with
  | nil => rw [if_neg List.not_mem_nil]; rfl
  | cons id' ids ih =>
    have hrest := ih (st.dropReceive id' fun inner => inner.finish .cancelled)
    rw [SessionState.slots_dropReceive, Table.get?_erase] at hrest
    refine hrest.trans ?_
    by_cases hid : id ∈ ids
    · rw [if_pos hid, if_pos (List.mem_cons_of_mem _ hid)]
    · rw [if_neg hid]
      by_cases heq : id = id'
      · rw [if_pos heq, if_pos (heq ▸ List.mem_cons_self)]
      · rw [if_neg heq, if_neg (fun hmem => (List.mem_cons.1 hmem).elim heq hid)]

theorem Heeds.onlyDrops (hheeds : Heeds h frame h') : OnlyDrops h h' := by
  cases hheeds with
  | ignored => exact .refl h
  | paused | closed => exact .of_state (by simp)
  | @aborted txid => exact .of_erase txid (SessionState.slots_dropReceive _)
  | @cutShort txid => exact .of_erase txid (SessionState.slots_dropReceive _)
  | @expired _ txid => exact .of_erase txid (SessionState.slots_dropReceive _)
  | @adjudicated declared =>
    have hdrop : OnlyDrops h
        (h.withState (dropAbandoned h.st (abandoned h.st.reassembler declared))) := by
      refine ⟨rfl, rfl, fun id slot hget => ?_⟩
      rw [withState, get?_dropAbandoned] at hget
      split at hget
      · cases hget
      · exact hget
    exact hdrop.trans onlyDrops_writeControl

/-! ## A data frame -/

/-- What a data frame can do on the receive side. -/
structure DataEffect (h h' : Handling) (frame : Frame) : Prop where
  others : ∀ id, id ≠ frame.transactionId →
    h'.st.reassembler.slots.get? id = h.st.reassembler.slots.get? id
  /-- Without a slot only frame 0 does anything. -/
  slotless : h.st.reassembler.slots.get? frame.transactionId = none → frame.seq ≠ 0 →
    OnlyDrops h h'
  /-- A slot that was complete stays so. -/
  slot : ∀ slot', h'.st.reassembler.slots.get? frame.transactionId = some slot' →
    h.st.reassembler.slots.get? frame.transactionId = none ∧ frame.seq = 0 ∨
      ∃ slot, h.st.reassembler.slots.get? frame.transactionId = some slot ∧
        (slot.isComplete = true → slot'.isComplete = true)
  /-- A stream is opened for a transaction without a slot, by frame 0. -/
  opened : h'.opened = h.opened ∨
    h.st.reassembler.slots.get? frame.transactionId = none ∧ frame.seq = 0 ∧
      ∃ object, h'.opened = some (frame.transactionId, object)
  /-- A delivery empties the slot. -/
  delivered : h'.delivered = h.delivered ∨
    h'.st.reassembler.slots.get? frame.transactionId = none ∧
      ∃ payload, h'.delivered = h.delivered ++ [(frame.transactionId, payload)]

theorem DataEffect.refl (h : Handling) (frame : Frame) : DataEffect h h frame :=
  ⟨fun _ _ => rfl, fun _ _ => .refl h, fun slot hget => .inr ⟨slot, hget, fun hc => hc⟩,
    .inl rfl, .inl rfl⟩

/-- Taking a payload touches its own slot only, and empties it. -/
theorem takeCompleted_cases (r : TransactionReassembler) (txid : TxId) :
    r.takeCompleted txid = (none, r) ∨ ∃ slot, r.slots.get? txid = some slot ∧
      slot.isComplete = true ∧
      r.takeCompleted txid = (some slot.assembled, { r with slots := r.slots.erase txid }) := by
  unfold TransactionReassembler.takeCompleted
  cases hget : r.slots.get? txid with
  | none => exact .inl rfl
  | some slot =>
    by_cases hc : slot.isComplete = true
    · exact .inr ⟨slot, rfl, hc, if_pos hc⟩
    · exact .inl (if_neg hc)

/-- The hand-over touches its own slot only; a delivery empties it. -/
theorem handOver_spec (h : Handling) (txid : TxId) (handlerPresent : Bool) :
    (h.handOver txid handlerPresent).opened = h.opened ∧
    ((h.handOver txid handlerPresent).st.reassembler = h.st.reassembler ∧
        (h.handOver txid handlerPresent).delivered = h.delivered ∨
      (h.handOver txid handlerPresent).st.reassembler.slots = h.st.reassembler.slots.erase txid ∧
        ((h.handOver txid handlerPresent).delivered = h.delivered ∨
          ∃ payload, (h.handOver txid handlerPresent).delivered =
            h.delivered ++ [(txid, payload)])) := by
  unfold handOver
  split
  · refine ⟨rfl, ?_⟩
    simp only [withState, SessionState.reassembler_withReassembler,
      SessionState.reassembler_endStream, SessionState.reassembler_disown]
    rcases takeCompleted_cases h.st.reassembler txid with htake | ⟨slot, -, -, htake⟩
    · exact .inl ⟨by rw [htake], trivial⟩
    · exact .inr ⟨by rw [htake], .inl trivial⟩
  · split
    · rcases takeCompleted_cases h.st.reassembler txid with htake | ⟨slot, -, -, htake⟩
      · rw [htake]
        exact ⟨rfl, .inl ⟨rfl, rfl⟩⟩
      · rw [htake]
        exact ⟨rfl, .inr ⟨rfl, .inr ⟨_, rfl⟩⟩⟩
    · exact ⟨rfl, .inl ⟨rfl, rfl⟩⟩

/-- A control write changes the write surface only. -/
theorem writeControl_eq (h : Handling) (frameType : FrameType)
    (payload : Except ControlError Bytes) :
    ∃ port, h.writeControl frameType payload = { h with port := port } := by
  cases payload with
  | error e => exact ⟨h.port, rfl⟩
  | ok bytes => exact ⟨_, rfl⟩

theorem finalAck_spec (h : Handling) (txid : TxId) :
    (h.finalAck txid).opened = h.opened ∧ (h.finalAck txid).st.reassembler = h.st.reassembler ∧
      (h.finalAck txid).delivered = h.delivered := by
  unfold finalAck
  cases h.st.reassembler.ackEntry txid with
  | none => exact ⟨rfl, rfl, rfl⟩
  | some entry =>
    obtain ⟨port, heq⟩ := h.writeControl_eq .ack (encodeAckPayload [entry])
    simp only [sendAckEntries, List.isEmpty_cons, Bool.false_eq_true, if_false, heq]
    exact ⟨rfl, rfl, rfl⟩

theorem streamAccepted_spec (h : Handling) (frame : Frame) (opensStream : Bool)
    (emitted : List (ℕ × Bytes)) :
    let h' := h.streamAccepted frame opensStream emitted
    (h'.opened = h.opened ∨
      opensStream = true ∧ ∃ object, h'.opened = some (frame.transactionId, object)) ∧
    h'.st.reassembler = h.st.reassembler ∧ h'.delivered = h.delivered := by
  unfold streamAccepted
  cases opensStream with
  | true => exact ⟨.inr ⟨rfl, _, rfl⟩, rfl, rfl⟩
  | false => exact ⟨.inl rfl, h.st.reassembler_onStream, rfl⟩

/-- What follows an accepted frame, given what was stored. -/
theorem dataAccepted_spec (h : Handling) (frame : Frame) (opensStream complete : Bool)
    (emitted : List (ℕ × Bytes)) (handlerPresent : Bool) :
    let h' := h.dataAccepted frame opensStream complete emitted handlerPresent
    (h'.opened = h.opened ∨
      opensStream = true ∧ ∃ object, h'.opened = some (frame.transactionId, object)) ∧
    (h'.st.reassembler = h.st.reassembler ∧ h'.delivered = h.delivered ∨
      h'.st.reassembler.slots = h.st.reassembler.slots.erase frame.transactionId ∧
        (h'.delivered = h.delivered ∨
          ∃ payload, h'.delivered = h.delivered ++ [(frame.transactionId, payload)])) := by
  obtain ⟨hopened, hr, hdelivered⟩ := (h.withState (h.st.withPendingAckFrames
    (h.st.pendingAckFrames.insert frame.transactionId
      ((h.st.pendingAckFrames.get? frame.transactionId).getD 0 + 1)))).streamAccepted_spec
        frame opensStream emitted
  simp only [dataAccepted]
  generalize (h.withState _).streamAccepted frame opensStream emitted = h₁ at *
  change h₁.opened = h.opened ∨ _ at hopened
  change h₁.st.reassembler = h.st.reassembler at hr
  change h₁.delivered = h.delivered at hdelivered
  split
  · obtain ⟨hopened₂, hr₂, hdelivered₂⟩ := h₁.finalAck_spec frame.transactionId
    obtain ⟨hopened₃, hrest⟩ :=
      (h₁.finalAck frame.transactionId).handOver_spec frame.transactionId handlerPresent
    rw [hopened₃, hopened₂]
    rw [hr₂, hr, hdelivered₂, hdelivered] at hrest
    exact ⟨hopened, hrest⟩
  · exact ⟨hopened, .inl ⟨hr, hdelivered⟩⟩

theorem onDataFrame_of_accepted {frame : Frame} {streamPresent complete : Bool}
    {emitted : List (ℕ × Bytes)} {r : TransactionReassembler} (handlerPresent : Bool)
    (hreceive : h.st.reassembler.receiveFrame frame.transactionId frame.seq frame.totalLen
      frame.payload.length frame.payload streamPresent = (.ok (.accepted complete emitted), r)) :
    h.onDataFrame frame handlerPresent streamPresent =
      (h.withState (h.st.withReassembler r)).dataAccepted frame
        (streamPresent && decide (frame.seq = 0) &&
          !h.st.reassembler.containsTransaction frame.transactionId) complete emitted
        handlerPresent := by
  rw [onDataFrame]
  simp only [hreceive]

/-- **What a data frame does.** -/
theorem onDataFrame_effect (h : Handling) (frame : Frame) (handlerPresent streamPresent : Bool) :
    DataEffect h (h.onDataFrame frame handlerPresent streamPresent) frame := by
  have hfeeds := TransactionReassembler.receive_feeds h.st.reassembler frame streamPresent
  simp only [onDataFrame]
  rw [TransactionReassembler.receive] at hfeeds
  generalize h.st.reassembler.receiveFrame frame.transactionId frame.seq frame.totalLen
    frame.payload.length frame.payload streamPresent = res at hfeeds ⊢
  cases hfeeds with
  | refused | dropped hnone hseq | duplicate hget => exact .refl h frame
  | overlong hnone hseq =>
    refine ⟨fun id hid => Table.get?_insert_of_ne _ _ hid, fun _ hne => absurd hseq hne,
      fun slot' _ => .inl ⟨hnone, hseq⟩, .inl rfl, .inl rfl⟩
  | @stored slot emitted r' hslot hroom hget hothers =>
    -- the state after the store, and what the hand-over then does to it
    obtain ⟨hopened, hrest⟩ := (h.withState (h.st.withReassembler r')).dataAccepted_spec frame
      (streamPresent && decide (frame.seq = 0) &&
        !h.st.reassembler.containsTransaction frame.transactionId)
      (slot.store frame.seq.toNat frame.payload).isComplete emitted handlerPresent
    dsimp only at hopened hrest ⊢
    generalize (h.withState _).dataAccepted _ _ _ _ _ = h' at *
    change h'.opened = h.opened ∨ _ at hopened
    change h'.st.reassembler = r' ∧ h'.delivered = h.delivered ∨
      h'.st.reassembler.slots = r'.slots.erase frame.transactionId ∧
        (h'.delivered = h.delivered ∨
          ∃ payload, h'.delivered = h.delivered ++ [(frame.transactionId, payload)]) at hrest
    refine ⟨fun id hid => ?_, fun hnone hne => ?_, fun slot' hget' => ?_, ?_, ?_⟩
    · rcases hrest with ⟨hr, -⟩ | ⟨hr, -⟩
      · rw [hr, hothers id hid]
      · rw [hr, Table.get?_erase_of_ne _ hid, hothers id hid]
    · rcases hslot with hsome | ⟨-, hzero, -⟩
      · rw [hnone] at hsome
        cases hsome
      · exact absurd hzero hne
    · rcases hslot with hsome | ⟨hnone, hzero, -⟩
      · refine .inr ⟨slot, hsome, fun hc => ?_⟩
        rcases hrest with ⟨hr, -⟩ | ⟨hr, -⟩
        · rw [hr, hget, Option.some.injEq] at hget'
          exact hget' ▸ Slot.isComplete_store hc hroom
        · rw [hr, Table.get?_erase_self] at hget'
          cases hget'
      · exact .inl ⟨hnone, hzero⟩
    · rcases hopened with hsame | ⟨hopens, hobject⟩
      · exact .inl hsame
      · simp only [Bool.and_eq_true, decide_eq_true_eq, Bool.not_eq_true'] at hopens
        refine .inr ⟨?_, hopens.1.2, hobject⟩
        exact Option.not_isSome_iff_eq_none.1 (Bool.eq_false_iff.1 hopens.2)
    · rcases hrest with ⟨-, hd⟩ | ⟨hr, hd⟩
      · exact .inl hd
      · exact hd.imp_right fun hpayload => ⟨by rw [hr, Table.get?_erase_self], hpayload⟩

end Handling

end Transfer

end Xacpp
