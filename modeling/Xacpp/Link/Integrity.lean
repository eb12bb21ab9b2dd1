import Xacpp.Link.Agreement
import Xacpp.Transfer.Contents
/-!
# What is delivered is what was sent

Whatever is lost, sent again, reordered between the channels or cut off by
a reconnect, a payload the receiver passes on is the bytes the holder has
taken for its transaction, all of them and in order. The only condition is
the one the source puts on its callers: an id is opened once. Everything of
the transaction, wherever it is and also after its copy is released, is
followed back to what the holder has framed of it (`Tracks`).
-/

namespace Xacpp

open Reliability Transfer

namespace Link

variable {l l' : Link} {a : Action} {id : TxId} {total : UInt32} {framed : List Bytes}
variable {taken payload : Bytes} {f : Frame}

/-- The bytes a transaction of the holder takes in a step. -/
def accepted (id : TxId) (l : Link) : Action → Bytes
  | .holder a => l.holder.accepted id a
  | _ => []

/-- The frame is one of those the payloads make. -/
def Carries (id : TxId) (total : UInt32) (framed : List Bytes) (f : Frame) : Prop :=
  ∃ i p, framed[i]? = some p ∧ f = dataFrame id total i p

theorem Carries.append (h : Carries id total framed f) (ps : List Bytes) :
    Carries id total (framed ++ ps) f := by
  obtain ⟨i, p, hp, hf⟩ := h
  exact ⟨i, p, getElem?_append_of_some hp, hf⟩

theorem Carries.ne_nil (h : Carries id total framed f) : framed ≠ [] := by
  obtain ⟨i, p, hp, -⟩ := h
  rintro rfl
  cases hp

/-- **Everything of a transaction descends from what the holder framed.** -/
structure Tracks (id : TxId) (l : Link) (taken : Bytes) (total : UInt32) (framed : List Bytes) :
    Prop where
  starts : framed.flatten <+: taken
  fits : taken.length ≤ total.toNat
  nonempty : ∀ p ∈ framed, p ≠ []
  copy : l.holder.state.sender.Scripted id total framed taken
  frames : ∀ f, l.Underway id f → Carries id total framed f
  slot : ∀ slot, l.receiver.state.reassembler.slots.get? id = some slot →
    slot.Stores total framed ∧ framed ≠ []
  delivered : ∀ payload, .delivered id payload ∈ l.receiver.log →
    (payload <+: taken ∧ payload.length = total.toNat) ∧ framed ≠ []
  unopened : .opened id ∉ l.holder.log →
    l.holder.state.sender.pending.get? id = none ∧ framed = [] ∧ taken = []

theorem Tracks.flatten_le (h : Tracks id l taken total framed) :
    framed.flatten.length ≤ total.toNat :=
  h.starts.length_le.trans h.fits

/-! ## The holder -/

/-- What is copied of the transaction is one of its frames. -/
theorem carries_of_copies {s : Session} (hall : s.AllHold) (hf : s.state.sender.Copies f)
    (hid : f.transactionId = id) (hcopy : s.state.sender.Scripted id total framed taken) :
    Carries id total framed f := by
  obtain ⟨txn, hget, hmem⟩ := copies_of_id hall hf hid
  exact (hcopy txn hget).mem hmem

/-- A frame underway after a step was one of the transaction before, or is
copied. -/
theorem Tracks.carries (h : Tracks id l taken total framed) (hl : Framing l) {a : Session.Action}
    (hstep : l.step (.holder a) = some l') (hf : l'.Underway id f) :
    Carries id total framed f ∨ l'.holder.state.sender.Copies f := by
  rcases underway_origin hl.holder hstep hf with hold | hcopies | hcopies
  · exact .inl (h.frames f hold)
  · exact .inl (carries_of_copies hl.holder.hold hcopies hf.2.1 h.copy)
  · exact .inr hcopies

/-- The copy rests, frames more, or is opened where there is nothing of the
id anywhere. -/
theorem Tracks.grow (h : Tracks id l taken total framed) (hl : Framing l) {a : Session.Action}
    (hstep : l.step (.holder a) = some l') {total' : UInt32} {ps : List Bytes} {taken' : Bytes}
    (htotal : framed ≠ [] → total' = total) (hstarts : (framed ++ ps).flatten <+: taken')
    (hfits : taken'.length ≤ total'.toNat) (hnonempty : ∀ p ∈ framed ++ ps, p ≠ [])
    (htaken : taken <+: taken')
    (hcopy : l'.holder.state.sender.Scripted id total' (framed ++ ps) taken')
    (hunopened : .opened id ∉ l'.holder.log →
      l'.holder.state.sender.pending.get? id = none ∧ framed ++ ps = [] ∧ taken' = []) :
    Tracks id l' taken' total' (framed ++ ps) where
  starts := hstarts
  fits := hfits
  nonempty := hnonempty
  copy := hcopy
  frames := by
    intro f hf
    rcases h.carries hl hstep hf with hcarries | hcopies
    · rw [htotal hcarries.ne_nil]
      exact hcarries.append ps
    · exact carries_of_copies (hl.holder.step (holder_step hstep).session).hold hcopies hf.2.1 hcopy
  slot := by
    intro slot hget
    rw [(holder_step hstep).receiver] at hget
    obtain ⟨hstores, hne⟩ := h.slot slot hget
    rw [htotal hne]
    exact ⟨hstores.append ps, List.append_ne_nil_of_left_ne_nil hne ps⟩
  delivered := by
    intro payload hmem
    rw [(holder_step hstep).receiver] at hmem
    obtain ⟨⟨hpayload, hlength⟩, hne⟩ := h.delivered payload hmem
    rw [htotal hne]
    exact ⟨⟨hpayload.trans htaken, hlength⟩, List.append_ne_nil_of_left_ne_nil hne ps⟩
  unopened := hunopened

theorem step_log {s s' : Session} {a : Session.Action} (hstep : s.step a = some s') :
    s.log <:+ s'.log := by
  obtain ⟨events, hlog, -⟩ := Session.step_origins hstep
  exact ⟨_, hlog.symm⟩

theorem Tracks.holder (h : Tracks id l taken total framed) (hl : Framing l) {a : Session.Action}
    (hstep : l.step (.holder a) = some l') (honce : l'.holder.log.count (.opened id) ≤ 1) :
    ∃ total' framed', Tracks id l' (taken ++ l.holder.accepted id a) total' framed' := by
  have hs := holder_step hstep
  have hunopened : .opened id ∉ l'.holder.log →
      l'.holder.state.sender.pending.get? id = none ∧ framed = [] ∧ taken = [] := by
    intro hout
    obtain ⟨hnew, hempty⟩ :=
      h.unopened fun hmem => hout ((step_log hs.session).subset hmem)
    refine ⟨Option.eq_none_iff_forall_ne_some.2 fun txn hget => ?_, hempty⟩
    obtain ⟨events, hlog, hmem⟩ := Session.opened_of_pending hs.session hnew hget
    exact hout (hlog ▸ List.mem_append_left _ hmem)
  cases Session.step_script hs.session h.copy with
  | kept hnone hholds =>
    refine ⟨total, framed ++ [], ?_⟩
    rw [hnone, List.append_nil taken]
    rw [← List.append_nil framed] at hholds hunopened
    exact h.grow hl hstep (fun _ => rfl) (by simpa using h.starts) h.fits
      (by simpa using h.nonempty) List.prefix_rfl hholds hunopened
  | @grown txn' ps hget' hholds =>
    refine ⟨total, framed ++ ps, h.grow hl hstep (fun _ => rfl) ⟨_, hholds.bytes⟩ hholds.fits
      hholds.nonempty (List.prefix_append _ _) (fun txn hget => ?_) fun hout => ?_⟩
    · cases hget'.symm.trans hget
      exact hholds
    · cases (hunopened hout).1.symm.trans hget'
  | @opened txn' ps hnew hget' hholds =>
    obtain ⟨events, hlog, hmem⟩ := Session.opened_of_pending hs.session hnew hget'
    have hfirst : .opened id ∉ l.holder.log := by
      rw [hlog, List.count_append] at honce
      have := List.count_pos_iff.2 hmem
      exact fun hold => absurd (List.count_pos_iff.2 hold) (by omega)
    obtain ⟨-, rfl, rfl⟩ := h.unopened hfirst
    refine ⟨txn'.totalLen, [] ++ ps, h.grow hl hstep (fun hne => absurd rfl hne)
      ⟨_, hholds.bytes⟩ hholds.fits hholds.nonempty List.nil_prefix (fun txn hget => ?_)
      fun hout => ?_⟩
    · cases hget'.symm.trans hget
      exact hholds
    · exact absurd (hlog ▸ List.mem_append_left _ hmem) hout

/-! ## The receiver -/

/-- A slot of the transaction stores what was framed. -/
theorem Tracks.stores (h : Tracks id l taken total framed) {a : Session.Action}
    (hs : ReceiverStep l a l') {slot : Slot} (hslot : Session.SlotStep l.receiver id slot a) :
    slot.Stores total framed ∧ framed ≠ [] := by
  cases hslot with
  | kept hget => exact h.slot slot hget
  | fed hdata hid hget =>
    have hcarries := h.frames _ ⟨hdata, hid, .inr (Pipe.of_handle hs.handled).2⟩
    refine ⟨?_, hcarries.ne_nil⟩
    obtain ⟨i, p, hp, rfl⟩ := hcarries
    have hstored : ∀ slot, l.receiver.state.reassembler.slots.get? id = some slot →
        slot.Stores total framed := fun slot hget => (h.slot slot hget).1
    have hlength := length_le_length_flatten h.nonempty
    have hfits := h.flatten_le
    have hlt := total.toNat_lt
    have hi : i < framed.length := (List.getElem?_eq_some_iff.1 hp).1
    have hne : total ≠ 0 := by
      rintro rfl
      rw [UInt32.toNat_zero] at hfits
      omega
    have hreceives := TransactionReassembler.receives_dataFrame l.receiver.streamHandler
      (by omega) hne hp hfits hstored
    generalize l.receiver.state.reassembler.receive _ _ = res at hreceives hget
    cases hreceives with
    | dropped hnone => cases hnone.symm.trans hget
    | duplicate hold => exact hstored slot hget
    | stored hslot hnew hget' =>
      cases hget'.symm.trans hget
      rcases hslot with hold | ⟨-, -, rfl⟩
      · exact (hstored _ hold).store hp hnew
      · exact (Slot.Stores.opened total framed).store hp hnew

theorem Tracks.receiver (h : Tracks id l taken total framed) {a : Session.Action}
    (hs : ReceiverStep l a l') : Tracks id l' taken total framed where
  starts := h.starts
  fits := h.fits
  nonempty := h.nonempty
  copy := hs.holder ▸ h.copy
  frames := by
    rintro f ⟨htype, hid, hf⟩
    rw [hs.holder] at hf
    exact h.frames f ⟨htype, hid, hf.imp_right (Pipe.mem_frames_of_handle hs.handled)⟩
  slot slot hget := h.stores hs (Session.slot_origin hs.session hget)
  delivered := by
    intro payload hmem
    rcases Session.delivered_origin hs.session hmem with hold | ⟨slot, hslot, hc, rfl⟩
    · exact h.delivered payload hold
    · obtain ⟨hstores, hne⟩ := h.stores hs hslot
      obtain ⟨hall, hlength⟩ := hstores.assembled_of_isComplete h.flatten_le h.nonempty hc
      rw [hall]
      exact ⟨⟨h.starts, hlength⟩, hne⟩
  unopened := hs.holder ▸ h.unopened

/-! ## Runs -/

/-- What is followed along a run, for an id that is opened once. -/
structure Faithful (id : TxId) (l : Link) (taken : Bytes) : Prop where
  framing : Framing l
  tracks : l.holder.log.count (.opened id) ≤ 1 → ∃ total framed, Tracks id l taken total framed

theorem faithful_new (id : TxId) (holder receiver : TransferConfig) (now : ℕ) :
    Faithful id (new holder receiver now) [] where
  framing := .new holder receiver now
  tracks := by
    refine fun _ => ⟨0, [], List.prefix_rfl, Nat.zero_le _, List.forall_mem_nil _,
      fun _ hget => ?_, fun f hf => ?_, fun _ hget => ?_,
      fun _ hmem => absurd hmem List.not_mem_nil, fun _ => ⟨rfl, rfl, rfl⟩⟩
    · cases hget
    · obtain ⟨-, -, ⟨k, t, hget, -⟩ | hf⟩ := hf
      · cases hget
      · exact absurd hf List.not_mem_nil
    · cases hget

theorem Faithful.step (h : Faithful id l taken) (hstep : l.step a = some l') :
    Faithful id l' (taken ++ l.accepted id a) := by
  refine ⟨h.framing.step hstep, fun honce => ?_⟩
  have hnone : taken = taken ++ [] := (List.append_nil taken).symm
  cases step_steps hstep with
  | holder hhandle hs =>
    obtain ⟨total, framed, ht⟩ := h.tracks (((step_log hs).sublist.count_le _).trans honce)
    exact ht.holder h.framing hstep honce
  | receiver hhandle hs =>
    obtain ⟨total, framed, ht⟩ := h.tracks honce
    exact ⟨total, framed, hnone ▸ ht.receiver (receiver_step hstep)⟩
  | pumpOutgoing hpump =>
    obtain ⟨total, framed, ht⟩ := h.tracks honce
    refine ⟨total, framed, hnone ▸ { ht with frames := ?_ }⟩
    rintro f ⟨htype, hid, hf⟩
    exact ht.frames f ⟨htype, hid, hf.imp_right (Pipe.mem_frames_pump hpump).1⟩
  | pumpIncoming =>
    obtain ⟨total, framed, ht⟩ := h.tracks honce
    exact ⟨total, framed, hnone ▸ { ht with }⟩
  | reconnect =>
    obtain ⟨total, framed, ht⟩ := h.tracks honce
    refine ⟨total, framed, hnone ▸ { ht with frames := ?_ }⟩
    rintro f ⟨htype, hid, hf⟩
    exact ht.frames f ⟨htype, hid, hf.imp_right fun hf => absurd hf List.not_mem_nil⟩

/-- **What is delivered is what was sent.** In every run, with any losses by
reconnects and any retransmission, a payload passed on for a transaction
whose id was opened once is the bytes the holder has taken for it, whole and
in order. -/
theorem delivered_is_accepted {holder receiver : TransferConfig} {start : ℕ}
    {acts : List Action} (hrun : run step (new holder receiver start) acts = some l)
    (honce : l.holder.log.count (.opened id) ≤ 1)
    (hdelivered : .delivered id payload ∈ l.receiver.log) :
    payload = outputs step (accepted id) (new holder receiver start) acts := by
  have h : Faithful id l (outputs step (accepted id) (new holder receiver start) acts) :=
    run_induct_outputs (fun _ _ _ _ _ ht hstep => ht.step hstep)
      (faithful_new id holder receiver start) hrun
  obtain ⟨total, framed, ht⟩ := h.tracks honce
  obtain ⟨⟨hstarts, hlength⟩, -⟩ := ht.delivered payload hdelivered
  exact hstarts.eq_of_length_le (hlength ▸ ht.fits)

namespace Sample

/-- The last frame is lost with the connection. The receiver asks for the
transaction on the next one, and both frames are sent again. -/
def resent : List Action :=
  wired 0 0 0 ++ [.receiver .onBinary, .holder (.openBinarySink zeroId 3 0)] ++
    called 2 0 (.sinkWrite zeroId [7, 8, 9]) 5 ++ called 3 0 (.sinkFinish zeroId) 4 ++
    [.pumpOutgoing, .receiver (.inbound 0 (dataFrame zeroId 3 0 [7, 8]) 0 [])] ++ unwired 4 0 ++
    [.reconnect 1] ++ wired 5 1 0 ++ called 7 0 .declarePendingSends 3 ++ [.pumpOutgoing,
      .receiver (.inbound 1 (controlFrame .resume ([1] ++ writeAckEntry ⟨zeroId, 1, 2⟩)) 0 []),
      .pumpIncoming, .holder (.inbound 1 (controlFrame .resumeResponse
        ([1] ++ writeResumeStatusEntry ⟨zeroId, .resumed⟩)) 0 []), .pumpOutgoing,
      .receiver (.inbound 1 (dataFrame zeroId 3 0 [7, 8]) 0 []), .pumpOutgoing,
      .receiver (.inbound 1 (dataFrame zeroId 3 1 [9]) 0 [])]

end Sample

theorem delivered_is_accepted_resent : ∃ l, run step Sample.start Sample.resent = some l ∧
    .delivered zeroId [7, 8, 9] ∈ l.receiver.log ∧
      [7, 8, 9] = outputs step (accepted zeroId) Sample.start Sample.resent := by
  obtain ⟨l, hrun, honce, hdelivered⟩ : ∃ l, run step Sample.start Sample.resent = some l ∧
      l.holder.log.count (.opened zeroId) ≤ 1 ∧ .delivered zeroId [7, 8, 9] ∈ l.receiver.log := by
    decide
  exact ⟨_, hrun, hdelivered, delivered_is_accepted hrun honce hdelivered⟩

end Link

end Xacpp
