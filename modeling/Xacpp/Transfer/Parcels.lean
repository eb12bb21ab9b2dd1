import Xacpp.Transfer.Sending
import Xacpp.Transfer.Surface
/-!
# Retained payloads and their delivery

A payload that completed outside the stream surface stays in its slot until
one locked section takes it: the section of a frame that saw a handler, or
the drain of a clock. `Handling.Keeps` says of every section that it leaves
the payload where it is, or takes it whole and once. A payload taken is a
parcel, and `step_issues` says that a step issues parcels under new tickets
and loses none: each is in one hand or has been passed to the handler.
-/

namespace Xacpp

namespace Transfer

open Reliability

namespace SessionState

/-- The payload is retained in a complete slot that no stream owns. -/
def Holds (st : SessionState) (id : TxId) (payload : Bytes) : Prop :=
  ∃ slot, st.reassembler.slots.get? id = some slot ∧ slot.isComplete = true ∧
    slot.assembled = payload ∧ id ∉ st.streamOwned

variable {st st' : SessionState} {id txid : TxId} {payload : Bytes}

theorem Holds.of_eq (h : Holds st id payload)
    (hslot : st'.reassembler.slots.get? id = st.reassembler.slots.get? id)
    (howned : id ∈ st'.streamOwned → id ∈ st.streamOwned) : Holds st' id payload := by
  obtain ⟨slot, hget, hc, hbytes, hfree⟩ := h
  exact ⟨slot, hslot.trans hget, hc, hbytes, fun hmem => hfree (howned hmem)⟩

theorem mem_streamOwned_dropAbandoned {ids : List TxId}
    (hmem : id ∈ (Handling.dropAbandoned st ids).streamOwned) : id ∈ st.streamOwned := by
  induction ids generalizing st with
  | nil => exact hmem
  | cons id' rest ih =>
    have hdropped : id ∈ (st.dropReceive id' fun inner => inner.finish .cancelled).streamOwned :=
      ih hmem
    rw [streamOwned_dropReceive] at hdropped
    exact Finset.mem_of_mem_erase hdropped

end SessionState

/-- The frame discards the transaction, whatever has been received of it. -/
def cancels (frame : Frame) (id : TxId) : Bool :=
  match frame.frameType with
  | .transactionAbort =>
    match decodeTransactionAbort frame.payload with
    | .error _ => false
    | .ok txid => decide (txid = id)
  | .error =>
    match decodeError frame.payload with
    | .error _ => false
    | .ok payload => decide (payload.code = transactionExpired) &&
        decide (Handling.parseHexTxidPrefix payload.message = some id)
  | _ => false

namespace Handling

open SessionState

variable {h h' : Handling} {frame : Frame} {id : TxId} {payload : Bytes} {slot : Slot}

/-! ## Sections that take nothing -/

/-- A complete slot outlives every control frame that does not discard its
transaction, and does not become stream-owned by one. -/
structure Spares (h h' : Handling) (id : TxId) : Prop where
  slot : h.st.reassembler.isComplete id = true →
    h'.st.reassembler.slots.get? id = h.st.reassembler.slots.get? id
  owned : id ∈ h'.st.streamOwned → id ∈ h.st.streamOwned

theorem Spares.refl (h : Handling) (id : TxId) : Spares h h id := ⟨fun _ => rfl, fun hmem => hmem⟩

theorem SameSurface.spares (hsame : SameSurface h.st h'.st) : Spares h h' id :=
  ⟨fun _ => by rw [hsame.reassembler], fun hmem => hsame.streamOwned ▸ hmem⟩

theorem spares_dropReceive {txid : TxId} {terminal : StreamInner → StreamInner}
    (hne : id ≠ txid) : Spares h (h.withState (h.st.dropReceive txid terminal)) id := by
  refine ⟨fun _ => ?_, fun hmem => ?_⟩
  · rw [withState, slots_dropReceive, Table.get?_erase_of_ne _ hne]
  · rw [withState, streamOwned_dropReceive] at hmem
    exact Finset.mem_of_mem_erase hmem

/-- **A closing announcement keeps what is complete**, and the cross-check
names incomplete slots only; what the sender discards is another
transaction's. -/
theorem Heeds.spares (hheeds : Heeds h frame h') (hcancels : cancels frame id = false) :
    Spares h h' id := by
  cases hheeds with
  | ignored => exact .refl h id
  | paused =>
    refine ⟨fun _ => ?_, fun hmem => ?_⟩
    · rw [withState, reassembler_onStream]
    · rw [withState, streamOwned_onStream] at hmem
      exact hmem
  | @aborted txid htype hdec =>
    have hne : id ≠ txid := by
      simp only [cancels, htype, hdec, decide_eq_false_iff_not] at hcancels
      exact Ne.symm hcancels
    have hspares : Spares h (h.withState (h.st.dropReceive txid fun inner =>
        inner.finish .cancelled)) id := spares_dropReceive hne
    exact ⟨hspares.slot, hspares.owned⟩
  | closed =>
    refine ⟨fun _ => ?_, fun hmem => ?_⟩
    · rw [withState, reassembler_disown, reassembler_endStream]
    · have hkept := Finset.mem_of_mem_erase hmem
      rw [streamOwned_endStream] at hkept
      exact hkept
  | @cutShort txid received expected hopen =>
    refine ⟨fun hc => ?_, fun hmem => ?_⟩
    · have hne : id ≠ txid := by
        rintro rfl
        exact Bool.false_ne_true (hopen.symm.trans hc)
      rw [withState, reassembler_withPendingAckFrames, slots_dropReceive,
        Table.get?_erase_of_ne _ hne]
    · rw [withState, show ∀ (st : SessionState) frames,
        (st.withPendingAckFrames frames).streamOwned = st.streamOwned from fun _ _ => rfl,
        streamOwned_dropReceive] at hmem
      exact Finset.mem_of_mem_erase hmem
  | expired htype hdec hcode hparse =>
    refine spares_dropReceive ?_
    rintro rfl
    simp only [cancels, htype, hdec, hcode, hparse, decide_true, Bool.and_self] at hcancels
    cases hcancels
  | @adjudicated declared =>
    have hsame := (h.withState (dropAbandoned h.st
      (abandoned h.st.reassembler declared))).sameSurface_writeControl .resumeResponse
        (encodeResumeResponse (declared.map fun entry =>
          ⟨entry.transactionId, verdictFor h.st.reassembler entry.transactionId⟩))
    refine ⟨fun hc => ?_, fun hmem => ?_⟩
    · rw [hsame.reassembler, withState, get?_dropAbandoned, if_neg]
      intro hmem
      have hpicked := (List.mem_filter.1 hmem).2
      rw [hc] at hpicked
      cases hpicked
    · rw [hsame.streamOwned] at hmem
      exact mem_streamOwned_dropAbandoned hmem

theorem spares_dispatch (h : Handling) (handlerPresent streamPresent : Bool) (now : ℕ)
    (hdata : frame.frameType ≠ .dataBinary) (hcancels : cancels frame id = false) :
    Spares h (h.dispatch frame handlerPresent streamPresent now) id := by
  refine dispatch_rule (P := fun h' => Spares h h' id) h ?_ ?_ ?_ ?_ ?_
  · exact fun htype => absurd htype hdata
  · exact fun _ => SameSurface.spares (h.sameSurface_onAckFrame frame now)
  · exact fun _ => SameSurface.spares (h.sameSurface_onNackFrame frame now)
  · exact fun _ => SameSurface.spares (h.sameSurface_onResumeResponseFrame frame now)
  · exact fun _ hheeds => hheeds.spares hcancels

/-! ## Data frames -/

/-- The payloads of one transaction among those taken. -/
def ofId (id : TxId) (taken : List (TxId × Bytes)) : List (TxId × Bytes) :=
  taken.filter fun d => decide (d.1 = id)

theorem ofId_cons_self (taken : List (TxId × Bytes)) :
    ofId id ((id, payload) :: taken) = (id, payload) :: ofId id taken :=
  List.filter_cons_of_pos (decide_eq_true rfl)

theorem ofId_cons_of_ne {txid : TxId} (hne : id ≠ txid) (taken : List (TxId × Bytes)) :
    ofId id ((txid, payload) :: taken) = ofId id taken :=
  List.filter_cons_of_neg fun heq => hne (of_decide_eq_true heq).symm

theorem ofId_append (taken taken' : List (TxId × Bytes)) :
    ofId id (taken ++ taken') = ofId id taken ++ ofId id taken' :=
  List.filter_append _ _

/-- **What a section does to a retained payload**: it stays, or it is taken
whole, once, and its slot is gone. -/
def Keeps (h h' : Handling) (id : TxId) (payload : Bytes) : Prop :=
  Holds h'.st id payload ∧ ofId id h'.delivered = ofId id h.delivered ∨
    h'.st.reassembler.slots.get? id = none ∧
      ofId id h'.delivered = ofId id h.delivered ++ [(id, payload)]

theorem Keeps.of_eq (hold : Holds h.st id payload)
    (hslot : h'.st.reassembler.slots.get? id = h.st.reassembler.slots.get? id)
    (howned : id ∈ h'.st.streamOwned → id ∈ h.st.streamOwned)
    (hdelivered : ofId id h'.delivered = ofId id h.delivered) : Keeps h h' id payload :=
  .inl ⟨hold.of_eq hslot howned, hdelivered⟩

theorem handOver_keeps (handlerPresent : Bool) (hget : h.st.reassembler.slots.get? id = some slot)
    (hc : slot.isComplete = true) (hfree : id ∉ h.st.streamOwned) :
    Keeps h (h.handOver id handlerPresent) id slot.assembled := by
  unfold handOver
  rw [if_neg hfree]
  have htake : h.st.reassembler.takeCompleted id = (some slot.assembled,
      { h.st.reassembler with slots := h.st.reassembler.slots.erase id }) := by
    rw [TransactionReassembler.takeCompleted, hget]
    exact if_pos hc
  cases handlerPresent with
  | false => exact .inl ⟨⟨slot, hget, hc, rfl, hfree⟩, rfl⟩
  | true =>
    simp only [htake, if_true]
    refine .inr ⟨Table.get?_erase_self _ _, ?_⟩
    rw [ofId_append, ofId_cons_self]
    rfl

/-- The frame that completes a slot outside the stream surface, or comes
after it. -/
theorem dataAccepted_keeps {emitted : List (ℕ × Bytes)} {handlerPresent : Bool}
    (hget : h.st.reassembler.slots.get? frame.transactionId = some slot)
    (hc : slot.isComplete = true) (hfree : frame.transactionId ∉ h.st.streamOwned) :
    Keeps h (h.dataAccepted frame false slot.isComplete emitted handlerPresent)
      frame.transactionId slot.assembled := by
  simp only [dataAccepted, streamAccepted, hc, if_true, Bool.false_eq_true, if_false]
  generalize hh₁ : ((h.withState _).withState _).finalAck frame.transactionId = h₁
  have hdelivered : h₁.delivered = h.delivered := by
    rw [← hh₁, (finalAck_spec _ _).2.2]
    rfl
  have hr : h₁.st.reassembler = h.st.reassembler := by
    rw [← hh₁, (finalAck_spec _ _).2.1]
    exact reassembler_onStream _
  have howned : h₁.st.streamOwned = h.st.streamOwned := by
    rw [← hh₁, (sameSurface_finalAck _ _).streamOwned]
    exact streamOwned_onStream _
  rw [← howned] at hfree
  rw [← hr] at hget
  have hkeeps := handOver_keeps handlerPresent hget hc hfree
  rw [Keeps, hdelivered] at hkeeps
  exact hkeeps

/-- Other transactions are left alone by an accepted frame. -/
theorem streamOwned_dataAccepted {opensStream complete handlerPresent : Bool}
    {emitted : List (ℕ × Bytes)} (hne : id ≠ frame.transactionId)
    (hmem : id ∈
      (h.dataAccepted frame opensStream complete emitted handlerPresent).st.streamOwned) :
    id ∈ h.st.streamOwned := by
  have hstream : ∀ h : Handling, id ∈ (h.streamAccepted frame opensStream emitted).st.streamOwned →
      id ∈ h.st.streamOwned := by
    intro h hmem
    unfold streamAccepted at hmem
    cases opensStream with
    | true => exact (Finset.mem_insert.1 hmem).resolve_left hne
    | false =>
      have hsame : id ∈ (h.st.onStream frame.transactionId fun inner =>
        inner.clearPaused.send emitted).streamOwned := hmem
      rw [streamOwned_onStream] at hsame
      exact hsame
  have hover : ∀ h : Handling,
      id ∈ (h.handOver frame.transactionId handlerPresent).st.streamOwned →
        id ∈ h.st.streamOwned := by
    intro h hmem
    unfold handOver at hmem
    split at hmem
    · have hsame : id ∈ ((h.st.disown frame.transactionId).endStream frame.transactionId
        fun inner => inner.finish .complete).streamOwned := hmem
      rw [streamOwned_endStream] at hsame
      exact Finset.mem_of_mem_erase hsame
    · split at hmem
      · split at hmem <;> exact hmem
      · exact hmem
  unfold dataAccepted at hmem
  dsimp only at hmem
  split at hmem
  · have hacked := hover _ hmem
    rw [(sameSurface_finalAck _ _).streamOwned] at hacked
    have hkept := hstream _ hacked
    exact hkept
  · have hkept := hstream _ hmem
    exact hkept

theorem streamOwned_onDataFrame {handlerPresent streamPresent : Bool}
    (hne : id ≠ frame.transactionId)
    (hmem : id ∈ (h.onDataFrame frame handlerPresent streamPresent).st.streamOwned) :
    id ∈ h.st.streamOwned := by
  simp only [onDataFrame] at hmem
  split at hmem
  · exact hmem
  · exact hmem
  · exact hmem
  · have hkept := streamOwned_dataAccepted hne hmem
    exact hkept

theorem onDataFrame_keeps {handlerPresent streamPresent : Bool} (hold : Holds h.st id payload) :
    Keeps h (h.onDataFrame frame handlerPresent streamPresent) id payload := by
  by_cases hid : id = frame.transactionId
  · subst hid
    obtain ⟨slot, hslot, hc, rfl, hfree⟩ := hold
    have hfeeds := TransactionReassembler.receive_feeds h.st.reassembler frame streamPresent
    simp only [onDataFrame]
    rw [TransactionReassembler.receive] at hfeeds
    generalize h.st.reassembler.receiveFrame frame.transactionId frame.seq frame.totalLen
      frame.payload.length frame.payload streamPresent = res at hfeeds ⊢
    have hstays : Keeps h h frame.transactionId slot.assembled :=
      .inl ⟨⟨slot, hslot, hc, rfl, hfree⟩, rfl⟩
    cases hfeeds with
    | refused | duplicate hget | dropped hnone hseq => exact hstays
    | overlong hnone hseq =>
      rw [hslot] at hnone
      cases hnone
    | @stored slot' emitted r' hslot' hroom hget hothers hnew =>
      have heq : slot' = slot := by
        rcases hslot' with hsome | ⟨hnone, -, -⟩
        · rw [hslot, Option.some.injEq] at hsome
          exact hsome.symm
        · rw [hslot] at hnone
          cases hnone
      subst heq
      have hcontains : h.st.reassembler.containsTransaction frame.transactionId = true :=
        Table.contains_iff.2 ⟨slot', hslot⟩
      rw [hcontains, Bool.not_true, Bool.and_false, ← Slot.assembled_store hc hroom hnew]
      exact dataAccepted_keeps (h := h.withState (h.st.withReassembler r')) hget
        (Slot.isComplete_store hc hroom) hfree
  · have heffect := h.onDataFrame_effect frame handlerPresent streamPresent
    refine .of_eq hold (heffect.others id hid) (streamOwned_onDataFrame hid) ?_
    rcases heffect.delivered with hsame | ⟨-, other, happend⟩
    · rw [hsame]
    · rw [happend, ofId_append, ofId_cons_of_ne hid]
      exact List.append_nil _

/-- **A locked section keeps the payload or takes it**, unless its frame
discards the transaction. -/
theorem dispatch_keeps (h : Handling) (handlerPresent streamPresent : Bool) (now : ℕ)
    (hold : Holds h.st id payload) (hcancels : cancels frame id = false) :
    Keeps h (h.dispatch frame handlerPresent streamPresent now) id payload := by
  by_cases hdata : frame.frameType = .dataBinary
  · simp only [dispatch, hdata]
    exact onDataFrame_keeps hold
  · obtain ⟨hslot, howned⟩ := h.spares_dispatch handlerPresent streamPresent now hdata hcancels
    have hc : h.st.reassembler.isComplete id = true := by
      obtain ⟨slot, hget, hc, -⟩ := hold
      rw [TransactionReassembler.isComplete, hget]
      exact hc
    refine .of_eq hold (hslot hc) howned ?_
    rw [(h.onlyDrops_dispatch handlerPresent streamPresent now hdata).delivered]

/-- Nothing is taken without a handler. -/
theorem delivered_dispatch (h : Handling) (frame : Frame) (streamPresent : Bool) (now : ℕ) :
    (h.dispatch frame false streamPresent now).delivered = h.delivered := by
  have hover : ∀ (h : Handling) (id : TxId), (h.handOver id false).delivered = h.delivered := by
    intro h id
    unfold handOver
    split <;> rfl
  by_cases hdata : frame.frameType = .dataBinary
  · simp only [dispatch, hdata, onDataFrame]
    split
    · rfl
    · rfl
    · rfl
    · unfold dataAccepted
      dsimp only
      split
      · rw [hover, (finalAck_spec _ _).2.2, (streamAccepted_spec _ _ _ _).2.2]
        rfl
      · rw [(streamAccepted_spec _ _ _ _).2.2]
        rfl
  · exact (h.onlyDrops_dispatch false streamPresent now hdata).delivered

end Handling

/-! ## The deferred delivery -/

section Drain

variable {id : TxId} {slot : Slot} {ids : List TxId} {r : TransactionReassembler}

theorem takeAll_of_notMem (hout : id ∉ ids) :
    Handling.ofId id (takeAll ids r).1 = [] ∧
      (takeAll ids r).2.slots.get? id = r.slots.get? id := by
  induction ids generalizing r with
  | nil => exact ⟨rfl, rfl⟩
  | cons txid rest ih =>
    have hne : id ≠ txid := fun heq => hout (heq ▸ List.mem_cons_self)
    have hrest : id ∉ rest := fun hmem => hout (List.mem_cons_of_mem _ hmem)
    unfold takeAll
    rcases Handling.takeCompleted_cases r txid with htake | ⟨other, -, -, htake⟩
    · rw [htake]
      exact ih hrest
    · rw [htake]
      obtain ⟨htaken, hget⟩ := ih (r := { r with slots := r.slots.erase txid }) hrest
      refine ⟨?_, hget.trans (Table.get?_erase_of_ne _ hne)⟩
      exact (Handling.ofId_cons_of_ne hne _).trans htaken

/-- **A drain takes each complete payload once.** -/
theorem takeAll_of_mem (hmem : id ∈ ids) (hnodup : ids.Nodup)
    (hget : r.slots.get? id = some slot) (hc : slot.isComplete = true) :
    Handling.ofId id (takeAll ids r).1 = [(id, slot.assembled)] ∧
      (takeAll ids r).2.slots.get? id = none := by
  induction ids generalizing r with
  | nil => exact absurd hmem List.not_mem_nil
  | cons txid rest ih =>
    obtain ⟨hout, hnodup⟩ := List.nodup_cons.1 hnodup
    by_cases hid : id = txid
    · subst hid
      have htake : r.takeCompleted id =
          (some slot.assembled, { r with slots := r.slots.erase id }) := by
        rw [TransactionReassembler.takeCompleted, hget]
        exact if_pos hc
      obtain ⟨htaken, hgone⟩ := takeAll_of_notMem (r := { r with slots := r.slots.erase id }) hout
      unfold takeAll
      rw [htake]
      refine ⟨?_, hgone.trans (Table.get?_erase_self _ _)⟩
      rw [Handling.ofId_cons_self, htaken]
    · have hmem := (List.mem_cons.1 hmem).resolve_left hid
      unfold takeAll
      rcases Handling.takeCompleted_cases r txid with htake | ⟨other, -, -, htake⟩
      · rw [htake]
        exact ih hmem hnodup hget
      · rw [htake]
        obtain ⟨htaken, hgone⟩ := ih (r := { r with slots := r.slots.erase txid }) hmem hnodup
          ((Table.get?_erase_of_ne _ hid).trans hget)
        refine ⟨?_, hgone⟩
        exact (Handling.ofId_cons_of_ne hid _).trans htaken

theorem drainCompleted_takes {st : SessionState} {payload : Bytes}
    (hold : SessionState.Holds st id payload) :
    Handling.ofId id (drainCompleted st true).1 = [(id, payload)] ∧
      (drainCompleted st true).2.reassembler.slots.get? id = none := by
  obtain ⟨slot, hget, hc, rfl, -⟩ := hold
  refine takeAll_of_mem (List.mem_filter.2 ⟨Table.mem_keys_iff.2 ⟨slot, hget⟩, ?_⟩)
    (st.reassembler.slots.keys_nodup.filter _) hget hc
  rw [TransactionReassembler.isComplete, hget]
  exact hc

end Drain

/-! ## Parcels -/

theorem Parcel.map_wrap (ticket : ℕ) (taken : List (TxId × Bytes)) :
    (Parcel.wrap ticket taken).map (fun p => (p.txid, p.payload)) = taken := by
  induction taken generalizing ticket with
  | nil => rfl
  | cons d rest ih => rw [Parcel.wrap, List.map_cons, ih]

theorem Parcel.map_ticket_wrap (ticket : ℕ) (taken : List (TxId × Bytes)) :
    (Parcel.wrap ticket taken).map Parcel.ticket = List.range' ticket taken.length := by
  induction taken generalizing ticket with
  | nil => rfl
  | cons d rest ih => rw [Parcel.wrap, List.map_cons, ih, List.length_cons, List.range'_succ]

theorem Parcel.le_of_mem_wrap {ticket : ℕ} {taken : List (TxId × Bytes)} {p : Parcel}
    (hmem : p ∈ Parcel.wrap ticket taken) : ticket ≤ p.ticket := by
  have hticket : p.ticket ∈ List.range' ticket taken.length := by
    rw [← Parcel.map_ticket_wrap]
    exact List.mem_map_of_mem hmem
  exact (List.mem_range'_1.1 hticket).1

/-- The parcels of one transaction wrap its payloads. -/
theorem Parcel.map_filter_wrap (id : TxId) (ticket : ℕ) (taken : List (TxId × Bytes)) :
    ((Parcel.wrap ticket taken).filter fun p => decide (p.txid = id)).map
      (fun p => (p.txid, p.payload)) = Handling.ofId id taken := by
  conv_rhs => rw [← Parcel.map_wrap ticket taken, Handling.ofId, List.filter_map]
  rfl

/-- What a call has still to pass. -/
def InboundPc.parcels : InboundPc → List Parcel
  | .deliver parcels => parcels
  | _ => []

/-- What a clock has still to pass. -/
def DrainPc.parcels : DrainPc → List Parcel
  | .deliver parcels => parcels
  | .take => []

/-- The call is at its locked section. -/
def InboundPc.locks : InboundPc → Bool
  | .lock _ _ => true
  | _ => false

/-- The call has seen a handler and counts on it. -/
def InboundPc.relies : InboundPc → Bool
  | .readStream handlerPresent | .lock handlerPresent _ => handlerPresent
  | .deliver parcels => !parcels.isEmpty
  | _ => false

namespace Reception

open SessionState

variable {r r' : Reception} {a : Action} {k : ℕ} {p : Parcel} {id : TxId} {payload : Bytes}

/-- Every parcel there is: in the hands of a call or of a clock, or
passed. -/
def parcels (r : Reception) : List Parcel :=
  r.calls.values.flatMap (fun call => call.pc.parcels) ++ r.drains.values.flatMap DrainPc.parcels ++
    r.passed

/-- Parcels are issued under new tickets, and none is lost. -/
structure Issues (r r' : Reception) (taken : List (TxId × Bytes)) : Prop where
  tickets : r'.tickets = r.tickets + taken.length
  parcels : r'.parcels.Perm (Parcel.wrap r.tickets taken ++ r.parcels)

theorem Issues.of_eq (htickets : r'.tickets = r.tickets) (hparcels : r'.parcels = r.parcels) :
    Issues r r' [] :=
  ⟨htickets, by rw [hparcels]; exact .refl _⟩

/-- One call goes on; the parcels it holds and those passed balance. -/
theorem Issues.of_call {call : InboundCall} {taken : List (TxId × Bytes)}
    (hcalls : r'.calls = r.calls.insert k call) (hdrains : r'.drains = r.drains)
    (htickets : r'.tickets = r.tickets + taken.length)
    (hperm : (call.pc.parcels ++ r'.passed).Perm (Parcel.wrap r.tickets taken ++
      ((r.calls.get? k).elim [] (fun call => call.pc.parcels) ++ r.passed))) :
    Issues r r' taken := by
  refine ⟨htickets, List.perm_iff_count.2 fun p => ?_⟩
  have hold := (r.calls.flatMap_values_perm (fun call => call.pc.parcels) k).count_eq p
  have hbalance := hperm.count_eq p
  rw [Reception.parcels, Reception.parcels, hcalls, hdrains, Table.flatMap_values_insert]
  simp only [List.count_append] at hold hbalance ⊢
  omega

/-- One drain goes on. -/
theorem Issues.of_drain {pc : DrainPc} {taken : List (TxId × Bytes)}
    (hcalls : r'.calls = r.calls) (hdrains : r'.drains = r.drains.insert k pc)
    (htickets : r'.tickets = r.tickets + taken.length)
    (hperm : (pc.parcels ++ r'.passed).Perm (Parcel.wrap r.tickets taken ++
      ((r.drains.get? k).elim [] DrainPc.parcels ++ r.passed))) :
    Issues r r' taken := by
  refine ⟨htickets, List.perm_iff_count.2 fun p => ?_⟩
  have hold := (r.drains.flatMap_values_perm DrainPc.parcels k).count_eq p
  have hbalance := hperm.count_eq p
  rw [Reception.parcels, Reception.parcels, hcalls, hdrains, Table.flatMap_values_insert]
  simp only [List.count_append] at hold hbalance ⊢
  omega

/-- **Who relies on the handler has one.** -/
structure Served (r : Reception) : Prop where
  calls : ∀ k call, r.calls.get? k = some call → call.pc.relies = true →
    r.session.binaryHandler = true
  drains : ∀ k pc, r.drains.get? k = some pc → r.session.binaryHandler = true

theorem served_new (config : TransferConfig) (now : ℕ) : Served (new config now) where
  calls k call hget := by
    rw [new, Table.get?_empty] at hget
    cases hget
  drains k pc hget := by
    rw [new, Table.get?_empty] at hget
    cases hget

theorem handler_locked (r : Reception) (k : ℕ) (call : InboundCall)
    (handlerPresent streamPresent : Bool) (now : ℕ) (outcomes : List Bool) :
    (r.locked k call handlerPresent streamPresent now outcomes).session.binaryHandler =
      r.session.binaryHandler := by
  unfold locked
  dsimp only
  split <;> rfl

theorem Turns.handler (h : Turns r a r') (hhandler : r.session.binaryHandler = true) :
    r'.session.binaryHandler = true := by
  cases h with
  | own hfine hstep => exact (idles_session hfine hstep).handler hhandler
  | locked hget hpc => exact (handler_locked _ _ _ _ _ _ _).trans hhandler
  | passed hget hpc | drainPassed htask hget =>
    show (r.pass _).session.binaryHandler = true
    rw [session_pass]
    exact hhandler
  | _ => exact hhandler

/-- A call goes on, and what it relies on is registered. -/
theorem Served.setCall (h : Served r) {call : InboundCall}
    (hhandler : r.session.binaryHandler = true → r'.session.binaryHandler = true)
    (hcalls : r'.calls = r.calls.insert k call) (hdrains : r'.drains = r.drains)
    (hrelies : call.pc.relies = true → r.session.binaryHandler = true) : Served r' := by
  refine ⟨fun k' call' hget hr => hhandler ?_, fun k' pc hget => hhandler ?_⟩
  · rw [hcalls, Table.get?_insert] at hget
    split at hget
    · cases hget
      exact hrelies hr
    · exact h.calls k' call' hget hr
  · rw [hdrains] at hget
    exact h.drains k' pc hget

theorem Served.of_handler (h : Served r)
    (hhandler : r.session.binaryHandler = true → r'.session.binaryHandler = true)
    (hcalls : r'.calls = r.calls) (hserved : r.session.binaryHandler = true) : Served r' := by
  refine ⟨fun k' call hget hr => hhandler ?_, fun _ _ _ => hhandler hserved⟩
  rw [hcalls] at hget
  exact h.calls k' call hget hr

theorem delivered_handleInbound (st : SessionState) (frame : Frame)
    {handlerPresent : Bool} (streamPresent : Bool) (now : ℕ) (outcomes : List Bool)
    (hsome : (handleInbound st frame handlerPresent streamPresent now outcomes).delivered ≠ []) :
    handlerPresent = true := by
  cases handlerPresent with
  | true => rfl
  | false => exact absurd (Handling.delivered_dispatch _ frame streamPresent now) hsome

theorem pass_of_handler (r : Reception) (p : Parcel) (hhandler : r.session.binaryHandler = true) :
    r.pass p = { r with passed := p :: r.passed } := if_pos hhandler

theorem calls_locked (r : Reception) (k : ℕ) (call : InboundCall)
    (handlerPresent streamPresent : Bool) (now : ℕ) (outcomes : List Bool) :
    (r.locked k call handlerPresent streamPresent now outcomes).calls =
      r.calls.insert k { call with pc := .deliver (Parcel.wrap r.tickets
        (handleInbound r.session.state call.frame handlerPresent streamPresent now
          outcomes).delivered) } := rfl

theorem Served.turns (h : Served r) (hturns : Turns r a r') : Served r' := by
  have hhandler := hturns.handler
  have hkeep : r'.calls = r.calls →
      (∀ k pc, r'.drains.get? k = some pc → r.drains.get? k = some pc) →
      Served r' := fun hcalls hdrains =>
    ⟨fun k call hget hr => hhandler (h.calls k call (hcalls ▸ hget) hr),
      fun k pc hget => hhandler (h.drains k pc (hdrains k pc hget))⟩
  cases hturns with
  | own hfine hstep => exact hkeep rfl fun _ _ hget => hget
  | arrived hnew => exact h.setCall hhandler rfl rfl fun hr => (by cases hr)
  | readBinary hget hpc => exact h.setCall hhandler rfl rfl fun hr => hr
  | @readStream k now outcomes call handlerPresent hget hpc =>
    exact h.setCall hhandler rfl rfl fun hr => h.calls k call hget (by rw [hpc]; exact hr)
  | @locked k now outcomes call handlerPresent streamPresent hget hpc =>
    refine h.setCall hhandler (r.calls_locked k call handlerPresent streamPresent now outcomes) rfl
      fun hr => h.calls k call hget ?_
    rw [hpc]
    show handlerPresent = true
    refine delivered_handleInbound r.session.state call.frame streamPresent now outcomes
      fun hnil => ?_
    rw [hnil] at hr
    cases hr
  | returned hget hpc => exact h.setCall hhandler rfl rfl fun hr => (by cases hr)
  | @passed k now outcomes call parcel rest hget hpc =>
    have hserved := h.calls k call hget (by rw [hpc]; rfl)
    rw [pass_of_handler r parcel hserved] at hhandler ⊢
    exact h.setCall hhandler rfl rfl fun _ => hserved
  | sawHandler htask hget hregistered => exact h.of_handler hhandler rfl hregistered
  | sawNone htask hget => exact hkeep rfl fun _ _ hget => hget
  | @took k conn htask hget => exact h.of_handler hhandler rfl (h.drains k _ hget)
  | @drained k conn htask hget =>
    refine hkeep rfl fun k' pc hget' => ?_
    change (r.drains.erase k).get? k' = some pc at hget'
    exact (Table.of_get?_erase hget').2
  | @drainPassed k conn parcel rest htask hget =>
    have hserved := h.drains k _ hget
    rw [pass_of_handler r parcel hserved] at hhandler ⊢
    exact h.of_handler hhandler rfl hserved

/-! ## What a step takes -/

/-- The step neither discards the transaction nor stops a clock between the
taking of payloads and their delivery. -/
def Undisturbed (id : TxId) (r : Reception) : Action → Prop
  | .handle k _ _ => ∀ call ∈ r.calls.get? k, call.pc.locks = true → cancels call.frame id = false
  | .session (.advance k _ _) => r.session.tasks.get? k = some (.unwire .stopClock) →
      ∀ clock ∈ r.session.clock, ∀ pc ∈ r.drains.get? clock, pc.parcels = []
  | _ => True

/-- What a step does to a retained payload, given what it takes. -/
def KeepsHeld (r' : Reception) (taken : List (TxId × Bytes)) (id : TxId) (payload : Bytes) :
    Prop :=
  Holds r'.session.state id payload ∧ Handling.ofId id taken = [] ∨
    r'.session.state.reassembler.slots.get? id = none ∧
      Handling.ofId id taken = [(id, payload)]

theorem KeepsHeld.of_idle (hold : Holds r.session.state id payload)
    (hidle : r'.session.state.reassembler = r.session.state.reassembler ∧
      r'.session.state.streamOwned = r.session.state.streamOwned) :
    KeepsHeld r' [] id payload :=
  .inl ⟨hold.of_eq (by rw [hidle.1]) fun hmem => hidle.2 ▸ hmem, rfl⟩

theorem locked_issues {now : ℕ} {outcomes : List Bool} {call : InboundCall}
    {handlerPresent streamPresent : Bool} (hget : r.calls.get? k = some call)
    (hpc : call.pc = .lock handlerPresent streamPresent) :
    Issues r (r.locked k call handlerPresent streamPresent now outcomes)
      (handleInbound r.session.state call.frame handlerPresent streamPresent now
        outcomes).delivered := by
  refine .of_call (r.calls_locked k call handlerPresent streamPresent now outcomes) rfl rfl ?_
  rw [hget, Option.elim_some, hpc]
  exact .refl _

/-- **What a step takes**: it issues parcels for it, and a retained payload
stays or is among what is taken, once. -/
theorem step_issues (hserved : Served r) (hturns : Turns r a r') :
    ∃ taken, Issues r r' taken ∧ ∀ id payload, Holds r.session.state id payload →
      Undisturbed id r a → KeepsHeld r' taken id payload := by
  have hidle : ∀ id payload, Holds r.session.state id payload → r'.session.state = r.session.state →
      KeepsHeld r' [] id payload := fun id payload hold heq =>
    .of_idle hold ⟨by rw [heq], by rw [heq]⟩
  have hmoves : ∀ {k : ℕ} {call : InboundCall} {pc : InboundPc}, r.calls.get? k = some call →
      call.pc.parcels = [] → pc.parcels = [] → Issues r (r.setCall k call pc) [] := by
    intro k call pc hget hold hnew
    refine .of_call rfl rfl rfl ?_
    rw [hget, Option.elim_some, hold]
    exact .of_eq (congrArg (· ++ r.passed) hnew)
  cases hturns with
  | own hfine hstep =>
    exact ⟨[], .of_eq rfl rfl, fun id payload hold _ =>
      .of_idle hold (idles_session hfine hstep).slots⟩
  | arrived hnew =>
    refine ⟨[], .of_call rfl rfl rfl ?_, fun id payload hold _ => hidle id payload hold rfl⟩
    rw [hnew]
    exact .refl _
  | readBinary hget hpc | readStream hget hpc =>
    exact ⟨[], hmoves hget (by rw [hpc]; rfl) rfl,
      fun id payload hold _ => hidle id payload hold rfl⟩
  | @locked k now outcomes call handlerPresent streamPresent hget hpc =>
    refine ⟨_, locked_issues hget hpc, fun id payload hold hfree => ?_⟩
    have hstart : Holds (Handling.start (r.session.state.touch now) outcomes).st id payload := hold
    have hkeeps := (Handling.start (r.session.state.touch now) outcomes).dispatch_keeps
      handlerPresent streamPresent now hstart (hfree call hget (by rw [hpc]; rfl))
    rw [KeepsHeld, state_locked]
    exact hkeeps
  | returned hget hpc =>
    exact ⟨[], hmoves hget (by rw [hpc]; rfl) rfl,
      fun id payload hold _ => hidle id payload hold rfl⟩
  | @passed k now outcomes call parcel rest hget hpc =>
    have hhandler := hserved.calls k call hget (by rw [hpc]; rfl)
    rw [pass_of_handler r parcel hhandler] at hidle ⊢
    refine ⟨[], .of_call rfl rfl rfl ?_, fun id payload hold _ => hidle id payload hold rfl⟩
    rw [hget, Option.elim_some, hpc]
    exact List.perm_middle
  | sawHandler htask hget hhandler =>
    refine ⟨[], .of_drain rfl rfl rfl ?_, fun id payload hold _ => hidle id payload hold rfl⟩
    rw [hget]
    exact .refl _
  | sawNone htask hget =>
    exact ⟨[], .of_eq rfl rfl, fun id payload hold _ => hidle id payload hold rfl⟩
  | @took k conn htask hget =>
    refine ⟨(drainCompleted r.session.state true).1, .of_drain rfl rfl rfl ?_,
      fun id payload hold _ => ?_⟩
    · rw [hget]
      exact .refl _
    · obtain ⟨htaken, hgone⟩ := drainCompleted_takes hold
      exact .inr ⟨hgone, htaken⟩
  | @drained k conn htask hget =>
    refine ⟨[], ⟨rfl, List.perm_iff_count.2 fun p => ?_⟩, fun id payload hold _ =>
      hidle id payload hold rfl⟩
    have hold := (r.drains.flatMap_values_perm DrainPc.parcels k).count_eq p
    rw [hget] at hold
    simp only [parcels, Parcel.wrap, List.nil_append, List.count_append, withSession] at hold ⊢
    rw [hold]
    exact (Nat.zero_add _).symm ▸ rfl
  | @drainPassed k conn parcel rest htask hget =>
    have hhandler := hserved.drains k _ hget
    rw [pass_of_handler r parcel hhandler] at hidle ⊢
    refine ⟨[], .of_drain rfl rfl rfl ?_, fun id payload hold _ => hidle id payload hold rfl⟩
    rw [hget, Option.elim_some]
    exact List.perm_middle

/-- **Every ticket issued is on one parcel.** -/
def Numbered (r : Reception) : Prop := (r.parcels.map Parcel.ticket).Perm (List.range r.tickets)

theorem Numbered.issues (h : Numbered r) {taken : List (TxId × Bytes)}
    (hissues : Issues r r' taken) :
    Numbered r' := by
  have hparcels := hissues.parcels.map Parcel.ticket
  rw [List.map_append, Parcel.map_ticket_wrap] at hparcels
  rw [Numbered, hissues.tickets, List.range_add, ← List.range'_eq_map_range]
  exact hparcels.trans ((List.perm_append_comm).trans (h.append_right _))

/-- No other parcel has its ticket. -/
theorem Numbered.alone (h : Numbered r) (hmem : p ∈ r.parcels) :
    r.parcels.filter (fun q => decide (q.ticket = p.ticket)) = [p] := by
  have hnodup : (r.parcels.map Parcel.ticket).Nodup := h.nodup_iff.2 List.nodup_range
  have hlength : (r.parcels.filter fun q => decide (q.ticket = p.ticket)).length = 1 := by
    have hcount := List.count_eq_one_of_mem hnodup (List.mem_map_of_mem hmem)
    rw [List.count, List.countP_map, List.countP_eq_length_filter] at hcount
    rw [← hcount]
    rfl
  obtain ⟨q, hq⟩ := List.length_eq_one_iff.1 hlength
  have hin : p ∈ r.parcels.filter fun q => decide (q.ticket = p.ticket) :=
    List.mem_filter.2 ⟨hmem, decide_eq_true rfl⟩
  rw [hq, List.mem_singleton] at hin
  rw [hq, hin]

/-! ## Carrying a parcel through -/

theorem mem_parcels_of_drain {pc : DrainPc} (hget : r.drains.get? k = some pc)
    (hmem : p ∈ pc.parcels) : p ∈ r.parcels := by
  refine List.mem_append_left _ (List.mem_append_right _ (List.mem_flatMap.2 ⟨pc, ?_, hmem⟩))
  exact Table.mem_values.2 ⟨k, hget⟩

/-- Where a clock has the parcel, it is still in its deferred delivery. -/
def Unstranded (r : Reception) (p : Parcel) : Prop :=
  ∀ k pc, r.drains.get? k = some pc → p ∈ pc.parcels →
    ∃ conn, r.session.tasks.get? k = some (.clock conn .drain)

theorem Numbered.unstranded (h : Numbered r) (hnew : r.tickets ≤ p.ticket) : Unstranded r p := by
  intro k pc hget hmem
  have hticket := h.mem_iff.1 (List.mem_map_of_mem (mem_parcels_of_drain hget hmem))
  have hlt := List.mem_range.1 hticket
  omega

/-- A clock in its deferred delivery stays there, unless it is stopped. -/
theorem drain_kept {a : Session.Action} {s' : Session} {conn : ℕ} (hfine : r.coarse a = false)
    (hstep : r.session.step a = some s')
    (htask : r.session.tasks.get? k = some (.clock conn .drain)) :
    s'.tasks.get? k = some (.clock conn .drain) ∨
      ∃ k' now outcomes, a = .advance k' now outcomes ∧
        r.session.tasks.get? k' = some (.unwire .stopClock) ∧ r.session.clock = some k := by
  cases Session.step_steps hstep with
  | idle hsame htasks => exact .inl (by rw [htasks]; exact htask)
  | opened hopen | unpaused hpaused => exact .inl htask
  | @started k' call hfresh hcall =>
    have hne := Table.ne_of_fresh htask hfresh
    exact .inl ((Table.get?_insert_of_ne _ _ hne).trans htask)
  | @advanced k' now outcomes t s' hget hstretch =>
    have hne : k ≠ k' := by
      rintro rfl
      simp only [coarse, htask] at hfine
      cases hfine
    rcases hstretch.clock_kept hne htask with hkept | ⟨ht, hclock⟩
    · exact .inl hkept
    · exact .inr ⟨k', now, outcomes, rfl, ht ▸ hget, hclock⟩
  | received hconn => cases hfine
  | @sawClosed k' conn' hget =>
    have hne : k ≠ k' := by
      rintro rfl
      rw [htask] at hget
      cases hget
    exact .inl ((Table.get?_insert_of_ne _ _ hne).trans htask)

theorem tasks_locked (r : Reception) (k : ℕ) (call : InboundCall)
    (handlerPresent streamPresent : Bool) (now : ℕ) (outcomes : List Bool) :
    (r.locked k call handlerPresent streamPresent now outcomes).session.tasks =
      r.session.tasks := by
  unfold locked
  dsimp only
  split <;> rfl

theorem Unstranded.turns (h : Unstranded r p) (hfree : Undisturbed id r a)
    (hturns : Turns r a r') : Unstranded r' p := by
  -- the tasks stand, and a drain with new contents belongs to a clock that drains
  have hset : ∀ {k conn : ℕ} {pc : DrainPc}, r'.session.tasks = r.session.tasks →
      r'.drains = r.drains.insert k pc →
      r.session.tasks.get? k = some (.clock conn .drain) → Unstranded r' p := by
    intro k conn pc htasks hdrains htask k' pc' hget hmem
    rw [hdrains, Table.get?_insert] at hget
    rw [htasks]
    split at hget
    · next hk => exact ⟨conn, hk ▸ htask⟩
    · exact h k' pc' hget hmem
  have hsame : r'.session.tasks = r.session.tasks → r'.drains = r.drains → Unstranded r' p := by
    intro htasks hdrains k pc hget hmem
    rw [hdrains] at hget
    rw [htasks]
    exact h k pc hget hmem
  cases hturns with
  | @own a s' hfine hstep =>
    intro k pc hget hmem
    obtain ⟨conn, htask⟩ := h k pc hget hmem
    rcases drain_kept hfine hstep htask with hkept | ⟨k', now, outcomes, rfl, hstop, hclock⟩
    · exact ⟨conn, hkept⟩
    · have hempty := hfree hstop k hclock pc hget
      rw [hempty] at hmem
      exact absurd hmem List.not_mem_nil
  | arrived hnew | readBinary hget hpc | readStream hget hpc => exact hsame rfl rfl
  | locked hget hpc => exact hsame (tasks_locked _ _ _ _ _ _ _) rfl
  | returned hget hpc => exact hsame rfl rfl
  | passed hget hpc =>
    refine hsame (congrArg Session.tasks (session_pass _ _)) ?_
    show (r.pass _).drains = r.drains
    unfold pass
    split <;> rfl
  | sawHandler htask hget hhandler => exact hset rfl rfl htask
  | @sawNone k conn htask hget =>
    intro k' pc hget' hmem
    have hne : k' ≠ k := by
      rintro rfl
      change r.drains.get? k' = some pc at hget'
      rw [hget] at hget'
      cases hget'
    obtain ⟨conn', htask'⟩ := h k' pc hget' hmem
    exact ⟨conn', (Table.get?_insert_of_ne _ _ hne).trans htask'⟩
  | took htask hget => exact hset rfl rfl htask
  | @drained k conn htask hget =>
    intro k' pc hget' hmem
    change (r.drains.erase k).get? k' = some pc at hget'
    obtain ⟨hne, hdrain⟩ := Table.of_get?_erase hget'
    obtain ⟨conn', htask'⟩ := h k' pc hdrain hmem
    exact ⟨conn', (Table.get?_insert_of_ne _ _ hne).trans htask'⟩
  | drainPassed htask hget => exact hset (congrArg Session.tasks (session_pass _ _)) rfl htask

/-- A call with parcels in hand passes them one by one. -/
theorem passes_call : ∀ {parcels : List Parcel} {r : Reception} {call : InboundCall},
    r.calls.get? k = some call → call.pc = .deliver parcels → p ∈ parcels →
    r.session.binaryHandler = true →
    ∃ n r', run Reception.step r (List.replicate n (.handle k 0 [])) = some r' ∧ p ∈ r'.passed
  | [], _, _, _, _, hmem, _ => absurd hmem List.not_mem_nil
  | parcel :: rest, r, call, hget, hpc, hmem, hhandler => by
    have hstep : r.step (.handle k 0 []) =
        some ({ r with passed := parcel :: r.passed }.setCall k call (.deliver rest)) := by
      simp only [step, hget, Option.bind_some, handle, hpc, pass_of_handler r parcel hhandler]
    rcases List.mem_cons.1 hmem with rfl | hmem
    · exact ⟨1, _, run_cons_eq_some.2 ⟨_, hstep, rfl⟩, List.mem_cons_self⟩
    · obtain ⟨n, r', hrun, hpassed⟩ := passes_call
        (r := { r with passed := parcel :: r.passed }.setCall k call (.deliver rest))
        (Table.get?_insert_self _ _ _) rfl hmem hhandler
      exact ⟨n + 1, r', run_cons_eq_some.2 ⟨_, hstep, hrun⟩, hpassed⟩

theorem passes_clock {conn : ℕ} : ∀ {parcels : List Parcel} {r : Reception},
    r.session.tasks.get? k = some (.clock conn .drain) →
    r.drains.get? k = some (.deliver parcels) → p ∈ parcels → r.session.binaryHandler = true →
    ∃ n r', run Reception.step r (List.replicate n (.drain k)) = some r' ∧ p ∈ r'.passed
  | [], _, _, _, hmem, _ => absurd hmem List.not_mem_nil
  | parcel :: rest, r, htask, hget, hmem, hhandler => by
    have hstep : r.step (.drain k) = some { r with
        passed := parcel :: r.passed
        drains := r.drains.insert k (.deliver rest) } := by
      simp only [step, htask, hget, drain, pass_of_handler r parcel hhandler]
    rcases List.mem_cons.1 hmem with rfl | hmem
    · exact ⟨1, _, run_cons_eq_some.2 ⟨_, hstep, rfl⟩, List.mem_cons_self⟩
    · obtain ⟨n, r', hrun, hpassed⟩ := passes_clock
        (r := { r with
          passed := parcel :: r.passed
          drains := r.drains.insert k (.deliver rest) })
        htask (Table.get?_insert_self _ _ _) hmem hhandler
      exact ⟨n + 1, r', run_cons_eq_some.2 ⟨_, hstep, hrun⟩, hpassed⟩

/-- **A parcel is passed**: whoever has it in hand goes on to pass it. -/
theorem passes (hserved : Served r) (hlive : Unstranded r p) (hmem : p ∈ r.parcels) :
    ∃ next n r', (∃ k, next = .handle k 0 [] ∨ next = .drain k) ∧
      run Reception.step r (List.replicate n next) = some r' ∧ p ∈ r'.passed := by
  rcases List.mem_append.1 hmem with hmem | hpassed
  · rcases List.mem_append.1 hmem with hmem | hmem
    · obtain ⟨call, hcall, hp⟩ := List.mem_flatMap.1 hmem
      obtain ⟨⟨k, call⟩, hentry, rfl⟩ := List.mem_map.1 hcall
      have hget := Table.mem_toList.1 hentry
      have hdeliver : ∃ parcels, call.pc = .deliver parcels := by
        cases hpc : call.pc with
        | deliver parcels => exact ⟨parcels, rfl⟩
        | readBinary | readStream _ | lock _ _ | returned =>
          rw [hpc] at hp
          exact absurd hp List.not_mem_nil
      obtain ⟨parcels, hpc⟩ := hdeliver
      rw [hpc] at hp
      have hhandler := hserved.calls k call hget (by
        rw [hpc]
        cases parcels with
        | nil => exact absurd hp List.not_mem_nil
        | cons _ _ => rfl)
      obtain ⟨n, r', hrun, hpassed⟩ := passes_call hget hpc hp hhandler
      exact ⟨_, n, r', ⟨k, .inl rfl⟩, hrun, hpassed⟩
    · obtain ⟨pc, hpc, hp⟩ := List.mem_flatMap.1 hmem
      obtain ⟨⟨k, pc⟩, hentry, rfl⟩ := List.mem_map.1 hpc
      have hget := Table.mem_toList.1 hentry
      obtain ⟨conn, htask⟩ := hlive k pc hget hp
      cases pc with
      | take => exact absurd hp List.not_mem_nil
      | deliver parcels =>
        obtain ⟨n, r', hrun, hpassed⟩ := passes_clock htask hget hp (hserved.drains k _ hget)
        exact ⟨_, n, r', ⟨k, .inr rfl⟩, hrun, hpassed⟩
  · exact ⟨.drain 0, 0, r, ⟨0, .inr rfl⟩, rfl, hpassed⟩

/-! ## Runs -/

/-- What every state reached has: handlers for who relies on them, and
tickets that count. -/
structure Sound (r : Reception) : Prop where
  served : Served r
  numbered : Numbered r

theorem Sound.step (h : Sound r) (hstep : r.step a = some r') : Sound r' := by
  have hturns := step_turns hstep
  obtain ⟨taken, hissues, -⟩ := step_issues h.served hturns
  exact ⟨h.served.turns hturns, h.numbered.issues hissues⟩

theorem sound_of_run {config : TransferConfig} {start : ℕ} {acts : List Action}
    (hrun : run Reception.step (new config start) acts = some r) : Sound r :=
  run_induct (I := Sound) (fun _ _ _ h hstep => h.step hstep)
    ⟨served_new config start, .refl _⟩ hrun

/-- A parcel stays, under its ticket. -/
theorem mem_parcels_step (hsound : Sound r) (hstep : r.step a = some r') (hmem : p ∈ r.parcels) :
    p ∈ r'.parcels := by
  obtain ⟨taken, hissues, -⟩ := step_issues hsound.served (step_turns hstep)
  exact hissues.parcels.mem_iff.2 (List.mem_append_right _ hmem)

/-- The parcels of a transaction issued since. -/
def issuedSince (since : ℕ) (id : TxId) (r : Reception) : List Parcel :=
  r.parcels.filter fun p => decide (since ≤ p.ticket ∧ p.txid = id)

/-- The payload is in its slot, and no parcel of its transaction has been
issued since. -/
def Retained (since : ℕ) (id : TxId) (payload : Bytes) (r : Reception) : Prop :=
  Holds r.session.state id payload ∧ issuedSince since id r = []

/-- The parcel is there once, no other has its ticket, and whoever has it in
hand passes it. -/
def Delivered (p : Parcel) (r : Reception) : Prop :=
  r.parcels.filter (fun q => decide (q.ticket = p.ticket)) = [p] ∧
    ∃ next n r', (∃ k, next = .handle k 0 [] ∨ next = .drain k) ∧
      run Reception.step r (List.replicate n next) = some r' ∧ p ∈ r'.passed

/-- The step emptied the slot and issued one parcel for it. -/
def TakenOnce (since : ℕ) (id : TxId) (payload : Bytes) (r : Reception) (p : Parcel) : Prop :=
  r.session.state.reassembler.slots.get? id = none ∧ issuedSince since id r = [p] ∧
    p.payload = payload

/-- What was taken once is delivered in every state that follows. -/
theorem delivered_of_run {acts : List Action} (hsound : Sound r) (hlive : Unstranded r p)
    (hmem : p ∈ r.parcels) (hmeets : RunMeets Reception.step (Undisturbed id) r acts)
    (hrun : run Reception.step r acts = some r') : Delivered p r' := by
  have hfinal : Sound r' ∧ Unstranded r' p ∧ p ∈ r'.parcels :=
    run_induct_of (I := fun r => Sound r ∧ Unstranded r p ∧ p ∈ r.parcels)
      (fun t a t' ⟨hs, hl, hm⟩ hfree hstep =>
        ⟨hs.step hstep, hl.turns hfree (step_turns hstep), mem_parcels_step hs hstep hm⟩)
      ⟨hsound, hlive, hmem⟩ hmeets hrun
  obtain ⟨hs, hl, hm⟩ := hfinal
  exact ⟨hs.numbered.alone hm, passes hs.served hl hm⟩

/-- The parcels issued since, after a step. -/
theorem issuedSince_issues {since : ℕ} {taken : List (TxId × Bytes)} (hle : since ≤ r.tickets)
    (hissues : Issues r r' taken) (hnone : issuedSince since id r = []) :
    (issuedSince since id r').Perm
      ((Parcel.wrap r.tickets taken).filter fun p => decide (p.txid = id)) := by
  have hperm := hissues.parcels.filter fun p => decide (since ≤ p.ticket ∧ p.txid = id)
  have hnew : (Parcel.wrap r.tickets taken).filter
      (fun p => decide (since ≤ p.ticket ∧ p.txid = id)) =
      (Parcel.wrap r.tickets taken).filter fun p => decide (p.txid = id) := by
    refine List.filter_congr fun q hq => ?_
    have hq := Parcel.le_of_mem_wrap hq
    exact decide_eq_decide.2 ⟨fun h => h.2, fun h => ⟨by omega, h⟩⟩
  rw [List.filter_append, hnew, show r.parcels.filter _ = [] from hnone, List.append_nil] at hperm
  exact hperm

/-- One step on: the payload stays retained, or the step issued one parcel
for it, under a new ticket. -/
theorem retained_or_taken {since : ℕ} {taken : List (TxId × Bytes)} (hle : since ≤ r.tickets)
    (hissues : Issues r r' taken) (hnone : issuedSince since id r = [])
    (hkeeps : KeepsHeld r' taken id payload) :
    Retained since id payload r' ∨
      ∃ p, TakenOnce since id payload r' p ∧ r.tickets ≤ p.ticket ∧ p ∈ r'.parcels := by
  have hperm := issuedSince_issues hle hissues hnone
  have hwrap := Parcel.map_filter_wrap id r.tickets taken
  rcases hkeeps with ⟨hold, hnothing⟩ | ⟨hgone, htaken⟩
  · rw [hnothing, List.map_eq_nil_iff] at hwrap
    rw [hwrap] at hperm
    exact .inl ⟨hold, List.perm_nil.1 hperm⟩
  · rw [htaken] at hwrap
    obtain ⟨p, hp, hpair⟩ := List.map_eq_singleton_iff.1 hwrap
    rw [hp] at hperm
    have hissued : issuedSince since id r' = [p] := List.perm_singleton.1 hperm
    have hnew : p ∈ Parcel.wrap r.tickets taken :=
      (List.mem_filter.1 (hp ▸ List.mem_singleton_self p)).1
    have hmem : p ∈ r'.parcels := (List.mem_filter.1 (hissued ▸ List.mem_singleton_self p)).1
    exact .inr ⟨p, ⟨hgone, hissued, congrArg Prod.snd hpair⟩, Parcel.le_of_mem_wrap hnew, hmem⟩

/-- **A retained payload**, in a run that does not disturb it: it is still
there, or one step took it, once, and it is delivered. -/
theorem retained_run {since : ℕ} {acts : List Action} (hsound : Sound r) (hle : since ≤ r.tickets)
    (hretained : Retained since id payload r)
    (hmeets : RunMeets Reception.step (Undisturbed id) r acts)
    (hrun : run Reception.step r acts = some r') :
    Retained since id payload r' ∨
      ∃ first a rest r₂ r₃ p, acts = first ++ a :: rest ∧ run Reception.step r first = some r₂ ∧
        r₂.step a = some r₃ ∧ TakenOnce since id payload r₃ p ∧ Delivered p r' := by
  induction acts generalizing r with
  | nil =>
    rw [run_nil, Option.some.injEq] at hrun
    exact .inl (hrun ▸ hretained)
  | cons a rest ih =>
    obtain ⟨r₁, hstep, hrest⟩ := run_cons_eq_some.1 hrun
    have hturns := step_turns hstep
    obtain ⟨taken, hissues, hkeeps⟩ := step_issues hsound.served hturns
    have hle₁ : since ≤ r₁.tickets := by
      rw [hissues.tickets]
      omega
    rcases retained_or_taken hle hissues hretained.2 (hkeeps id payload hretained.1 hmeets.1) with
      hretained₁ | ⟨p, hp, hnew, hmem⟩
    · refine (ih (hsound.step hstep) hle₁ hretained₁ (hmeets.2 r₁ hstep) hrest).imp_right ?_
      rintro ⟨first, b, last, r₂, r₃, p, rfl, hfirst, hb, htakes⟩
      exact ⟨a :: first, b, last, r₂, r₃, p, rfl, run_cons_eq_some.2 ⟨r₁, hstep, hfirst⟩, hb,
        htakes⟩
    · have hlive := (hsound.numbered.unstranded hnew).turns hmeets.1 hturns
      refine .inr ⟨[], a, rest, r, r₁, p, rfl, rfl, hstep, hp, ?_⟩
      exact delivered_of_run (hsound.step hstep) hlive hmem (hmeets.2 r₁ hstep) hrest

/-! ## The completing frame -/

/-- Call `k` is about to store the frame that leaves the slot complete, and
the transaction is not the stream surface's. -/
def Completes (r : Reception) (k : ℕ) (id : TxId) (slot : Slot) : Prop :=
  ∃ call handlerPresent streamPresent emitted reassembler,
    r.calls.get? k = some call ∧ call.pc = .lock handlerPresent streamPresent ∧
    call.frame.frameType = .dataBinary ∧ call.frame.transactionId = id ∧
    r.session.state.reassembler.receive call.frame streamPresent =
      (.ok (.accepted true emitted), reassembler) ∧
    reassembler.slots.get? id = some slot ∧ id ∉ r.session.state.streamOwned ∧
    (streamPresent = true → call.frame.seq = 0 →
      r.session.state.reassembler.containsTransaction id = true)

theorem Completes.undisturbed {slot : Slot} {now : ℕ} {outcomes : List Bool}
    (h : Completes r k id slot) : Undisturbed id r (.handle k now outcomes) := by
  obtain ⟨call, handlerPresent, streamPresent, emitted, reass, hget, hpc, htype, -⟩ := h
  intro call' hget' _
  rw [hget] at hget'
  cases hget'
  simp only [cancels, htype]

/-- The completing section retains the payload or takes it. -/
theorem Completes.keeps {slot : Slot} {now : ℕ} {outcomes : List Bool} (h : Completes r k id slot)
    (hstep : r.step (.handle k now outcomes) = some r') :
    ∃ taken, Issues r r' taken ∧ KeepsHeld r' taken id slot.assembled := by
  obtain ⟨call, handlerPresent, streamPresent, emitted, reass, hget, hpc, htype, rfl, hreceive,
    hslot, hfree, hopens⟩ := h
  have hr' : r' = r.locked k call handlerPresent streamPresent now outcomes := by
    simp only [step, hget, Option.bind_some, handle, hpc, Option.some.injEq] at hstep
    exact hstep.symm
  subst hr'
  refine ⟨_, locked_issues hget hpc, ?_⟩
  have hc : slot.isComplete = true := by
    have hfeeds := r.session.state.reassembler.receive_feeds call.frame streamPresent
    rw [hreceive] at hfeeds
    generalize hflag : true = flag at hfeeds
    cases hfeeds with
    | stored hslot' hroom hget' hothers hnew =>
      rw [hget', Option.some.injEq] at hslot
      rw [← hslot, ← hflag]
  have hquiet : (streamPresent && decide (call.frame.seq = 0) &&
      !r.session.state.reassembler.containsTransaction call.frame.transactionId) = false := by
    by_contra hopen
    simp only [Bool.not_eq_false, Bool.and_eq_true, decide_eq_true_eq, Bool.not_eq_true'] at hopen
    rw [hopens hopen.1.1 hopen.1.2] at hopen
    cases hopen.2
  let h := (Handling.start (r.session.state.touch now) outcomes).withState
    ((r.session.state.touch now).withReassembler reass)
  have hkeeps : Handling.Keeps h (h.dataAccepted call.frame false slot.isComplete emitted
      handlerPresent) call.frame.transactionId slot.assembled :=
    Handling.dataAccepted_keeps hslot hc hfree
  have hsection : handleInbound r.session.state call.frame handlerPresent streamPresent now
      outcomes = h.dataAccepted call.frame false slot.isComplete emitted handlerPresent := by
    rw [hc, ← hquiet]
    simp only [handleInbound, Handling.dispatch, htype]
    exact Handling.onDataFrame_of_accepted handlerPresent hreceive
  rw [KeepsHeld, state_locked, hsection]
  exact hkeeps

theorem Numbered.issuedSince (h : Numbered r) : issuedSince r.tickets id r = [] := by
  refine List.filter_eq_nil_iff.2 fun p hp hsel => ?_
  have hlt := List.mem_range.1 (h.mem_iff.1 (List.mem_map_of_mem hp))
  have hle := (of_decide_eq_true hsel).1
  omega

/-- **A payload completed outside the stream surface is retained or passed
exactly once.** From the frame that completes its slot on, in every run that
neither discards the transaction nor stops a clock with payloads in hand,
the payload is in the complete slot and no parcel of it has been issued; or
one step emptied the slot and issued one parcel with the stored frames in
`seq` order, and that parcel has been passed or its holder goes on to pass
it. `RESUME` and `TRANSACTION_COMPLETED` are among the frames of the run. -/
theorem retained_or_passed_once {config : TransferConfig} {start now : ℕ} {outcomes : List Bool}
    {before acts : List Action} {r₀ r₁ : Reception} {slot : Slot}
    (hreach : run Reception.step (new config start) before = some r₀)
    (hcompletes : Completes r₀ k id slot) (hfirst : r₀.step (.handle k now outcomes) = some r₁)
    (hmeets : RunMeets Reception.step (Undisturbed id) r₁ acts)
    (hrun : run Reception.step r₁ acts = some r) :
    Retained r₀.tickets id slot.assembled r ∨
      ∃ first a rest r₂ r₃ p, .handle k now outcomes :: acts = first ++ a :: rest ∧
        run Reception.step r₀ first = some r₂ ∧ r₂.step a = some r₃ ∧
        TakenOnce r₀.tickets id slot.assembled r₃ p ∧ Delivered p r := by
  have hsound := sound_of_run hreach
  obtain ⟨taken, hissues, hkeeps⟩ := hcompletes.keeps hfirst
  have hle : r₀.tickets ≤ r₁.tickets := by
    rw [hissues.tickets]
    omega
  rcases retained_or_taken (Nat.le_refl _) hissues hsound.numbered.issuedSince hkeeps with
    hretained | ⟨p, hp, hnew, hmem⟩
  · refine (retained_run (hsound.step hfirst) hle hretained hmeets hrun).imp_right ?_
    rintro ⟨first, a, rest, r₂, r₃, p, rfl, hr₂, ha, htakes⟩
    exact ⟨_ :: first, a, rest, r₂, r₃, p, rfl, run_cons_eq_some.2 ⟨r₁, hfirst, hr₂⟩, ha, htakes⟩
  · have hlive := (hsound.numbered.unstranded hnew).turns hcompletes.undisturbed (step_turns hfirst)
    refine .inr ⟨[], _, acts, r₀, r₁, p, rfl, rfl, hfirst, hp, ?_⟩
    exact delivered_of_run (hsound.step hfirst) hlive hmem hmeets hrun

namespace Sample

/-- A one-byte payload arrives before there is a handler; its call is at the
locked section. -/
def arrived : List Action :=
  (Session.wireUp 0 0 1 0).map .session ++
    [.arrive 0 0 (dataFrame zeroId 1 0 [7]), .handle 0 0 [], .handle 0 0 []]

/-- A handler is registered, a `TRANSACTION_COMPLETED` comes in, and the
clock ticks and drains. -/
def deferred : List Action :=
  .session .onBinary :: (handled 1 0 (completedFrame zeroId) ++
    .session (.advance 1 100 []) :: List.replicate 3 (.drain 1))

def atLock : Reception := (run Reception.step (new {} 0) arrived).getD (new {} 0)

def retained : Reception := (atLock.step (.handle 0 0 [])).getD atLock

def delivered : Reception := (run Reception.step retained deferred).getD retained

theorem run_arrived : run Reception.step (new {} 0) arrived = some atLock :=
  Option.eq_some_iff_get_eq.2 ⟨by decide, rfl⟩

theorem step_atLock : atLock.step (.handle 0 0 []) = some retained :=
  Option.eq_some_iff_get_eq.2 ⟨by decide, rfl⟩

theorem run_deferred : run Reception.step retained deferred = some delivered :=
  Option.eq_some_iff_get_eq.2 ⟨by decide, rfl⟩

theorem completes_atLock :
    Completes atLock 0 zeroId ((Slot.opened 1).store 0 [7]) :=
  ⟨⟨0, dataFrame zeroId 1 0 [7], .lock false false⟩, false, false, [], _, by decide, rfl, rfl, rfl,
    rfl, rfl, by decide, fun h => (by cases h)⟩

end Sample

instance (id : TxId) (r : Reception) (a : Action) : Decidable (Undisturbed id r a) := by
  cases a with
  | session a => cases a <;> (unfold Undisturbed; infer_instance)
  | arrive k conn frame => exact isTrue trivial
  | handle k now outcomes => unfold Undisturbed; infer_instance
  | drain k => exact isTrue trivial

theorem retained_or_passed_once_sample :
    ∃ p, Sample.delivered.passed = [p] ∧ p.payload = [7] ∧ Delivered p Sample.delivered := by
  have hmeets : RunMeets Reception.step (Undisturbed zeroId) Sample.retained Sample.deferred := by
    decide
  have hparcels : Sample.delivered.parcels = [⟨0, zeroId, [7]⟩] := by decide
  have hgone : (Sample.delivered.session.state.reassembler.slots.get? zeroId).isNone = true := by
    decide
  have hpassed : Sample.delivered.passed = [⟨0, zeroId, [7]⟩] := by decide
  rcases retained_or_passed_once Sample.run_arrived Sample.completes_atLock Sample.step_atLock
    hmeets Sample.run_deferred with ⟨⟨slot, hget, -⟩, -⟩ |
      ⟨first, a, rest, r₂, r₃, p, -, -, -, -, hdelivered⟩
  · rw [hget] at hgone
    cases hgone
  · have hmem : p ∈ Sample.delivered.parcels :=
      (List.mem_filter.1 (hdelivered.1 ▸ List.mem_singleton_self p)).1
    rw [hparcels, List.mem_singleton] at hmem
    subst hmem
    exact ⟨_, hpassed, rfl, hdelivered⟩

end Reception

end Transfer

end Xacpp
