import Xacpp.Link.Wire
/-!
# The two sides of one transaction

While a copy is pending, everything about its transaction agrees with one
list of payloads, those cut so far: the copy, the frames tasks hold and
those on their way, the slot at the receiver, and the acknowledgements on
their way back (`Agree`). The list is history and only grows. An id is
opened where nothing of an earlier use is left (`Fresh`); this is all the
agreement needs, and with it no acknowledgement releases a copy while the
receiver still awaits frames.
-/

namespace Xacpp

open Reliability Transfer

namespace Link

variable {l l' : Link} {a : Action} {id : TxId} {txn txn' : PendingTxn}
variable {framed : List Bytes} {appended : Bytes}

/-- The acknowledgements on their way to the holder. -/
def acks (l : Link) : List AckEntry := (l.incoming.frames.filterMap acknowledged?).flatten

theorem mem_acks {entry : AckEntry} :
    entry ∈ l.acks ↔
      ∃ f ∈ l.incoming.frames, ∃ entries, acknowledged? f = some entries ∧ entry ∈ entries := by
  unfold acks
  rw [List.mem_flatten]
  constructor
  · rintro ⟨entries, hentries, hentry⟩
    obtain ⟨f, hf, hread⟩ := List.mem_filterMap.1 hentries
    exact ⟨f, hf, entries, hread, hentry⟩
  · rintro ⟨f, hf, entries, hread, hentry⟩
    exact ⟨entries, List.mem_filterMap.2 ⟨f, hf, hread⟩, hentry⟩

/-- A data frame of the transaction that a task holds or that is on its
way. -/
def Underway (l : Link) (id : TxId) (f : Frame) : Prop :=
  f.frameType = .dataBinary ∧ f.transactionId = id ∧
    (Session.Held l.holder f ∨ f ∈ l.outgoing.frames)

/-- Nothing of an earlier use of the id is left. -/
def Fresh (l : Link) (id : TxId) : Prop :=
  l.receiver.state.reassembler.containsTransaction id = false ∧
    (∀ entry ∈ l.acks, entry.transactionId ≠ id) ∧
    (∀ t ∈ l.holder.tasks.values, ∀ f ∈ t.holding, f.transactionId ≠ id) ∧
    ∀ f ∈ l.outgoing.frames, f.frameType = .dataBinary → f.transactionId ≠ id

instance (l : Link) (id : TxId) : Decidable (l.Fresh id) := inferInstanceAs (Decidable (_ ∧ _))

theorem Fresh.not_underway (h : l.Fresh id) (f : Frame) : ¬ l.Underway id f := by
  rintro ⟨htype, hid, ⟨k, t, hget, hf⟩ | hf⟩
  · have hvalue : t ∈ l.holder.tasks.values :=
      Table.mem_values.2 ⟨k, hget⟩
    exact h.2.2.1 t hvalue f hf hid
  · exact h.2.2.2 f hf htype hid

/-- **The two sides agree** on what has been cut of the transaction. -/
structure Agree (l : Link) (id : TxId) (txn : PendingTxn) (framed : List Bytes)
    (appended : Bytes) : Prop where
  total : txn.totalLen ≠ 0
  holds : txn.Holds id txn.totalLen framed appended
  lags : txn.Lags framed
  frames : ∀ f, l.Underway id f →
    ∃ i p, framed[i]? = some p ∧ f = dataFrame id txn.totalLen i p
  slot : ∀ slot, l.receiver.state.reassembler.slots.get? id = some slot →
    slot.Stores txn.totalLen framed
  reports : ∀ entry ∈ l.acks, entry.transactionId = id → Reports entry framed
  /-- A slot awaited since the connection began has not been reported
  whole. -/
  awaited : id ∈ l.carried → txn.isFullySent = true → ∀ entry ∈ l.acks,
    entry.transactionId = id → entry.receivedFrames.toNat < framed.length

/-- Every copy of the holder agrees with what there is of it. -/
def Agreed (l : Link) : Prop :=
  ∀ id txn, l.holder.state.sender.pending.get? id = some txn →
    ∃ framed appended, Agree l id txn framed appended

theorem Agree.fits (h : Agree l id txn framed appended) :
    framed.flatten.length ≤ txn.totalLen.toNat :=
  h.holds.flatten_length_le.trans h.holds.fits

/-! ## Steps of the holder -/

/-- A frame underway was underway, or is copied on one side of the step. -/
theorem underway_origin {a : Session.Action} {f : Frame} (hl : l.holder.Framing)
    (hstep : l.step (.holder a) = some l') (h : l'.Underway id f) :
    l.Underway id f ∨ l.holder.state.sender.Copies f ∨ l'.holder.state.sender.Copies f := by
  have hs := holder_step hstep
  obtain ⟨htype, hid, hheld | hf⟩ := h
  · rcases Session.held_origin hs.session hheld with hheld | hcopied
    · exact .inl ⟨htype, hid, .inl hheld⟩
    · exact .inr (.inr hcopied)
  · rw [hs.outgoing] at hf
    rcases Pipe.mem_frames_foldl.1 hf with hf | ⟨w, hw, rfl⟩
    · exact .inl ⟨htype, hid, .inr hf⟩
    · rcases Session.data_of_sent hl hs.session hw htype with hheld | hcopied
      · exact .inl ⟨htype, hid, .inl hheld⟩
      · exact .inr (.inl hcopied)

/-- A frame the sender copies is one of the copy of its id. -/
theorem copies_of_id {s : Session} (hs : Session.AllHold s) {f : Frame}
    (hf : s.state.sender.Copies f) (hid : f.transactionId = id) :
    ∃ txn, s.state.sender.pending.get? id = some txn ∧ some f ∈ txn.frames := by
  obtain ⟨id', txn, hget, hmem⟩ := hf
  obtain ⟨framed, appended, hholds⟩ := hs id' txn hget
  obtain ⟨i, p, -, rfl⟩ := hholds.mem hmem
  have heq : id' = id := hid
  exact ⟨txn, heq ▸ hget, hmem⟩

theorem getElem?_append_of_some {ps : List Bytes} {i : ℕ} {p : Bytes} (h : framed[i]? = some p) :
    (framed ++ ps)[i]? = some p := by
  rw [List.getElem?_append_left (List.getElem?_eq_some_iff.1 h).1]
  exact h

/-- The copy moves on, and everything else about the transaction was there
before or is copied. -/
theorem Agree.moves {ps : List Bytes} {appended' : Bytes} (h : Agree l id txn framed appended)
    (htotal : txn'.totalLen = txn.totalLen)
    (hholds : txn'.Holds id txn.totalLen (framed ++ ps) appended')
    (hlags : txn'.Lags (framed ++ ps))
    (hsent : txn'.isFullySent = true → txn.isFullySent = true ∨ ps ≠ [])
    (hunder : ∀ f, l'.Underway id f →
      l.Underway id f ∨ some f ∈ txn.frames ∨ some f ∈ txn'.frames)
    (hacks : ∀ entry ∈ l'.acks, entry ∈ l.acks) (hreceiver : l'.receiver = l.receiver)
    (hcarried : l'.carried = l.carried) : Agree l' id txn' (framed ++ ps) appended' := by
  rw [← htotal] at hholds
  refine ⟨htotal ▸ h.total, hholds, hlags, fun f hf => ?_, fun slot hget => ?_,
    fun entry hentry hid => (h.reports entry (hacks entry hentry) hid).append ps, ?_⟩
  · have hold : (∃ i p, framed[i]? = some p ∧ f = dataFrame id txn.totalLen i p) →
        ∃ i p, (framed ++ ps)[i]? = some p ∧ f = dataFrame id txn'.totalLen i p := by
      rintro ⟨i, p, hp, hframe⟩
      exact ⟨i, p, getElem?_append_of_some hp, htotal ▸ hframe⟩
    rcases hunder f hf with hf | hf | hf
    · exact hold (h.frames f hf)
    · exact hold (h.holds.mem hf)
    · exact hholds.mem hf
  · rw [hreceiver] at hget
    rw [htotal]
    exact (h.slot slot hget).append ps
  · intro hid hsent' entry hentry hentryid
    rw [List.length_append]
    rcases hsent hsent' with hwas | hmore
    · have hlt := h.awaited (hcarried ▸ hid) hwas entry (hacks entry hentry) hentryid
      omega
    · have hle := (h.reports entry (hacks entry hentry) hentryid).le
      have hpos := List.length_pos_iff.2 hmore
      omega

/-- A copy that rests, with the same reports behind it. -/
theorem Agree.rests (h : Agree l id txn framed appended) (hgates : txn.Gates txn')
    (hunder : ∀ f, l'.Underway id f →
      l.Underway id f ∨ some f ∈ txn.frames ∨ some f ∈ txn'.frames)
    (hacks : ∀ entry ∈ l'.acks, entry ∈ l.acks) (hreceiver : l'.receiver = l.receiver)
    (hcarried : l'.carried = l.carried) : Agree l' id txn' (framed ++ []) appended := by
  have hlags := h.lags.congr hgates.same hgates.received
  have hholds := h.holds.congr hgates.same
  rw [← List.append_nil framed] at hlags hholds
  refine h.moves hgates.same.totalLen hholds hlags (fun hsent => .inl ?_) hunder hacks hreceiver
    hcarried
  rw [← hgates.same.isFullySent]
  exact hsent

/-- What acknowledgements on their way leave of a copy: its contents and
its lag. -/
structure Acked (txn : PendingTxn) (id : TxId) (framed : List Bytes) (appended : Bytes)
    (copy : PendingTxn) : Prop where
  total : copy.totalLen = txn.totalLen
  holds : copy.Holds id txn.totalLen framed appended
  lags : copy.Lags framed
  sent : copy.isFullySent = txn.isFullySent

theorem Agree.acked_self (h : Agree l id txn framed appended) : Acked txn id framed appended txn :=
  ⟨rfl, h.holds, h.lags, rfl⟩

theorem Agree.acked (h : Agree l id txn framed appended) {copy : PendingTxn} {now : ℕ}
    (hcopy : Acked txn id framed appended copy) {entry : AckEntry} (hentry : entry ∈ l.acks)
    (hid : entry.transactionId = id) (hopen : (copy.acked entry now).isFullyAcked = false) :
    Acked txn id framed appended (copy.acked entry now) :=
  ⟨hcopy.total, hcopy.holds.acked,
    hcopy.lags.acked hcopy.holds (h.reports entry hentry hid) hopen, hcopy.sent⟩

/-- **An acknowledgement on its way completes no awaited transaction.** -/
theorem Agree.acked_awaited (h : Agree l id txn framed appended) (hcarried : id ∈ l.carried)
    {copy : PendingTxn} {now : ℕ} (hcopy : Acked txn id framed appended copy) {entry : AckEntry}
    (hentry : entry ∈ l.acks) (hid : entry.transactionId = id) :
    (copy.acked entry now).isFullyAcked = false ∧
      Acked txn id framed appended (copy.acked entry now) := by
  have hlags : (copy.acked entry now).Lags framed :=
    hcopy.lags.acked_of_lt (h.reports entry hentry hid).le fun hsent =>
      h.awaited hcarried (hcopy.sent ▸ hsent) entry hentry hid
  exact ⟨hlags.not_isFullyAcked hcopy.holds.acked,
    ⟨hcopy.total, hcopy.holds.acked, hlags, hcopy.sent⟩⟩

/-- What the holder handles was on its way. -/
theorem mem_acks_of_handle {conn now : ℕ} {frame : Frame} {outcomes : List Bool} {incoming : Pipe}
    {entries : List AckEntry}
    (hhandle : l.incoming.handle l.conn (.inbound conn frame now outcomes) = some incoming)
    (hread : acknowledged? frame = some entries) : ∀ entry ∈ entries, entry ∈ l.acks :=
  fun _ hentry => mem_acks.2 ⟨frame, (Pipe.of_handle hhandle).2, entries, hread, hentry⟩

/-- Acknowledgements only leave the pipe. -/
theorem acks_of_holder {a : Session.Action} (hstep : l.step (.holder a) = some l') :
    ∀ entry ∈ l'.acks, entry ∈ l.acks := by
  obtain ⟨-, hhandle, -⟩ := holder_step hstep
  intro entry hentry
  obtain ⟨f, hf, entries, hread, hin⟩ := mem_acks.1 hentry
  exact mem_acks.2 ⟨f, Pipe.mem_frames_of_handle hhandle hf, entries, hread, hin⟩

theorem mem_frames_of_copies (hl : l.holder.Framing)
    (hget : l.holder.state.sender.pending.get? id = some txn) {f : Frame}
    (hid : f.transactionId = id) (hf : l.holder.state.sender.Copies f) : some f ∈ txn.frames := by
  obtain ⟨txn₁, hget₁, hmem⟩ := copies_of_id hl.hold hf hid
  rw [hget, Option.some.injEq] at hget₁
  exact hget₁ ▸ hmem

/-- A copy opened under a fresh id has everything that is underway. -/
theorem Fresh.agree {a : Session.Action} (h : l.Fresh id) (hl : l.holder.Framing)
    (hstep : l.step (.holder a) = some l')
    (hnew : l.holder.state.sender.pending.get? id = none)
    (hget' : l'.holder.state.sender.pending.get? id = some txn')
    (hreceived : txn'.ackedReceived = 0) (htotal : txn'.totalLen ≠ 0) :
    ∃ framed appended, Agree l' id txn' framed appended := by
  obtain ⟨hs, -, -, -, hreceiver, -⟩ := holder_step hstep
  have hl' := hl.step hs
  have hnone : ∀ entry ∈ l'.acks, entry.transactionId ≠ id :=
    fun entry hentry => h.2.1 entry (acks_of_holder hstep entry hentry)
  obtain ⟨framed, appended, hholds⟩ := hl'.hold id txn' hget'
  refine ⟨framed, appended, htotal, hholds, .of_fresh hholds htotal hreceived, fun f hf => ?_,
    fun slot hslot => ?_, fun entry hentry hid => absurd hid (hnone entry hentry),
    fun _ _ entry hentry hid => absurd hid (hnone entry hentry)⟩
  · have hid := hf.2.1
    rcases underway_origin hl hstep hf with hf | hf | hf
    · exact absurd hf (h.not_underway f)
    · obtain ⟨txn₁, hget₁, -⟩ := copies_of_id hl.hold hf hid
      rw [hnew] at hget₁
      cases hget₁
    · exact hholds.mem (mem_frames_of_copies hl' hget' hid hf)
  · have hcontains := h.1
    rw [hreceiver] at hslot
    rw [TransactionReassembler.containsTransaction, Table.contains, hslot] at hcontains
    cases hcontains

/-- **A step of the holder keeps the agreement**, if what it opens is
fresh. -/
theorem Agreed.holder {a : Session.Action} (h : Agreed l) (hl : l.holder.Framing)
    (hstep : l.step (.holder a) = some l')
    (hfresh : ∀ id ∈ l.holder.opens a,
      l.holder.state.sender.containsTransaction id = false → l.Fresh id) : Agreed l' := by
  intro id txn' hget'
  obtain ⟨hs, hhandle, -, -, hreceiver, hcarried, -, -⟩ := holder_step hstep
  have hl' := hl.step hs
  have hacks := acks_of_holder hstep
  have hunder : ∀ {txn}, l.holder.state.sender.pending.get? id = some txn →
      ∀ f, l'.Underway id f → l.Underway id f ∨ some f ∈ txn.frames ∨ some f ∈ txn'.frames := by
    intro txn hget f hf
    have hid := hf.2.1
    rcases underway_origin hl hstep hf with hf | hf | hf
    · exact .inl hf
    · exact .inr (.inl (mem_frames_of_copies hl hget hid hf))
    · exact .inr (.inr (mem_frames_of_copies hl' hget' hid hf))
  have hgates : ∀ {txn}, l.holder.state.sender.pending.get? id = some txn → txn.Gates txn' →
      ∃ framed appended, Agree l' id txn' framed appended := by
    intro txn hget hgates
    obtain ⟨framed, appended, hagree⟩ := h id txn hget
    exact ⟨_, _, hagree.rests hgates (hunder hget) hacks hreceiver hcarried⟩
  cases Session.step_fate hl.hold hs id with
  | rests hrel =>
    rw [hget'] at hrel
    generalize hget : l.holder.state.sender.pending.get? id = copy at hrel
    cases hrel with
    | some hrests => exact hgates hget hrests.toGates
  | armed harm hrel =>
    rw [hget'] at hrel
    generalize hget : l.holder.state.sender.pending.get? id = copy at hrel
    cases hrel with
    | some harmed => exact hgates hget harmed
  | @framed k now outcomes txn chunk rest ps hget hroom hps hne hleft =>
    rw [hget', Option.some.injEq] at hleft
    subst hleft
    obtain ⟨framed, appended, hagree⟩ := h id txn hget
    exact ⟨_, _, hagree.moves rfl ((hagree.holds.taken hroom).extend now hps hne)
      (hagree.lags.extend hps) (PendingTxn.isFullySent_of_extend hps) (hunder hget) hacks hreceiver
      hcarried⟩
  | opened hnew hopens hleft hgate hreceived htotal =>
    rw [hget', Option.some.injEq] at hleft
    subst hleft
    have hnot : l.holder.state.sender.containsTransaction id = false := by
      rw [TransactionSender.containsTransaction, Table.contains, hnew]
      rfl
    exact (hfresh id hopens hnot).agree hl hstep hnew hget' hreceived htotal
  | aborted htask hgone =>
    rw [hgone] at hget'
    cases hget'
  | @acked conn frame now outcomes entries hread hleft =>
    rw [hget'] at hleft
    cases hget : l.holder.state.sender.pending.get? id with
    | none =>
      rw [hget, PendingTxn.ackAll_none] at hleft
      cases hleft
    | some txn =>
      rw [hget] at hleft
      obtain ⟨framed, appended, hagree⟩ := h id txn hget
      have hin := mem_acks_of_handle hhandle hread
      have hacked := PendingTxn.ackAll_keeps (fun copy hcopy entry hentry hid hopen =>
        hagree.acked hcopy (hin entry hentry) hid hopen) hagree.acked_self hleft.symm
      have hholds := hacked.holds
      have hlags := hacked.lags
      rw [← List.append_nil framed] at hholds hlags
      exact ⟨_, _, hagree.moves hacked.total hholds hlags
        (fun hsent => .inl (hacked.sent ▸ hsent)) (hunder hget) hacks hreceiver hcarried⟩
  | ruled hread hnamed hgone =>
    rw [hgone] at hget'
    cases hget'

/-- **A transaction the receiver awaits is not released by what it has
acknowledged.** -/
theorem Agreed.kept_by_acks (h : Agreed l) {entries : List AckEntry} (now : ℕ)
    (hin : ∀ entry ∈ entries, entry ∈ l.acks) (hcarried : id ∈ l.carried)
    (hget : l.holder.state.sender.pending.get? id = some txn) :
    ∃ txn', PendingTxn.ackAll now id entries (some txn) = some txn' := by
  obtain ⟨framed, appended, hagree⟩ := h id txn hget
  obtain ⟨txn', hleft, -⟩ := PendingTxn.ackAll_induct (fun copy hcopy entry hentry hid =>
    hagree.acked_awaited hcarried hcopy (hin entry hentry) hid) hagree.acked_self
  exact ⟨txn', hleft⟩

/-! ## Steps of the receiver -/

/-- A frame on its way feeds the slot of its transaction. -/
theorem Agree.fed (h : Agree l id txn framed appended) {frame : Frame} {emit : Bool}
    (hf : l.Underway id frame) {slot' : Slot}
    (hget' : (l.receiver.state.reassembler.receive frame emit).2.slots.get? id = some slot') :
    slot'.Stores txn.totalLen framed := by
  obtain ⟨i, p, hp, rfl⟩ := h.frames frame hf
  have hi : i < 2 ^ 32 := (List.getElem?_eq_some_iff.1 hp).1.trans h.holds.length_lt
  generalize hres : l.receiver.state.reassembler.receive (dataFrame id txn.totalLen i p) emit = res
    at hget'
  cases hres ▸ TransactionReassembler.receives_dataFrame emit hi h.total hp h.fits h.slot with
  | dropped hnone hi | duplicate hget hmem => exact h.slot slot' hget'
  | @stored slot emitted r' hslot hnew hget =>
    have hstores : slot.Stores txn.totalLen framed := by
      rcases hslot with hslot | ⟨-, -, rfl⟩
      · exact h.slot slot hslot
      · exact .opened txn.totalLen framed
    rw [hget, Option.some.injEq] at hget'
    exact hget' ▸ hstores.store hp hnew

/-- **A step of the receiver keeps the agreement.** -/
theorem Agreed.receiver {a : Session.Action} (h : Agreed l) (hl : l.receiver.Framing)
    (hawaits : ∀ id ∈ l.carried, l.receiver.state.awaits id = true)
    (hstep : l.step (.receiver a) = some l') : Agreed l' := by
  intro id txn hget
  obtain ⟨hs, hhandle, hin, -, hholder, hcarried, -, -⟩ := receiver_step hstep
  rw [hholder] at hget
  obtain ⟨framed, appended, hagree⟩ := h id txn hget
  have hkept : id ∈ l'.carried → id ∈ l.carried ∧ l'.receiver.state.awaits id = true := by
    rw [hcarried]
    exact List.mem_filter.1
  have hway : ∀ {conn frame now outcomes}, a = .inbound conn frame now outcomes →
      frame.frameType = .dataBinary → frame.transactionId = id → l.Underway id frame := by
    rintro conn frame now outcomes rfl htype hid
    exact ⟨htype, hid, .inr (Pipe.of_handle hhandle).2⟩
  have horigin : ∀ entry ∈ l'.acks, entry ∈ l.acks ∨
      Session.Acknowledges l.receiver l'.receiver entry a := by
    intro entry hentry
    obtain ⟨f, hf, entries, hread, hmem⟩ := mem_acks.1 hentry
    rw [hin] at hf
    rcases Pipe.mem_frames_foldl.1 hf with hf | ⟨w, hw, rfl⟩
    · exact .inl (mem_acks.2 ⟨f, hf, entries, hread, hmem⟩)
    · exact .inr (Session.acknowledges_of_sent hl hs hw hread hmem)
  refine ⟨framed, appended, hagree.total, hagree.holds, hagree.lags, fun f hf => ?_,
    fun slot' hget' => ?_, fun entry hentry hid => ?_, fun hmem hsent entry hentry hid => ?_⟩
  · obtain ⟨htype, hid, hf⟩ := hf
    rw [hholder] at hf
    exact hagree.frames f ⟨htype, hid, hf.imp_right (Pipe.mem_frames_of_handle hhandle)⟩
  · cases Session.slot_origin hs hget' with
    | kept hget => exact hagree.slot slot' hget
    | fed hdata hid hfed => exact hagree.fed (hway rfl hdata hid) hfed
  · rcases horigin entry hentry with hwas | hnew
    · exact hagree.reports entry hwas hid
    · subst hid
      cases hnew with
      | exported hentry =>
        exact TransactionReassembler.reports_ackEntry hentry hagree.holds.length_lt hagree.slot
      | final htype hid hentry hdone =>
        exact TransactionReassembler.reports_ackEntry hentry hagree.holds.length_lt
          fun slot hslot => hagree.fed (hway rfl htype hid) hslot
  · obtain ⟨hwas, hstill⟩ := hkept hmem
    rcases horigin entry hentry with hbefore | hnew
    · exact hagree.awaited hwas hsent entry hbefore hid
    · subst hid
      cases hnew with
      | exported hentry =>
        obtain ⟨hall, hne⟩ := hagree.holds.of_isFullySent hagree.total hsent
        refine TransactionReassembler.received_lt_of_incomplete hentry hagree.holds.length_lt
          (fun slot hslot => ⟨hagree.slot slot hslot, ?_⟩) hall hne
        obtain ⟨slot₁, hget₁, hopen⟩ := Handling.awaits_iff.1 (hawaits _ hwas)
        rw [hslot, Option.some.injEq] at hget₁
        exact hget₁ ▸ hopen
      | final htype hid hentry hdone =>
        rw [hdone] at hstill
        cases hstill

/-! ## All steps -/

/-- What the action opens is fresh. -/
def OpensFresh (l : Link) : Action → Prop
  | .holder a => ∀ id ∈ l.holder.opens a,
      l.holder.state.sender.containsTransaction id = false → l.Fresh id
  | _ => True

instance decidableOpensFresh (l : Link) : ∀ a, Decidable (l.OpensFresh a)
  | .holder a => inferInstanceAs (Decidable (∀ id ∈ l.holder.opens a, _ → _))
  | .receiver .. | .pumpOutgoing | .pumpIncoming | .reconnect .. => isTrue trivial

/-- The pipes change, and nothing new is in them. -/
theorem Agreed.of_pipes (h : Agreed l) (hholder : l'.holder = l.holder)
    (hreceiver : l'.receiver = l.receiver) (hcarried : l'.acks = [] ∨ l'.carried = l.carried)
    (hout : ∀ f ∈ l'.outgoing.frames, f ∈ l.outgoing.frames)
    (hin : ∀ f ∈ l'.incoming.frames, f ∈ l.incoming.frames) : Agreed l' := by
  intro id txn hget
  rw [hholder] at hget
  obtain ⟨framed, appended, hagree⟩ := h id txn hget
  have hacks : ∀ entry ∈ l'.acks, entry ∈ l.acks := by
    intro entry hentry
    obtain ⟨f, hf, entries, hread, hmem⟩ := mem_acks.1 hentry
    exact mem_acks.2 ⟨f, hin f hf, entries, hread, hmem⟩
  refine ⟨framed, appended, hagree.total, hagree.holds, hagree.lags, fun f hf => ?_, ?_,
    fun entry hentry => hagree.reports entry (hacks entry hentry),
    fun hmem hsent entry hentry => ?_⟩
  · obtain ⟨htype, hid, hf⟩ := hf
    rw [hholder] at hf
    exact hagree.frames f ⟨htype, hid, hf.imp_right (hout f)⟩
  · rw [hreceiver]
    exact hagree.slot
  · rcases hcarried with hnone | hsame
    · rw [hnone] at hentry
      exact absurd hentry List.not_mem_nil
    · exact hagree.awaited (hsame ▸ hmem) hsent entry (hacks entry hentry)

theorem Agreed.new (holder receiver : TransferConfig) (now : ℕ) :
    Agreed (new holder receiver now) := by
  intro id txn hget
  cases hget

/-- **Every step that opens fresh ids keeps the agreement.** -/
theorem Agreed.step (h : Agreed l) (hl : l.Framing)
    (hawaits : ∀ id ∈ l.carried, l.receiver.state.awaits id = true)
    (hfresh : l.OpensFresh a) (hstep : l.step a = some l') : Agreed l' := by
  cases a with
  | holder a => exact h.holder hl.holder hstep hfresh
  | receiver a => exact h.receiver hl.receiver hawaits hstep
  | pumpOutgoing =>
    cases step_steps hstep with
    | pumpOutgoing hpump =>
      exact h.of_pipes rfl rfl (.inr rfl) (fun f hf => (Pipe.mem_frames_pump hpump).1 hf)
        fun f hf => hf
  | pumpIncoming =>
    cases step_steps hstep with
    | pumpIncoming hpump =>
      exact h.of_pipes rfl rfl (.inr rfl) (fun f hf => hf)
        fun f hf => (Pipe.mem_frames_pump hpump).1 hf
  | reconnect c =>
    cases step_steps hstep with
    | reconnect hholder hreceiver =>
      exact h.of_pipes rfl rfl (.inl rfl) (fun f hf => absurd hf List.not_mem_nil)
        fun f hf => absurd hf List.not_mem_nil

end Link

end Xacpp
