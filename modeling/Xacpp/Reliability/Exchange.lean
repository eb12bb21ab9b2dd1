import Xacpp.Reliability.Holding
import Xacpp.Reliability.Model.Exchange
/-!
# Released copies are stored

The sender releases a frame on a cumulative report of the receiver, and
reports arrive late, twice or out of order. The joint invariant
(`Exchange.Inv`) says what every report in flight is worth: the frames up
to the reported one are stored, or the payload has been handed out
(`Covered`). Nothing the receiver does takes that back, so the merged
progress of the copy is covered, and with it every frame the copy has let
go. A completed transaction is therefore complete at the receiver, with
the bytes appended at the sender.
-/

namespace Xacpp

namespace Reliability

namespace Exchange

variable {txid : TxId} {total : UInt32} {x x' : Exchange} {i k : ℕ}

variable {r : TransactionReassembler} {entry : AckEntry} {txn : PendingTxn} {now : ℕ}

/-- The frames up to the `k`-th exist and are stored, unless the payload
has been handed out. -/
def Covered (txid : TxId) (x : Exchange) (k : ℕ) : Prop :=
  k < x.framed.length ∧ (x.handedOut ≠ [] ∨
    ∃ slot, x.receiver.slots.get? txid = some slot ∧ ∀ i ≤ k, i ∈ slot.frames)

/-- The sender still holds the `i`-th frame. -/
def Retains (txid : TxId) (x : Exchange) (i : ℕ) : Prop :=
  ∃ txn f, x.sender.pending.get? txid = some txn ∧ txn.frames[i]? = some (some f)

/-- The joint invariant. -/
structure Inv (txid : TxId) (total : UInt32) (x : Exchange) : Prop where
  owns : x.sender.OwnsFrames
  total_ne : total ≠ 0
  copy : ∀ txn, x.sender.pending.get? txid = some txn → txn.Holds txid total x.framed x.appended
  nonempty : ∀ p ∈ x.framed, p ≠ []
  fits : x.framed.flatten.length ≤ total.toNat
  slot : ∀ slot, x.receiver.slots.get? txid = some slot → slot.Stores total x.framed
  data : ∀ f ∈ x.data, f.transactionId = txid →
    ∃ i p, x.framed[i]? = some p ∧ f = dataFrame txid total i p
  acks : ∀ e ∈ x.acks, e.transactionId = txid ∧ Covered txid x e.highestContiguousSeq.toNat
  reported : ∀ txn k, x.sender.pending.get? txid = some txn → txn.ackedContiguous = some k →
    Covered txid x k
  released : ∀ i < x.framed.length, Retains txid x i ∨ Covered txid x i
  gone : x.sender.pending.get? txid = none →
    x.framed.flatten = x.appended ∧ x.appended.length = total.toNat
  handed : ∀ p ∈ x.handedOut, p = x.appended ∧ p.length = total.toNat

/-- Frame indices are machine words. -/
theorem Inv.length_lt (h : Inv txid total x) : x.framed.length < 2 ^ 32 := by
  have h₁ := length_le_length_flatten h.nonempty
  have h₂ := h.fits
  have h₃ := total.toNat_lt
  omega

/-- A transaction just opened. -/
theorem Inv.start {s₀ s : TransactionSender}
    (hown : s₀.OwnsFrames) (hopen : s₀.openTransaction txid total now = (.ok (), s))
    (hr : r.slots.get? txid = none) : Inv txid total (start s r) := by
  obtain ⟨-, hpos, txn, rfl, htotal, hframes, hstates, hpart, hwritten, -, -, -, hack⟩ :=
    TransactionSender.openTransaction_ok hopen
  have hget : (s₀.pending.insert txid txn).get? txid = some txn := Table.get?_insert_self _ _ _
  have hempty : ∀ f, some f ∉ txn.frames := fun f hf => by
    rw [hframes] at hf
    exact List.not_mem_nil hf
  refine ⟨hown.insert fun f hf => absurd hf (hempty f), hpos, fun txn' h => ?_,
    fun p hp => absurd hp List.not_mem_nil, Nat.zero_le _, fun slot h => ?_,
    fun f hf => absurd hf List.not_mem_nil, fun e he => absurd he List.not_mem_nil,
    fun txn' k h hk => ?_, fun i hi => absurd hi (Nat.not_lt_zero i), fun h => ?_,
    fun p hp => absurd hp List.not_mem_nil⟩
  · rw [Exchange.start, TransactionSender.withPending_pending, hget, Option.some.injEq] at h
    exact h ▸ PendingTxn.Holds.opened htotal hframes hstates hpart hwritten
  · rw [Exchange.start, hr] at h
    cases h
  · rw [Exchange.start, TransactionSender.withPending_pending, hget, Option.some.injEq] at h
    rw [← h, hack] at hk
    cases hk
  · rw [Exchange.start, TransactionSender.withPending_pending, hget] at h
    cases h

/-! ## Steps of the sender -/

/-- A step of the sender that leaves the copy's contents alone, and sends
frames of it. -/
theorem Inv.sameCopy {s : TransactionSender} (out : List Frame) (h : Inv txid total x)
    (hown : s.OwnsFrames)
    (hsome : ∀ txn, x.sender.pending.get? txid = some txn →
      ∃ txn', s.pending.get? txid = some txn' ∧ PendingTxn.SameCopy txn txn')
    (hnone : x.sender.pending.get? txid = none → s.pending.get? txid = none)
    (hout : ∀ f ∈ out, f.transactionId = txid →
      ∃ txn, x.sender.pending.get? txid = some txn ∧ some f ∈ txn.frames) :
    Inv txid total { x with sender := s, data := x.data ++ out } := by
  have hback : ∀ txn', s.pending.get? txid = some txn' →
      ∃ txn, x.sender.pending.get? txid = some txn ∧ PendingTxn.SameCopy txn txn' := by
    intro txn' h'
    cases hget : x.sender.pending.get? txid with
    | none => rw [hnone hget] at h'; cases h'
    | some txn =>
      obtain ⟨txn'', h'', hsame⟩ := hsome txn hget
      rw [h', Option.some.injEq] at h''
      exact ⟨txn, rfl, h'' ▸ hsame⟩
  refine ⟨hown, h.total_ne, ?_, h.nonempty, h.fits, h.slot, ?_, h.acks, ?_, ?_, ?_, h.handed⟩
  · intro txn' h'
    obtain ⟨txn, hget, hsame⟩ := hback txn' h'
    exact (h.copy txn hget).congr hsame
  · intro f hf hid
    rcases List.mem_append.1 hf with hf | hf
    · exact h.data f hf hid
    · obtain ⟨txn, hget, hmem⟩ := hout f hf hid
      exact (h.copy txn hget).mem hmem
  · intro txn' k h' hk
    obtain ⟨txn, hget, hsame⟩ := hback txn' h'
    exact h.reported txn k hget (hsame.ackedContiguous ▸ hk)
  · intro i hi
    refine (h.released i hi).imp_left ?_
    rintro ⟨txn, f, hget, hf⟩
    obtain ⟨txn', h', hsame⟩ := hsome txn hget
    exact ⟨txn', f, h', hsame.frames ▸ hf⟩
  · intro h'
    cases hget : x.sender.pending.get? txid with
    | none => exact h.gone hget
    | some txn =>
      obtain ⟨txn'', h'', -⟩ := hsome txn hget
      rw [h'] at h''
      cases h''

/-- The payloads recorded after a copy was extended are those it was
extended by. -/
theorem recut_eq {s : TransactionSender} {data : List Frame} {appended : Bytes} (txn : PendingTxn)
    {ps : List Bytes} {rest : Bytes}
    (hget : s.pending.get? txid = some (txn.extend txid ps rest now))
    (hlen : txn.frames.length = x.framed.length) :
    recut txid { x with sender := s, data := data, appended := appended } =
      { x with sender := s, data := data, appended := appended, framed := x.framed ++ ps } := by
  have hcut : (txn.extend txid ps rest now).frames.drop x.framed.length =
      (framesFrom txid txn.totalLen txn.frames.length ps).map some := by
    rw [← hlen]
    exact List.drop_left
  have hframes : ((framesFrom txid txn.totalLen txn.frames.length ps).map some).reduceOption =
      framesFrom txid txn.totalLen txn.frames.length ps := by
    change List.filterMap id _ = _
    rw [List.filterMap_map, Function.id_comp, List.filterMap_some]
  simp only [recut, hget, hcut]
  rw [hframes, map_payload_framesFrom]

/-- More frames only add to what is covered. -/
theorem Covered.append {x' : Exchange} {ps : List Bytes} (h : Covered txid x k)
    (hframed : x'.framed = x.framed ++ ps) (hreceiver : x'.receiver = x.receiver)
    (hhanded : x'.handedOut = x.handedOut) : Covered txid x' k := by
  refine ⟨?_, ?_⟩
  · rw [hframed, List.length_append]
    exact Nat.lt_add_right _ h.1
  · rw [hreceiver, hhanded]
    exact h.2

/-- A step of the sender that takes bytes and frames some of what it
holds. -/
theorem Inv.frame {chunk rest : Bytes} {ps : List Bytes} {out : List Frame}
    (h : Inv txid total x) (hget : x.sender.pending.get? txid = some txn)
    (hroom : txn.written + chunk.length ≤ txn.totalLen.toNat)
    (hps : ps.flatten ++ rest = txn.partialBytes ++ chunk) (hne : ∀ p ∈ ps, p ≠ [])
    (hout : out ⊆ framesFrom txid txn.totalLen txn.frames.length ps) :
    Inv txid total { x with
      sender := x.sender.withPending
        (x.sender.pending.insert txid ((txn.taken chunk).extend txid ps rest now))
      data := x.data ++ out
      appended := x.appended ++ chunk
      framed := x.framed ++ ps } := by
  have hcopy := h.copy txn hget
  have hnew := (hcopy.taken hroom).extend now hps hne
  have hself : (x.sender.pending.insert txid ((txn.taken chunk).extend txid ps rest now)).get?
      txid = some ((txn.taken chunk).extend txid ps rest now) := Table.get?_insert_self _ _ _
  have howned : (txn.taken chunk).OwnedBy txid := h.owns txid txn hget
  refine ⟨h.owns.insert howned.extend, h.total_ne, ?_, hnew.nonempty,
    hnew.flatten_length_le.trans hnew.fits, fun slot hs => (h.slot slot hs).append ps, ?_,
    fun e he => (h.acks e he).imp_right fun hcov => hcov.append rfl rfl rfl, ?_, ?_, ?_, ?_⟩
  · intro txn' h'
    rw [TransactionSender.withPending_pending, hself, Option.some.injEq] at h'
    exact h' ▸ hnew
  · intro f hf hid
    rcases List.mem_append.1 hf with hf | hf
    · obtain ⟨i, p, hp, rfl⟩ := h.data f hf hid
      exact ⟨i, p, by rw [List.getElem?_append_left (List.getElem?_eq_some_iff.1 hp).1, hp], rfl⟩
    · obtain ⟨i, p, hp, rfl⟩ := mem_framesFrom (hout hf)
      refine ⟨txn.frames.length + i, p, ?_, by rw [hcopy.totalLen]⟩
      rw [hcopy.frames_length, List.getElem?_append_right (Nat.le_add_right _ _),
        Nat.add_sub_cancel_left, hp]
  · intro txn' k h' hk
    rw [TransactionSender.withPending_pending, hself, Option.some.injEq] at h'
    rw [← h'] at hk
    exact (h.reported txn k hget hk).append rfl rfl rfl
  · intro i hi
    rcases Nat.lt_or_ge i x.framed.length with hlt | hge
    · refine (h.released i hlt).imp ?_ fun hcov => hcov.append rfl rfl rfl
      rintro ⟨txn₁, f, h₁, hf⟩
      rw [hget, Option.some.injEq] at h₁
      refine ⟨_, f, hself, ?_⟩
      rw [PendingTxn.extend, List.getElem?_append_left (hcopy.frames_length ▸ hlt)]
      exact h₁ ▸ hf
    · -- a frame cut in this step is held in full
      dsimp only at hi
      rw [List.length_append] at hi
      have hp : ps[i - x.framed.length]? = some ps[i - x.framed.length] :=
        List.getElem?_eq_getElem (by omega)
      refine .inl ⟨_, dataFrame txid txn.totalLen i ps[i - x.framed.length], hself, ?_⟩
      rw [PendingTxn.extend, List.getElem?_append_right (hcopy.frames_length ▸ hge),
        List.getElem?_map, getElem?_framesFrom]
      simp only [PendingTxn.taken, hcopy.frames_length, hp, Option.map_some]
      rw [Nat.add_sub_cancel' hge]
  · intro h'
    rw [TransactionSender.withPending_pending, hself] at h'
    cases h'
  · intro p hp
    obtain ⟨rfl, hfull⟩ := h.handed p hp
    -- the payload was handed out, so nothing was left to append
    have hchunk : chunk = [] := by
      rw [hcopy.written, hcopy.totalLen, hfull] at hroom
      exact List.length_eq_zero_iff.1 (by omega)
    exact ⟨by rw [hchunk, List.append_nil], hfull⟩

/-- What is covered is covered below. -/
theorem Covered.of_le (h : Covered txid x k) (hi : i ≤ k) : Covered txid x i :=
  ⟨Nat.lt_of_le_of_lt hi h.1, h.2.imp_right fun ⟨slot, hs, hall⟩ =>
    ⟨slot, hs, fun j hj => hall j (hj.trans hi)⟩⟩

/-- **A report in flight is true**, whenever it arrives: merged into the
progress the copy has, it is still covered. -/
theorem Inv.covered_merged (h : Inv txid total x)
    (he : entry ∈ x.acks) (hget : x.sender.pending.get? txid = some txn) :
    Covered txid x (txn.merged entry) := by
  have hcov := (h.acks entry he).2
  unfold PendingTxn.merged
  cases hk : txn.ackedContiguous with
  | none => exact hcov
  | some k =>
    dsimp only
    rcases Nat.le_total k entry.highestContiguousSeq.toNat with hle | hle
    · rwa [Nat.max_eq_right hle]
    · rw [Nat.max_eq_left hle]
      exact h.reported txn k hget hk

/-- What a copy has let go after one more report is covered. -/
theorem Inv.released_acked (h : Inv txid total x)
    (he : entry ∈ x.acks) (hget : x.sender.pending.get? txid = some txn)
    (hi : i < x.framed.length) :
    Covered txid x i ∨ ∃ f, (txn.acked entry now).frames[i]? = some (some f) := by
  rcases Nat.lt_or_ge (txn.merged entry) i with hlt | hge
  · refine (h.released i hi).symm.imp_right ?_
    rintro ⟨txn₁, f, h₁, hf⟩
    rw [hget, Option.some.injEq] at h₁
    rw [PendingTxn.getElem?_frames_acked hlt]
    exact ⟨f, h₁ ▸ hf⟩
  · exact .inl ((h.covered_merged he hget).of_le hge)

/-- **A report that completes the transaction** finds every frame covered
and every declared byte framed. -/
theorem Inv.of_isFullyAcked
    (h : Inv txid total x) (he : entry ∈ x.acks) (hget : x.sender.pending.get? txid = some txn)
    (hfull : (txn.acked entry now).isFullyAcked = true) :
    x.framed.flatten = x.appended ∧ x.appended.length = total.toNat ∧
      ∃ last, x.framed.length = last + 1 ∧ Covered txid x last := by
  have hcopy := h.copy txn hget
  have hmerged := h.covered_merged he hget
  obtain ⟨hbytes, htotal, last, hlast, hack⟩ := hcopy.acked.of_isFullyAcked hfull
  rw [hcopy.ackedContiguous_acked hmerged.1, Option.some.injEq] at hack
  exact ⟨hbytes, htotal, last, hlast, hack ▸ hmerged⟩

/-- A report of the receiver is merged into the copy. -/
theorem Inv.handleAck (h : Inv txid total x) (he : entry ∈ x.acks) :
    Inv txid total { x with sender := (x.sender.handleAck entry now).2 } := by
  have hid := (h.acks entry he).1
  cases hget : x.sender.pending.get? entry.transactionId with
  | none =>
    rw [TransactionSender.handleAck_none hget]
    exact h
  | some txn =>
    rw [TransactionSender.handleAck_some hget]
    rw [hid] at hget ⊢
    have hcopy := h.copy txn hget
    split
    · next hfull =>
      obtain ⟨hbytes, htotal, last, hlast, hcov⟩ := h.of_isFullyAcked he hget hfull
      have herased : (x.sender.pending.erase txid).get? txid = none := Table.get?_erase_self _ _
      refine ⟨h.owns.erase, h.total_ne, ?_, h.nonempty, h.fits, h.slot, h.data, h.acks, ?_,
        fun i hi => .inr (hcov.of_le ?_), fun _ => ⟨hbytes, htotal⟩, h.handed⟩
      · intro txn' h'
        rw [TransactionSender.withPending_pending, herased] at h'
        cases h'
      · intro txn' k h'
        rw [TransactionSender.withPending_pending, herased] at h'
        cases h'
      · rw [hlast] at hi
        exact Nat.le_of_lt_succ hi
    · have hself : (x.sender.pending.insert txid (txn.acked entry now)).get? txid =
        some (txn.acked entry now) := Table.get?_insert_self _ _ _
      refine ⟨h.owns.insert (h.owns _ txn hget).acked, h.total_ne, ?_, h.nonempty, h.fits, h.slot,
        h.data, h.acks, ?_, ?_, ?_, h.handed⟩
      · intro txn' h'
        rw [TransactionSender.withPending_pending, hself, Option.some.injEq] at h'
        exact h' ▸ hcopy.acked
      · intro txn' k h' hk
        have hmerged := h.covered_merged he hget
        rw [TransactionSender.withPending_pending, hself, Option.some.injEq] at h'
        rw [← h', hcopy.ackedContiguous_acked hmerged.1, Option.some.injEq] at hk
        exact hk ▸ hmerged
      · intro i hi
        rcases h.released_acked he hget hi with hcov | ⟨f, hf⟩
        · exact .inr hcov
        · exact .inl ⟨_, f, hself, hf⟩
      · intro h'
        rw [TransactionSender.withPending_pending, hself] at h'
        cases h'

/-! ## Steps of the receiver -/

/-- A step of the receiver that keeps what the slot stores. -/
theorem Inv.keepsSlot (h : Inv txid total x)
    (hstores : ∀ slot, r.slots.get? txid = some slot → slot.Stores total x.framed)
    (hkeep : ∀ slot, x.receiver.slots.get? txid = some slot →
      ∃ slot', r.slots.get? txid = some slot' ∧ ∀ i ∈ slot.frames, i ∈ slot'.frames) :
    Inv txid total { x with receiver := r } := by
  have hcov : ∀ k, Covered txid x k → Covered txid { x with receiver := r } k := by
    rintro k ⟨hk, hk'⟩
    refine ⟨hk, hk'.imp_right ?_⟩
    rintro ⟨slot, hs, hall⟩
    obtain ⟨slot', hs', hsub⟩ := hkeep slot hs
    exact ⟨slot', hs', fun i hi => hsub i (hall i hi)⟩
  exact ⟨h.owns, h.total_ne, h.copy, h.nonempty, h.fits, hstores, h.data,
    fun e he => (h.acks e he).imp_right (hcov _),
    fun txn k hget hk => hcov k (h.reported txn k hget hk),
    fun i hi => (h.released i hi).imp_right (hcov i), h.gone, h.handed⟩

theorem Inv.receiveFrame {f : Frame} {emit : Bool} (h : Inv txid total x) (hf : f ∈ x.data) :
    Inv txid total { x with receiver := (x.receiver.receive f emit).2 } := by
  by_cases hid : f.transactionId = txid
  · obtain ⟨i, p, hp, rfl⟩ := h.data f hf hid
    have hi : i < 2 ^ 32 := (List.getElem?_eq_some_iff.1 hp).1.trans h.length_lt
    generalize hres : x.receiver.receive (dataFrame txid total i p) emit = res
    cases hres ▸ TransactionReassembler.receives_dataFrame emit hi h.total_ne hp h.fits
      h.slot with
    | dropped hnone hi | duplicate hget hmem => exact h
    | @stored slot emitted r' hslot hnew hget =>
      have hst : slot.Stores total x.framed := by
        rcases hslot with hs | ⟨-, -, rfl⟩
        · exact h.slot slot hs
        · exact Slot.Stores.opened total x.framed
      refine h.keepsSlot (fun slot' hs' => ?_) fun slot' hs' => ?_
      · rw [hget, Option.some.injEq] at hs'
        exact hs' ▸ hst.store hp hnew
      · refine ⟨_, hget, fun j hj => ?_⟩
        rcases hslot with hs | ⟨hs, -, -⟩
        · rw [hs', Option.some.injEq] at hs
          exact Std.TreeMap.mem_insert.2 (.inr (hs ▸ hj))
        · rw [hs'] at hs
          cases hs
  · have hsame : (x.receiver.receive f emit).2.slots.get? txid = x.receiver.slots.get? txid :=
      TransactionReassembler.get?_receive_of_ne fun heq => hid heq.symm
    exact h.keepsSlot (fun slot hs => h.slot slot (hsame ▸ hs)) fun slot hs =>
      ⟨slot, hsame ▸ hs, fun i hi => hi⟩

/-- **Handing out**: a complete slot assembles to the bytes appended. -/
theorem Inv.assembled {slot : Slot} (h : Inv txid total x)
    (hs : x.receiver.slots.get? txid = some slot) (hc : slot.isComplete = true) :
    slot.assembled = x.appended ∧ x.appended.length = total.toNat := by
  obtain ⟨heq, hfull⟩ := (h.slot slot hs).assembled_of_isComplete h.fits h.nonempty hc
  have hbytes : x.framed.flatten = x.appended := by
    cases hget : x.sender.pending.get? txid with
    | none => exact (h.gone hget).1
    | some txn =>
      have hcopy := h.copy txn hget
      have hlen := congrArg List.length hcopy.bytes
      have hfits := hcopy.fits
      rw [List.length_append] at hlen
      have hpart : txn.partialBytes = [] := List.length_eq_zero_iff.1 (by omega)
      rw [← hcopy.bytes, hpart, List.append_nil]
  exact ⟨heq.trans hbytes, hbytes ▸ hfull⟩

theorem Inv.takeCompleted {slot : Slot} (h : Inv txid total x)
    (hs : x.receiver.slots.get? txid = some slot) (hc : slot.isComplete = true)
    (hr : r.slots.get? txid = none) :
    Inv txid total { x with receiver := r, handedOut := x.handedOut ++ [slot.assembled] } := by
  have hcov : ∀ k, Covered txid x k →
      Covered txid { x with receiver := r, handedOut := x.handedOut ++ [slot.assembled] } k :=
    fun k hk => ⟨hk.1, .inl (List.append_ne_nil_of_right_ne_nil _ (List.cons_ne_nil _ _))⟩
  refine ⟨h.owns, h.total_ne, h.copy, h.nonempty, h.fits, fun slot' hs' => ?_, h.data,
    fun e he => (h.acks e he).imp_right (hcov _),
    fun txn k hget hk => hcov k (h.reported txn k hget hk),
    fun i hi => (h.released i hi).imp_right (hcov i), h.gone, fun p hp => ?_⟩
  · rw [hr] at hs'
    cases hs'
  · rcases List.mem_append.1 hp with hp | hp
    · exact h.handed p hp
    · obtain ⟨heq, hlen⟩ := h.assembled hs hc
      rw [List.mem_singleton.1 hp, heq]
      exact ⟨rfl, hlen⟩

theorem Inv.ackEntry (h : Inv txid total x) (he : x.receiver.ackEntry txid = some entry) :
    Inv txid total { x with acks := x.acks ++ [entry] } := by
  refine { h with acks := fun e hmem => ?_ }
  rcases List.mem_append.1 hmem with hmem | hmem
  · exact h.acks e hmem
  · obtain ⟨slot, hs, hslot⟩ := Option.bind_eq_some_iff.1 he
    obtain ⟨highest, hhigh, rfl⟩ := Option.map_eq_some_iff.1 hslot
    rw [List.mem_singleton.1 hmem]
    have hstores := h.slot slot hs
    have hmem : highest ∈ slot.frames := hstores.wf.mem_of_le hhigh (Nat.le_refl _)
    obtain ⟨p, hp⟩ := Option.isSome_iff_exists.1 (Std.TreeMap.mem_iff_isSome_getElem?.1 hmem)
    have hlt := (List.getElem?_eq_some_iff.1 (hstores.agrees highest p hp)).1
    have hcast : (UInt32.ofNat highest).toNat = highest :=
      UInt32.toNat_ofNat_of_lt' (hlt.trans h.length_lt)
    refine ⟨rfl, ?_⟩
    rw [hcast]
    exact ⟨hlt, .inr ⟨slot, hs, fun i hi => hstores.wf.mem_of_le hhigh hi⟩⟩

/-! ## Runs -/

/-- The receiver's work for other transactions leaves this slot alone. -/
theorem get?_apply_of_ne {op : ReceiverOp} (hne : txid ≠ op.target) :
    (op.apply r).slots.get? txid = r.slots.get? txid := by
  cases op with
  | receiveFrame f emit => exact TransactionReassembler.get?_receive_of_ne hne
  | takeCompleted id =>
    simp only [ReceiverOp.apply, TransactionReassembler.takeCompleted]
    split
    · rfl
    · split
      · exact Table.get?_erase_of_ne _ hne
      · rfl
  | discard id => exact Table.get?_erase_of_ne _ hne

theorem Inv.appendChunk {chunk : Bytes} (h : Inv txid total x)
    (hstep : step txid x (.appendChunk chunk now) = some x') : Inv txid total x' := by
  simp only [Exchange.step] at hstep
  split at hstep
  · next out s happend =>
    obtain ⟨txn, hget, hroom, rfl, rfl⟩ := TransactionSender.appendChunk_ok happend
    rw [recut_eq (txn.taken chunk) TransactionSender.get?_withPending_insert
      (h.copy txn hget).frames_length, Option.some.injEq] at hstep
    subst hstep
    exact h.frame hget hroom (flatten_chunksExact _ _)
      (fun p hp => ne_nil_of_mem_chunksExact x.sender.frameSize_pos hp) fun f hf => hf
  · next e s happend =>
    rw [TransactionSender.appendChunk_error happend, Option.some.injEq] at hstep
    exact hstep ▸ h

theorem Inv.finishTransaction (h : Inv txid total x)
    (hstep : step txid x (.finishTransaction now) = some x') : Inv txid total x' := by
  simp only [Exchange.step] at hstep
  cases hget : x.sender.pending.get? txid with
  | none =>
    rw [TransactionSender.finishTransaction_none hget] at hstep
    simp only [recut, hget, framesOf, List.append_nil, Option.some.injEq] at hstep
    exact hstep ▸ h
  | some txn =>
    have hcopy := h.copy txn hget
    rw [TransactionSender.finishTransaction_some hget, ← txn.taken_nil] at hstep
    dsimp only at hstep
    rw [recut_eq (txn.taken []) TransactionSender.get?_withPending_insert
      hcopy.frames_length, Option.some.injEq, ← List.append_nil x.appended] at hstep
    subst hstep
    -- finishing is the framing step that takes no bytes; a failed one writes nothing
    refine h.frame hget ?_ ?_ (fun p hp => ne_nil_of_mem_tailOf hp) ?_
    · rw [hcopy.written, hcopy.totalLen]
      exact hcopy.fits
    · rw [flatten_tailOf, List.append_nil]
      rfl
    · split
      · exact List.nil_subset _
      · exact fun f hf => hf

/-- The copy is replaced by one with the same contents, and frames of it are
sent. -/
theorem Inv.replaced {s : TransactionSender} {txn txn' : PendingTxn} {out : List Frame}
    (h : Inv txid total x) (hown : s.OwnsFrames) (hget : x.sender.pending.get? txid = some txn)
    (hget' : s.pending.get? txid = some txn') (hsame : PendingTxn.SameCopy txn txn')
    (hout : ∀ f ∈ out, some f ∈ txn.frames) :
    Inv txid total { x with sender := s, data := x.data ++ out } := by
  refine h.sameCopy out hown (fun txn₁ h₁ => ?_) (fun h₁ => ?_) fun f hf _ => ⟨txn, hget, hout f hf⟩
  · rw [hget, Option.some.injEq] at h₁
    exact ⟨txn', hget', h₁ ▸ hsame⟩
  · rw [hget] at h₁
    cases h₁

theorem Inv.setPaused (h : Inv txid total x) (paused : Bool) (now : ℕ) :
    Inv txid total { x with sender := (x.sender.setPaused txid paused now).2 } := by
  cases hget : x.sender.pending.get? txid with
  | none =>
    rw [TransactionSender.setPaused_none hget]
    exact h
  | some txn =>
    obtain ⟨txn', heq, hsame, -⟩ := TransactionSender.setPaused_some paused now hget
    have hget' : (x.sender.setPaused txid paused now).2.pending.get? txid = some txn' := by
      rw [heq]
      exact Table.get?_insert_self _ _ _
    have hown := h.owns.apply (.setPaused txid paused) now
    have hinv := h.replaced hown hget hget' hsame (List.forall_mem_nil _)
    rwa [List.append_nil] at hinv

theorem Inv.handleNack (h : Inv txid total x) (seqs : List UInt32) (now : ℕ) :
    Inv txid total { x with
      sender := (x.sender.handleNack txid seqs now).2
      data := x.data ++ (x.sender.handleNack txid seqs now).1 } := by
  cases hget : x.sender.pending.get? txid with
  | none =>
    rw [TransactionSender.handleNack_none hget]
    simpa using h
  | some txn =>
    obtain ⟨txn', heq, hsame, -, hmem⟩ := TransactionSender.handleNack_some seqs now hget
    have hget' : (x.sender.handleNack txid seqs now).2.pending.get? txid = some txn' := by
      rw [heq]
      exact Table.get?_insert_self _ _ _
    exact h.replaced (h.owns.apply (.handleNack txid seqs) now) hget hget' hsame hmem

theorem Inv.dueRetransmissions (h : Inv txid total x) (now : ℕ) :
    Inv txid total { x with
      sender := (x.sender.dueRetransmissions now).2
      data := x.data ++ (x.sender.dueRetransmissions now).1 } := by
  refine h.sameCopy _ (h.owns.apply .dueRetransmissions now) (fun txn hget => ?_)
    (fun hget => ?_) fun f hf hid => ?_
  · exact ⟨_, by rw [TransactionSender.get?_dueRetransmissions, hget, Option.map_some],
      PendingTxn.sameCopy_dueRetransmissions _⟩
  · rw [TransactionSender.get?_dueRetransmissions, hget, Option.map_none]
  · obtain ⟨txn, hget, hdue⟩ := TransactionSender.mem_dueRetransmissions h.owns hf
    exact ⟨txn, hid ▸ hget, PendingTxn.mem_dueRetransmissions hdue⟩

theorem Inv.takes (h : Inv txid total x) (hstep : Exchange.step txid x .takeCompleted = some x') :
    Inv txid total x' := by
  simp only [Exchange.step, TransactionReassembler.takeCompleted] at hstep
  cases hs : x.receiver.slots.get? txid with
  | none =>
    simp only [hs, Option.some.injEq] at hstep
    exact hstep ▸ h
  | some slot =>
    simp only [hs] at hstep
    by_cases hc : slot.isComplete = true
    · simp only [hc, if_true, Option.some.injEq] at hstep
      exact hstep ▸ h.takeCompleted hs hc (Table.get?_erase_self _ _)
    · simp only [hc, Bool.false_eq_true, if_false, Option.some.injEq] at hstep
      exact hstep ▸ h

/-- **Every step keeps the invariant.** -/
theorem Inv.step {a : Action} (h : Inv txid total x) (hstep : step txid x a = some x') :
    Inv txid total x' := by
  cases a with
  | appendChunk chunk now => exact h.appendChunk hstep
  | finishTransaction now => exact h.finishTransaction hstep
  | setPaused paused now =>
    rw [Exchange.step, Option.some.injEq] at hstep
    exact hstep ▸ h.setPaused paused now
  | dueRetransmissions now =>
    rw [Exchange.step, Option.some.injEq] at hstep
    exact hstep ▸ h.dueRetransmissions now
  | handleNack seqs now =>
    rw [Exchange.step, Option.some.injEq] at hstep
    exact hstep ▸ h.handleNack seqs now
  | handleAck entry now =>
    simp only [Exchange.step] at hstep
    split at hstep
    · next he =>
      rw [Option.some.injEq] at hstep
      exact hstep ▸ h.handleAck he
    · cases hstep
  | receiveFrame f emit =>
    simp only [Exchange.step] at hstep
    split at hstep
    · next hf =>
      rw [Option.some.injEq] at hstep
      exact hstep ▸ h.receiveFrame hf
    · cases hstep
  | ackEntry =>
    obtain ⟨entry, he, rfl⟩ := Option.map_eq_some_iff.1 hstep
    exact h.ackEntry he
  | takeCompleted => exact h.takes hstep
  | otherSender c now =>
    simp only [Exchange.step] at hstep
    split at hstep
    · cases hstep
    · next hother =>
      rw [Option.some.injEq] at hstep
      subst hstep
      have hsame : (c.apply x.sender now).2.pending.get? txid = x.sender.pending.get? txid :=
        TransactionSender.get?_apply_of_not_touches hother
      exact h.sameCopy _ (h.owns.apply c now)
        (fun txn hget => ⟨txn, hsame.trans hget, .refl txn⟩) (fun hget => hsame.trans hget)
        fun f hf hid => absurd (hid ▸ h.owns.touches_of_mem hf) hother
  | otherReceiver op =>
    simp only [Exchange.step] at hstep
    split at hstep
    · cases hstep
    · next hne =>
      rw [Option.some.injEq] at hstep
      subst hstep
      have hsame := get?_apply_of_ne (r := x.receiver) (Ne.symm hne)
      exact h.keepsSlot (fun slot hs => h.slot slot (hsame ▸ hs)) fun slot hs =>
        ⟨slot, hsame ▸ hs, fun i hi => hi⟩

/-- The invariant of every reachable state. -/
theorem Inv.run {s₀ s : TransactionSender} {acts : List Action} (hown : s₀.OwnsFrames)
    (hopen : s₀.openTransaction txid total now = (.ok (), s)) (hr : r.slots.get? txid = none)
    (hrun : Xacpp.run (Exchange.step txid) (Exchange.start s r) acts = some x) :
    Inv txid total x :=
  run_induct (fun _ _ _ h hstep => h.step hstep) (Inv.start hown hopen hr) hrun

/-- A payload handed out is the whole of what was appended. -/
theorem Inv.mem_handedOut (h : Inv txid total x) (hne : x.handedOut ≠ []) :
    x.appended ∈ x.handedOut ∧ x.appended.length = total.toNat := by
  obtain ⟨p, hp⟩ := List.exists_mem_of_ne_nil _ hne
  obtain ⟨rfl, hlen⟩ := h.handed p hp
  exact ⟨hp, hlen⟩

/-- **What the sender has let go, the receiver has.** In every reachable
state a frame the sender no longer retains is stored byte for byte, unless
the whole payload was handed out; and an ACK entry that completes the
transaction finds the receiver's slot complete, with the bytes appended at
the sender. -/
theorem released_is_stored {s₀ s : TransactionSender} {r : TransactionReassembler} {now : ℕ}
    {acts : List Action} (hown : s₀.OwnsFrames)
    (hopen : s₀.openTransaction txid total now = (.ok (), s)) (hr : r.slots.get? txid = none)
    (hrun : run (step txid) (start s r) acts = some x) :
    (∀ i p, x.framed[i]? = some p → ¬ Retains txid x i →
      (∃ slot, x.receiver.slots.get? txid = some slot ∧ slot.frames[i]? = some p) ∨
        x.appended ∈ x.handedOut ∧ x.appended.length = total.toNat) ∧
    ∀ entry ∈ x.acks, ∀ now, (x.sender.handleAck entry now).1 = true →
      (∃ slot, x.receiver.slots.get? txid = some slot ∧ slot.isComplete = true ∧
        slot.assembled = x.appended) ∨
        x.appended ∈ x.handedOut ∧ x.appended.length = total.toNat := by
  have h := Inv.run hown hopen hr hrun
  constructor
  · intro i p hp hgone
    have hi := (List.getElem?_eq_some_iff.1 hp).1
    obtain ⟨-, hne | ⟨slot, hs, hall⟩⟩ := (h.released i hi).resolve_left hgone
    · exact .inr (h.mem_handedOut hne)
    · obtain ⟨q, hq⟩ := Option.isSome_iff_exists.1
        (Std.TreeMap.mem_iff_isSome_getElem?.1 (hall i (Nat.le_refl i)))
      have hpq := (h.slot slot hs).agrees i q hq
      rw [hp] at hpq
      exact .inl ⟨slot, hs, hq.trans hpq.symm⟩
  · intro entry he now hdone
    have hid := (h.acks entry he).1
    cases hget : x.sender.pending.get? entry.transactionId with
    | none =>
      rw [TransactionSender.handleAck_none hget] at hdone
      cases hdone
    | some txn =>
      rw [TransactionSender.handleAck_some hget] at hdone
      rw [hid] at hget
      split at hdone
      · next hfull =>
        obtain ⟨hbytes, htotal, last, hlast, -, hne | ⟨slot, hs, hall⟩⟩ :=
          h.of_isFullyAcked he hget hfull
        · exact .inr (h.mem_handedOut hne)
        · have hstores := h.slot slot hs
          have hcomplete := hstores.isComplete_of_forall_mem (hbytes ▸ htotal)
            (List.ne_nil_of_length_eq_add_one hlast) fun i hi => hall i (by omega)
          exact .inl ⟨slot, hs, hcomplete, (h.assembled hs hcomplete).1⟩
      · cases hdone

namespace Sample

/-- A sender of two-byte frames with a three-byte transaction open. -/
def sender : TransactionSender :=
  ((TransactionSender.new { frameSize := 2 }).openTransaction zeroId 3 0).2

/-- The first frame arrives and its report releases it; the tail arrives,
and its report is on its way. -/
def acts : List Action :=
  [.appendChunk [1] 0, .appendChunk [2, 3] 1,
    .receiveFrame (dataFrame zeroId 3 0 [1, 2]) false, .ackEntry,
    .handleAck ⟨zeroId, 0, 1⟩ 2, .finishTransaction 3,
    .receiveFrame (dataFrame zeroId 3 1 [3]) false, .ackEntry]

end Sample

/-- The last report of the sample completes the transaction, and finds the
three bytes at the receiver. -/
theorem released_is_stored_sample :
    ∃ x, run (step zeroId) (start Sample.sender .new) Sample.acts = some x ∧
      ((∃ slot, x.receiver.slots.get? zeroId = some slot ∧ slot.isComplete = true ∧
        slot.assembled = x.appended) ∨
        x.appended ∈ x.handedOut ∧ x.appended.length = (3 : UInt32).toNat) := by
  obtain ⟨x, hrun, hacks, htrue⟩ :
      ∃ x, run (step zeroId) (start Sample.sender .new) Sample.acts = some x ∧
        x.acks = [⟨zeroId, 0, 1⟩, ⟨zeroId, 1, 2⟩] ∧
        (x.sender.handleAck ⟨zeroId, 1, 2⟩ 4).1 = true := by decide
  refine ⟨_, hrun, (released_is_stored (TransactionSender.ownsFrames_new { frameSize := 2 })
    (show TransactionSender.openTransaction _ zeroId 3 0 = _ from rfl) (Table.get?_empty _)
      hrun).2 _ ?_ 4 htrue⟩
  rw [hacks]
  decide

end Exchange

end Reliability

end Xacpp
