import Xacpp.Common.Ordered
import Xacpp.Reliability.Model.Reassembler
import Xacpp.Reliability.Framing
/-!
# Receive slots

The counts a slot keeps are those of the frames it stores (`Slot.WF`), and
where the frames agree with a list of payloads, completion by byte count
means that every payload is there (`Slot.assembled_of_isComplete`).
`receiveFrame_dataFrame` is the receive step on a working frame: an
unknown id opens on frame 0 alone, a stored frame is a duplicate, and any
other is stored.
-/

namespace Xacpp

namespace Reliability

variable {id : TxId} {total : UInt32} {framed : List Bytes} {i : ℕ} {p : Bytes}

variable {slot : Slot}

namespace Slot

/-- The counts are those of the stored frames, and the prefix is as long as
it can be. -/
structure WF (slot : Slot) : Prop where
  receivedFrames : slot.receivedFrames = slot.frames.size
  receivedBytes : slot.receivedBytes = (slot.frames.toList.map fun e => e.2.length).sum
  below : ∀ i < slot.prefixEnd, i ∈ slot.frames
  next : slot.prefixEnd ∉ slot.frames

theorem WF.opened (total : UInt32) : (Slot.opened total).WF where
  receivedFrames := rfl
  receivedBytes := rfl
  below := fun i hi => absurd hi (Nat.not_lt_zero i)
  next := Std.TreeMap.not_mem_emptyc

/-- The scan stops at the first seq that is not stored. -/
theorem scan_spec {frames : Std.TreeMap ℕ Bytes} {fuel next : ℕ} (reached : Option ℕ)
    (hnext : reached.elim 0 (· + 1) = next) (hbelow : ∀ i < next, i ∈ frames)
    (hfuel : frames.size ≤ fuel + next) :
    (∀ i < (scan frames fuel next reached).elim 0 (· + 1), i ∈ frames) ∧
      (scan frames fuel next reached).elim 0 (· + 1) ∉ frames := by
  -- each round passes one stored seq, so the fuel left is at least what is unscanned
  induction fuel generalizing next reached with
  | zero =>
    rw [scan, hnext]
    refine ⟨hbelow, fun hmem => ?_⟩
    have hsize := size_le_of_forall_mem (a := 0) (b := next + 1) fun i _ hi =>
      (Nat.lt_succ_iff_lt_or_eq.1 hi).elim (hbelow i) fun heq => heq ▸ hmem
    omega
  | succ fuel ih =>
    rw [scan]
    split
    · next hc =>
      refine ih _ rfl (fun i hi => ?_) (by omega)
      rcases Nat.lt_succ_iff_lt_or_eq.1 hi with hi | rfl
      · exact hbelow i hi
      · exact Std.TreeMap.contains_iff_mem.1 hc
    · next hc =>
      rw [hnext]
      exact ⟨hbelow, fun hmem => hc (Std.TreeMap.contains_iff_mem.2 hmem)⟩

@[simp] theorem store_frames (slot : Slot) : (slot.store i p).frames = slot.frames.insert i p := rfl

@[simp] theorem store_totalLen (slot : Slot) : (slot.store i p).totalLen = slot.totalLen := rfl

theorem WF.store (h : slot.WF) (hnew : i ∉ slot.frames) : (slot.store i p).WF := by
  have hbelow : ∀ j < slot.prefixEnd, j ∈ slot.frames.insert i p := fun j hj =>
    Std.TreeMap.mem_insert.2 (.inr (h.below j hj))
  obtain ⟨hin, hout⟩ := scan_spec slot.contiguousPrefix rfl hbelow
    (Nat.le_add_right (slot.frames.insert i p).size _)
  refine ⟨?_, ?_, hin, hout⟩
  · have hc : slot.frames.contains i = false :=
      Bool.eq_false_iff.2 fun hc => hnew (Std.TreeMap.contains_iff_mem.1 hc)
    rw [store_frames, Std.TreeMap.size_insert, hc, ← h.receivedFrames]
    rfl
  · rw [store_frames, weight_insert (w := List.length) hnew, ← h.receivedBytes]
    rfl

theorem isSome_scan {frames : Std.TreeMap ℕ Bytes} {fuel next : ℕ} {reached : Option ℕ}
    (h : reached.isSome = true) : (scan frames fuel next reached).isSome = true := by
  induction fuel generalizing next reached with
  | zero => exact h
  | succ fuel ih =>
    rw [scan]
    split
    · exact ih rfl
    · exact h

/-- **Completeness is kept**: a complete slot has room for empty frames
only. -/
theorem isComplete_store (hc : slot.isComplete = true)
    (hroom : slot.receivedBytes + p.length ≤ slot.totalLen.toNat) :
    (slot.store i p).isComplete = true := by
  simp only [isComplete, Bool.and_eq_true, decide_eq_true_eq] at hc ⊢
  refine ⟨isSome_scan hc.1, ?_⟩
  have hbytes : (slot.store i p).receivedBytes = slot.receivedBytes + p.length := rfl
  rw [hbytes, store_totalLen]
  omega

/-- **The payload is kept**: what a complete slot still takes adds nothing. -/
theorem assembled_store (hc : slot.isComplete = true)
    (hroom : slot.receivedBytes + p.length ≤ slot.totalLen.toNat) (hnew : i ∉ slot.frames) :
    (slot.store i p).assembled = slot.assembled := by
  have hempty : p.length = 0 := by
    simp only [isComplete, Bool.and_eq_true, decide_eq_true_eq] at hc
    omega
  have hsub := ((toList_sublist_insert (x := p) hnew).map Prod.snd).flatten
  refine (hsub.eq_of_length ?_).symm
  have hweight := weight_insert (x := p) (w := List.length) hnew
  rw [hempty, Nat.add_zero] at hweight
  rw [List.length_flatten, List.length_flatten, List.map_map, List.map_map]
  exact hweight.symm

/-- The slot is that of a transaction whose frames carry `total` and the
payloads listed. -/
structure Stores (slot : Slot) (total : UInt32) (framed : List Bytes) : Prop where
  totalLen : slot.totalLen = total
  wf : slot.WF
  agrees : Agrees slot.frames framed

theorem Stores.opened (total : UInt32) (framed : List Bytes) :
    (Slot.opened total).Stores total framed :=
  ⟨rfl, WF.opened total, agrees_empty framed⟩

theorem Stores.append (h : slot.Stores total framed) (more : List Bytes) :
    slot.Stores total (framed ++ more) :=
  ⟨h.totalLen, h.wf, h.agrees.append more⟩

theorem Stores.store (h : slot.Stores total framed) (hp : framed[i]? = some p)
    (hnew : i ∉ slot.frames) : (slot.store i p).Stores total framed :=
  ⟨h.totalLen, h.wf.store hnew, h.agrees.insert hp⟩

/-- A frame of the transaction that is not stored yet still fits. -/
theorem Stores.fits (h : slot.Stores total framed)
    (hfits : framed.flatten.length ≤ total.toNat) (hp : framed[i]? = some p)
    (hnew : i ∉ slot.frames) : slot.receivedBytes + p.length ≤ total.toNat := by
  have hle := weight_le_of_agrees (w := List.length) (h.agrees.insert hp)
  rw [weight_insert hnew, ← h.wf.receivedBytes, ← List.length_flatten] at hle
  exact hle.trans hfits

/-- **Complete means all there**: where every payload has bytes and
together they are no more than the total, a slot that counts the total
stores them all, in order. -/
theorem Stores.toList_of_isComplete (h : slot.Stores total framed)
    (hfits : framed.flatten.length ≤ total.toNat) (hne : ∀ p ∈ framed, p ≠ [])
    (hc : slot.isComplete = true) :
    slot.frames.toList = numbered framed ∧ framed.flatten.length = total.toNat := by
  simp only [isComplete, Bool.and_eq_true, decide_eq_true_eq] at hc
  have hbytes := hc.2
  rw [h.wf.receivedBytes, h.totalLen] at hbytes
  have hle : (slot.frames.toList.map fun e => e.2.length).sum ≤ framed.flatten.length := by
    rw [List.length_flatten]
    exact weight_le_of_agrees h.agrees
  have hsum : (slot.frames.toList.map fun e => e.2.length).sum = (framed.map List.length).sum := by
    rw [← List.length_flatten]
    exact Nat.le_antisymm hle (by rw [hbytes]; exact hfits)
  exact ⟨toList_eq_numbered_of_weight h.agrees (fun p hp => List.length_pos_iff.2 (hne p hp)) hsum,
    by omega⟩

theorem Stores.assembled_of_isComplete (h : slot.Stores total framed)
    (hfits : framed.flatten.length ≤ total.toNat) (hne : ∀ p ∈ framed, p ≠ [])
    (hc : slot.isComplete = true) :
    slot.assembled = framed.flatten ∧ framed.flatten.length = total.toNat := by
  obtain ⟨hlist, hlen⟩ := h.toList_of_isComplete hfits hne hc
  rw [assembled, hlist, map_snd_numbered]
  exact ⟨rfl, hlen⟩

theorem Stores.mem_of_isComplete (h : slot.Stores total framed)
    (hfits : framed.flatten.length ≤ total.toNat) (hne : ∀ p ∈ framed, p ≠ [])
    (hc : slot.isComplete = true) (hi : i < framed.length) : i ∈ slot.frames :=
  mem_of_toList_eq_numbered (h.toList_of_isComplete hfits hne hc).1 hi

/-- The converse: a slot with every frame counts the total. -/
theorem Stores.isComplete_of_forall_mem (h : slot.Stores total framed)
    (htotal : framed.flatten.length = total.toNat) (hne : framed ≠ [])
    (hall : ∀ i < framed.length, i ∈ slot.frames) : slot.isComplete = true := by
  simp only [isComplete, Bool.and_eq_true, decide_eq_true_eq]
  constructor
  · -- frame 0 is stored, so the prefix is not empty
    by_contra hnone
    rw [Option.not_isSome_iff_eq_none] at hnone
    refine h.wf.next ?_
    rw [prefixEnd, hnone]
    exact hall 0 (List.length_pos_iff.2 hne)
  · rw [h.wf.receivedBytes, toList_eq_numbered_of_forall_mem h.agrees hall, h.totalLen, ← htotal,
      List.length_flatten]
    conv_rhs => rw [← map_snd_numbered framed]
    rw [List.map_map]
    rfl

/-- Below the prefix everything is stored. -/
theorem WF.mem_of_le (h : slot.WF) {highest : ℕ}
    (hlead : slot.contiguousPrefix = some highest) (hi : i ≤ highest) : i ∈ slot.frames :=
  h.below i (by rw [prefixEnd, hlead]; exact Nat.lt_succ_of_le hi)

end Slot

namespace TransactionReassembler

variable {r : TransactionReassembler}

/-- **What `receive_frame` can do**, check by check. -/
inductive Admits (r : TransactionReassembler) (id : TxId) (seq total : UInt32) (frameLen : ℕ)
    (p : Bytes) (emit : Bool) :
    Except ReassemblyError ReceiveOutcome × TransactionReassembler → Prop
  | mismatch (hlen : frameLen ≠ p.length) :
      Admits r id seq total frameLen p emit (.error (.frameLenMismatch frameLen p.length), r)
  | empty (htotal : total = 0) :
      Admits r id seq total frameLen p emit (.error .emptyTotalLen, r)
  /-- No slot, and the frame does not open one. -/
  | dropped (hnone : r.slots.get? id = none) (hseq : seq ≠ 0) :
      Admits r id seq total frameLen p emit (.ok .slotlessDropped, r)
  /-- A first frame longer than its total is refused and leaves an empty
  slot behind. -/
  | overlong (hlen : frameLen = p.length) (htotal : total ≠ 0) (hnone : r.slots.get? id = none)
      (hseq : seq = 0) (hlong : total.toNat < p.length) :
      Admits r id seq total frameLen p emit (.error (.totalLenExceeded total),
        { r with slots := r.slots.insert id (Slot.opened total) })
  | conflict {slot : Slot} (hget : r.slots.get? id = some slot) (hne : slot.totalLen ≠ total) :
      Admits r id seq total frameLen p emit (.error (.totalLenConflict slot.totalLen total), r)
  | duplicate {slot : Slot} (hget : r.slots.get? id = some slot) (hmem : seq.toNat ∈ slot.frames) :
      Admits r id seq total frameLen p emit (.ok .duplicate, r)
  | exceeds {slot : Slot} (hget : r.slots.get? id = some slot) (hnew : seq.toNat ∉ slot.frames)
      (hlong : total.toNat < slot.receivedBytes + p.length) :
      Admits r id seq total frameLen p emit (.error (.totalLenExceeded total), r)
  /-- The frame is stored, in the slot there is or in one it opens, and what
  the prefix gains is emitted. -/
  | stored {slot : Slot} {r' : TransactionReassembler} (hlen : frameLen = p.length)
      (htotal : total ≠ 0) (hsame : slot.totalLen = total)
      (hslot : r.slots.get? id = some slot ∨
        r.slots.get? id = none ∧ seq = 0 ∧ slot = Slot.opened total)
      (hroom : slot.receivedBytes + p.length ≤ total.toNat) (hnew : seq.toNat ∉ slot.frames)
      (hget : r'.slots.get? id = some (slot.store seq.toNat p))
      (hothers : ∀ id', id' ≠ id → r'.slots.get? id' = r.slots.get? id') :
      Admits r id seq total frameLen p emit
        (.ok (.accepted (slot.store seq.toNat p).isComplete
          (if emit then
            (slot.store seq.toNat p).covered slot.prefixEnd (slot.store seq.toNat p).prefixEnd
          else [])), r')

/-- The end of the emitted range, where the source has no prefix to read it
from, lies before its start: nothing is emitted, as from an end at 0. -/
theorem covered_emission {start : ℕ} :
    slot.covered start (slot.contiguousPrefix.elim (start - 1) (· + 1)) =
      slot.covered start slot.prefixEnd := by
  unfold Slot.prefixEnd
  cases slot.contiguousPrefix with
  | some highest => rfl
  | none =>
    have hback : start - 1 - start = 0 := by omega
    have hzero : 0 - start = 0 := by omega
    simp only [Slot.covered, Option.elim_none, hback, hzero]

/-- **The inversion of `receive_frame`.** -/
theorem receiveFrame_admits (r : TransactionReassembler) (id : TxId) (seq total : UInt32)
    (frameLen : ℕ) (p : Bytes) (emit : Bool) :
    Admits r id seq total frameLen p emit (r.receiveFrame id seq total frameLen p emit) := by
  unfold receiveFrame
  simp only [covered_emission]
  split
  · next hlen => exact .mismatch hlen
  next hlen =>
  rw [ne_eq, Decidable.not_not] at hlen
  split
  · next htotal => exact .empty htotal
  next htotal =>
  cases hget : r.slots.get? id with
  | none =>
    have hcont : r.slots.contains id = false := by rw [Table.contains, hget]; rfl
    have hc : (Slot.opened total).frames.contains seq.toNat = false := rfl
    have hsame : (Slot.opened total).totalLen = total := rfl
    have hbytes : (Slot.opened total).receivedBytes + p.length = p.length := Nat.zero_add _
    simp only [hcont, and_true, Option.getD_none, Option.map_none, Bool.false_eq_true, if_false,
      hc, hsame, ne_eq, not_true_eq_false, hbytes]
    split
    · next hseq => exact .dropped hget (UInt32.pos_iff_ne_zero.1 hseq)
    next hseq =>
    have hzero : seq = 0 := by
      by_contra hne
      exact hseq (UInt32.pos_iff_ne_zero.2 hne)
    split
    · next hlong => exact .overlong hlen htotal hget hzero hlong
    · next hroom =>
      refine .stored hlen htotal hsame (.inr ⟨hget, hzero, rfl⟩) (by omega)
        Std.TreeMap.not_mem_emptyc
        (Table.get?_insert_self _ _ _) fun id' hid => ?_
      rw [Table.get?_insert_of_ne _ _ hid, Table.get?_insert_of_ne _ _ hid]
  | some slot =>
    have hcont : r.slots.contains id = true := by rw [Table.contains, hget]; rfl
    simp only [hcont, Bool.true_eq_false, and_false, if_false, if_true, Option.getD_some,
      Option.map_some]
    split
    · next hne => exact .conflict hget hne
    next hsame =>
    rw [ne_eq, Decidable.not_not] at hsame
    split
    · next hmem => exact .duplicate hget (Std.TreeMap.contains_iff_mem.1 hmem)
    next habsent =>
    have hnew : seq.toNat ∉ slot.frames := fun hmem => habsent (Std.TreeMap.contains_iff_mem.2 hmem)
    split
    · next hlong => exact .exceeds hget hnew hlong
    · next hroom =>
      exact .stored hlen htotal hsame (.inl hget) (Nat.not_lt.1 hroom) hnew
        (Table.get?_insert_self _ _ _) fun id' hid => Table.get?_insert_of_ne _ _ hid

/-- A frame touches its own transaction's slot only. -/
theorem get?_receiveFrame_of_ne {id' : TxId} {seq total : UInt32} {frameLen : ℕ} {p : Bytes}
    {emit : Bool} (hne : id' ≠ id) :
    (r.receiveFrame id seq total frameLen p emit).2.slots.get? id' = r.slots.get? id' := by
  have hadmits := r.receiveFrame_admits id seq total frameLen p emit
  generalize r.receiveFrame id seq total frameLen p emit = res at hadmits
  cases hadmits with
  | mismatch | empty | dropped | conflict | duplicate | exceeds => rfl
  | overlong => exact Table.get?_insert_of_ne _ _ hne
  | stored hlen htotal hsame hslot hroom hnew hget hothers => exact hothers id' hne

/-- Feed a frame with its own header and length, as the data path does. -/
def receive (r : TransactionReassembler) (f : Frame) (emit : Bool) :
    Except ReassemblyError ReceiveOutcome × TransactionReassembler :=
  r.receiveFrame f.transactionId f.seq f.totalLen f.payload.length f.payload emit

theorem get?_receive_of_ne {f : Frame} {emit : Bool} (hne : id ≠ f.transactionId) :
    (r.receive f emit).2.slots.get? id = r.slots.get? id :=
  get?_receiveFrame_of_ne hne

/-- What feeding any frame can do. -/
inductive Feeds (r : TransactionReassembler) (f : Frame) :
    Except ReassemblyError ReceiveOutcome × TransactionReassembler → Prop
  | refused {e : ReassemblyError} : Feeds r f (.error e, r)
  /-- No slot, and the frame does not open one. -/
  | dropped (hnone : r.slots.get? f.transactionId = none) (hseq : f.seq ≠ 0) :
      Feeds r f (.ok .slotlessDropped, r)
  /-- A first frame longer than its total is refused and leaves an empty
  slot behind. -/
  | overlong {e : ReassemblyError} (hnone : r.slots.get? f.transactionId = none)
      (hseq : f.seq = 0) :
      Feeds r f (.error e,
        { r with slots := r.slots.insert f.transactionId (Slot.opened f.totalLen) })
  | duplicate {slot : Slot} (hget : r.slots.get? f.transactionId = some slot) :
      Feeds r f (.ok .duplicate, r)
  /-- The frame is stored, in the slot there is or in one it opens. -/
  | stored {slot : Slot} {emitted : List (ℕ × Bytes)} {r' : TransactionReassembler}
      (hslot : r.slots.get? f.transactionId = some slot ∨
        r.slots.get? f.transactionId = none ∧ f.seq = 0 ∧ slot = Slot.opened f.totalLen)
      (hroom : slot.receivedBytes + f.payload.length ≤ slot.totalLen.toNat)
      (hget : r'.slots.get? f.transactionId = some (slot.store f.seq.toNat f.payload))
      (hothers : ∀ id, id ≠ f.transactionId → r'.slots.get? id = r.slots.get? id)
      (hnew : f.seq.toNat ∉ slot.frames) :
      Feeds r f (.ok (.accepted (slot.store f.seq.toNat f.payload).isComplete emitted), r')

/-- The same, for a frame fed with its own length. -/
theorem receive_feeds (r : TransactionReassembler) (f : Frame) (emit : Bool) :
    Feeds r f (r.receive f emit) := by
  have hadmits := r.receiveFrame_admits f.transactionId f.seq f.totalLen f.payload.length f.payload
    emit
  rw [receive]
  generalize r.receiveFrame f.transactionId f.seq f.totalLen f.payload.length f.payload emit = res
    at hadmits
  cases hadmits with
  | mismatch hlen | empty htotal => exact .refused
  | dropped hnone hseq => exact .dropped hnone hseq
  | overlong hlen htotal hnone hseq hlong => exact .overlong hnone hseq
  | conflict hget hne => exact .refused
  | duplicate hget hmem => exact .duplicate hget
  | exceeds hget hnew hlong => exact .refused
  | stored hlen htotal hsame hslot hroom hnew hget hothers =>
    exact .stored hslot (hsame ▸ hroom) hget hothers hnew

/-- What feeding the `i`-th working frame of a transaction can do. -/
inductive Receives (r : TransactionReassembler) (id : TxId) (total : UInt32) (i : ℕ) (p : Bytes) :
    Except ReassemblyError ReceiveOutcome × TransactionReassembler → Prop
  /-- No slot, and the frame does not open one. -/
  | dropped (hnone : r.slots.get? id = none) (hi : i ≠ 0) : Receives r id total i p
      (.ok .slotlessDropped, r)
  | duplicate {slot : Slot} (hget : r.slots.get? id = some slot) (hmem : i ∈ slot.frames) :
      Receives r id total i p (.ok .duplicate, r)
  /-- The frame is stored, in the slot there is or in one it opens. -/
  | stored {slot : Slot} {emitted : List (ℕ × Bytes)} {r' : TransactionReassembler}
      (hslot : r.slots.get? id = some slot ∨
        r.slots.get? id = none ∧ i = 0 ∧ slot = Slot.opened total)
      (hnew : i ∉ slot.frames) (hget : r'.slots.get? id = some (slot.store i p)) :
      Receives r id total i p (.ok (.accepted (slot.store i p).isComplete emitted), r')

/-- **The receive step on a working frame** never fails. -/
theorem receives_dataFrame (emit : Bool) (hi : i < 2 ^ 32) (htotal : total ≠ 0)
    (hp : framed[i]? = some p) (hfits : framed.flatten.length ≤ total.toNat)
    (hslot : ∀ slot, r.slots.get? id = some slot → slot.Stores total framed) :
    Receives r id total i p (r.receive (dataFrame id total i p) emit) := by
  have hseq : (UInt32.ofNat i).toNat = i := UInt32.toNat_ofNat_of_lt' hi
  have hzero : UInt32.ofNat i = 0 → i = 0 := fun h => by rw [← hseq, h]; rfl
  have hadmits := r.receiveFrame_admits id (UInt32.ofNat i) total p.length p emit
  change Receives r id total i p (r.receiveFrame id (UInt32.ofNat i) total p.length p emit)
  generalize r.receiveFrame id (UInt32.ofNat i) total p.length p emit = res at hadmits
  cases hadmits with
  | mismatch hlen => exact absurd rfl hlen
  | empty hempty => exact absurd hempty htotal
  | dropped hnone hne => exact .dropped hnone fun h => hne (by rw [h]; rfl)
  | overlong _ _ _ h0 hlong =>
    -- the opened slot is one of the transaction's, so the frame fits
    have hfit := (Slot.Stores.opened total framed).fits hfits hp Std.TreeMap.not_mem_emptyc
    have hopened : (Slot.opened total).receivedBytes = 0 := rfl
    omega
  | conflict hget hne => exact absurd (hslot _ hget).totalLen hne
  | duplicate hget hmem => exact .duplicate hget (hseq ▸ hmem)
  | exceeds hget hnew hlong =>
    rw [hseq] at hnew
    have hfit := (hslot _ hget).fits hfits hp hnew
    omega
  | stored hlen hne hsame hin hroom hnew hget hothers =>
    rw [hseq] at hnew hget ⊢
    exact .stored (hin.imp_right fun h => ⟨h.1, hzero h.2.1, h.2.2⟩) hnew hget

/-! ## Stored frames -/

/-- The frame is stored. -/
def Stored (r : TransactionReassembler) (id : TxId) (seq : ℕ) : Prop :=
  ∃ slot, r.slots.get? id = some slot ∧ seq ∈ slot.frames

theorem stored_none (h : r.slots.get? id = none) : ¬ r.Stored id i := by
  rintro ⟨slot, hget, -⟩
  rw [h] at hget
  cases hget

theorem stored_some (h : r.slots.get? id = some slot) : r.Stored id i ↔ i ∈ slot.frames := by
  constructor
  · rintro ⟨slot', hget, hmem⟩
    rw [h, Option.some.injEq] at hget
    exact hget ▸ hmem
  · exact fun hmem => ⟨slot, h, hmem⟩

theorem stored_congr {r' : TransactionReassembler} (h : r'.slots.get? id = r.slots.get? id) :
    r'.Stored id i ↔ r.Stored id i := by
  rw [Stored, Stored, h]

end TransactionReassembler

end Reliability

end Xacpp
