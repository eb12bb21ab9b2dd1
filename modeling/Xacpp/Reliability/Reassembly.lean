import Xacpp.Reliability.Slots
/-!
# Reassembly in any order

The frames of several accepted payloads arrive at an empty reassembler in
some order, interleaved and repeated at will. The only demand is that for
each transaction every other frame comes at least once after its frame 0,
the frame that opens the slot. Then no call fails, each transaction is
reported complete exactly once, and its payload comes out whatever the
other transactions did.

What is stored only grows (`Fed.stored_mono`), so the reports are read off
one flip: the step at which the last missing frame is stored.
-/

namespace Xacpp

namespace Reliability

open TransactionReassembler (stored_none stored_some stored_congr)

/-- A payload that `begin_transaction` accepted, with its frames. -/
structure Sent where
  id : TxId
  payload : Bytes
  frames : List Frame

namespace Sent

/-- Some sender with this working-frame size accepted the payload and
answered these frames. -/
def AcceptedWith (frameSize : ℕ) (t : Sent) : Prop :=
  ∃ (s s' : TransactionSender) (now : ℕ), s.config.frameSize = frameSize ∧
    s.beginTransaction t.id t.payload now = (.ok t.frames, s')

/-- The total every frame of the transaction carries. -/
def total (t : Sent) : UInt32 := UInt32.ofNat t.payload.length

/-- The payloads of its frames. -/
def pieces (frameSize : ℕ) (t : Sent) : List Bytes :=
  TransactionSender.splitPayload frameSize t.payload

end Sent

/-- A frame as it is fed: with the flag that asks for what it covers. -/
abbrev Arrival := Frame × Bool

/-- The reassembler after a sequence of arrivals. -/
def fed (arrivals : List Arrival) : TransactionReassembler :=
  arrivals.foldl (fun r a => (r.receive a.1 a.2).2) .new

/-- What the `k`-th arrival is answered. -/
def outcomeAt (arrivals : List Arrival) (k : ℕ) :
    Option (Except ReassemblyError ReceiveOutcome) :=
  arrivals[k]?.map fun a => ((fed (arrivals.take k)).receive a.1 a.2).1

/-- The `k`-th arrival belongs to the transaction and is answered as the one
that completes it. -/
def CompletesAt (arrivals : List Arrival) (id : TxId) (k : ℕ) : Prop :=
  (∃ a, arrivals[k]? = some a ∧ a.1.transactionId = id) ∧
    ∃ emitted, outcomeAt arrivals k = some (.ok (.accepted true emitted))

/-- Every other frame comes at least once after the first frame 0. -/
def Arrives (arrivals : List Arrival) (t : Sent) : Prop :=
  ∃ before first after, arrivals = before ++ first :: after ∧
    t.frames.head? = some first.1 ∧ first.1 ∉ before.map Prod.fst ∧
    ∀ f ∈ t.frames, f ≠ first.1 → f ∈ after.map Prod.fst

/-- What the theorem is about: payloads with distinct ids, all accepted
with one working-frame size, and arrivals that are frames of theirs. -/
structure Family (frameSize : ℕ) (family : List Sent) (arrivals : List Arrival) : Prop where
  ids : (family.map Sent.id).Nodup
  accepted : ∀ t ∈ family, t.AcceptedWith frameSize
  frames : ∀ a ∈ arrivals, ∃ t ∈ family, a.1 ∈ t.frames

variable {frameSize k j : ℕ} {family : List Sent} {arrivals : List Arrival} {t : Sent}
variable {a : Arrival} {r : TransactionReassembler} {i : ℕ} {id : TxId}

/-! ## What an accepted payload looks like -/

namespace Sent

variable (h : t.AcceptedWith frameSize)
include h

theorem AcceptedWith.frameSize_pos : 0 < frameSize := by
  obtain ⟨s, s', now, rfl, -⟩ := h
  exact s.frameSize_pos

theorem AcceptedWith.frames_eq : t.frames = framesFrom t.id t.total 0 (t.pieces frameSize) := by
  obtain ⟨s, s', now, rfl, hbegin⟩ := h
  exact (TransactionSender.beginTransaction_ok hbegin).2.2

theorem AcceptedWith.total_toNat : t.total.toNat = t.payload.length := by
  obtain ⟨s, s', now, rfl, hbegin⟩ := h
  exact (TransactionSender.beginTransaction_ok hbegin).2.1

theorem AcceptedWith.payload_ne : t.payload ≠ [] := by
  obtain ⟨s, s', now, rfl, hbegin⟩ := h
  exact (TransactionSender.beginTransaction_ok hbegin).1

theorem AcceptedWith.total_ne : t.total ≠ 0 := by
  intro hzero
  have hlen := h.total_toNat
  rw [hzero] at hlen
  exact h.payload_ne (List.length_eq_zero_iff.1 hlen.symm)

theorem AcceptedWith.length_flatten : (t.pieces frameSize).flatten.length = t.total.toNat := by
  rw [pieces, TransactionSender.flatten_splitPayload, h.total_toNat]

theorem AcceptedWith.piece_ne : ∀ p ∈ t.pieces frameSize, p ≠ [] := fun _ hp =>
  TransactionSender.ne_nil_of_mem_splitPayload h.frameSize_pos hp

theorem AcceptedWith.pieces_ne : t.pieces frameSize ≠ [] := by
  intro hnil
  have hflat := TransactionSender.flatten_splitPayload frameSize t.payload
  rw [← pieces, hnil] at hflat
  exact h.payload_ne hflat.symm

theorem AcceptedWith.length_lt : (t.pieces frameSize).length < 2 ^ 32 := by
  have h₁ := length_le_length_flatten h.piece_ne
  have h₂ := h.length_flatten
  have h₃ := t.total.toNat_lt
  omega

theorem AcceptedWith.of_mem {f : Frame} (hf : f ∈ t.frames) :
    ∃ i p, (t.pieces frameSize)[i]? = some p ∧ f = dataFrame t.id t.total i p := by
  rw [h.frames_eq] at hf
  obtain ⟨i, p, hp, rfl⟩ := mem_framesFrom hf
  exact ⟨i, p, hp, by rw [Nat.zero_add]⟩

end Sent

/-! ## One arrival -/

/-- Every slot of the family stores pieces of its own transaction. -/
def Good (frameSize : ℕ) (family : List Sent) (r : TransactionReassembler) : Prop :=
  ∀ t ∈ family, ∀ slot, r.slots.get? t.id = some slot → slot.Stores t.total (t.pieces frameSize)

/-- Every frame of the transaction is stored. -/
def AllStored (frameSize : ℕ) (r : TransactionReassembler) (t : Sent) : Prop :=
  ∀ i < (t.pieces frameSize).length, r.Stored t.id i

theorem Good.new : Good frameSize family .new := by
  intro t _ slot hs
  rw [TransactionReassembler.new, Table.get?_empty] at hs
  cases hs

theorem Family.eq_of_id {t t' : Sent} (h : Family frameSize family arrivals) (ht : t ∈ family)
    (ht' : t' ∈ family) (hid : t.id = t'.id) : t = t' :=
  List.inj_on_of_nodup_map h.ids ht ht' hid

/-- The receive step on a frame of the family. -/
theorem Good.receives {p : Bytes} (emit : Bool) (hg : Good frameSize family r) (ht : t ∈ family)
    (hacc : t.AcceptedWith frameSize) (hp : (t.pieces frameSize)[i]? = some p) :
    TransactionReassembler.Receives r t.id t.total i p
      (r.receive (dataFrame t.id t.total i p) emit) :=
  TransactionReassembler.receives_dataFrame emit
    ((List.getElem?_eq_some_iff.1 hp).1.trans hacc.length_lt) hacc.total_ne hp
    hacc.length_flatten.le (hg t ht)

/-- What is stored after a frame was stored. -/
theorem stored_store {r' : TransactionReassembler} {slot : Slot} {p : Bytes} {total : UInt32}
    (hslot : r.slots.get? id = some slot ∨
      r.slots.get? id = none ∧ i = 0 ∧ slot = Slot.opened total)
    (hget : r'.slots.get? id = some (slot.store i p)) (j : ℕ) :
    r'.Stored id j ↔ j = i ∨ r.Stored id j := by
  rw [stored_some hget, Slot.store_frames, Std.TreeMap.mem_insert, Nat.compare_eq_eq, eq_comm]
  refine or_congr_right ?_
  rcases hslot with hs | ⟨hs, -, rfl⟩
  · exact (stored_some hs).symm
  · exact iff_of_false Std.TreeMap.not_mem_emptyc (stored_none hs)

/-- **One arrival, seen from one transaction of the family**: either
nothing of it changes and completion is not reported, or the arrival is a
frame of it that was missing, and the report says whether all are there
now. -/
theorem Good.receive_cases (hf : Family frameSize family arrivals) (hg : Good frameSize family r)
    (ha : a ∈ arrivals) (ht : t ∈ family) :
    (r.receive a.1 a.2).2.slots.get? t.id = r.slots.get? t.id ∧
        (a.1.transactionId = t.id → ∀ emitted,
          (r.receive a.1 a.2).1 ≠ .ok (.accepted true emitted)) ∨
      ∃ i p slot, (t.pieces frameSize)[i]? = some p ∧ a.1 = dataFrame t.id t.total i p ∧
        ¬ r.Stored t.id i ∧ slot.Stores t.total (t.pieces frameSize) ∧
        (r.receive a.1 a.2).2.slots.get? t.id = some slot ∧
        (∀ j, (r.receive a.1 a.2).2.Stored t.id j ↔ j = i ∨ r.Stored t.id j) ∧
        ∃ emitted, (r.receive a.1 a.2).1 = .ok (.accepted slot.isComplete emitted) := by
  by_cases hid : a.1.transactionId = t.id
  · obtain ⟨t', ht', hmem⟩ := hf.frames a ha
    obtain ⟨i, p, hp, heq⟩ := (hf.accepted t' ht').of_mem hmem
    obtain rfl : t' = t := hf.eq_of_id ht' ht (by rw [← hid, heq, dataFrame_transactionId])
    have hrec := hg.receives a.2 ht (hf.accepted t' ht) hp
    rw [← heq] at hrec
    generalize r.receive a.1 a.2 = res at hrec
    cases hrec with
    | dropped hnone hi | duplicate hget hmem => exact .inl ⟨rfl, fun _ emitted h => by cases h⟩
    | @stored slot emitted r' hslot hnew hget =>
      have hst : slot.Stores t'.total (t'.pieces frameSize) := by
        rcases hslot with hs | ⟨-, -, rfl⟩
        · exact hg t' ht slot hs
        · exact Slot.Stores.opened _ _
      refine .inr ⟨i, p, _, hp, heq, ?_, hst.store hp hnew, hget, stored_store hslot hget,
        emitted, rfl⟩
      rintro ⟨slot', hs', hi⟩
      rcases hslot with hs | ⟨hs, -, -⟩
      · rw [hs, Option.some.injEq] at hs'
        exact hnew (hs' ▸ hi)
      · rw [hs] at hs'
        cases hs'
  · exact .inl ⟨TransactionReassembler.get?_receive_of_ne fun h => hid h.symm,
      fun h => absurd h hid⟩

theorem Good.receive (hf : Family frameSize family arrivals) (hg : Good frameSize family r)
    (ha : a ∈ arrivals) : Good frameSize family (r.receive a.1 a.2).2 := by
  intro t ht slot hs
  obtain ⟨hsame, -⟩ | ⟨i, p, slot', -, -, -, hst, hget, -⟩ := hg.receive_cases hf ha ht
  · exact hg t ht slot (hsame ▸ hs)
  · rw [hget, Option.some.injEq] at hs
    exact hs ▸ hst

theorem Good.receive_ok (hf : Family frameSize family arrivals) (hg : Good frameSize family r)
    (ha : a ∈ arrivals) : ∃ out, (r.receive a.1 a.2).1 = .ok out := by
  obtain ⟨t, ht, hmem⟩ := hf.frames a ha
  obtain ⟨i, p, hp, heq⟩ := (hf.accepted t ht).of_mem hmem
  have hrec := hg.receives a.2 ht (hf.accepted t ht) hp
  rw [← heq] at hrec
  generalize r.receive a.1 a.2 = res at hrec
  cases hrec <;> exact ⟨_, rfl⟩

/-- A frame that comes while the slot is open, and a frame 0 at any time,
is stored afterwards. -/
theorem Good.stored_receive {p : Bytes} {emit : Bool} (hg : Good frameSize family r)
    (ht : t ∈ family) (hacc : t.AcceptedWith frameSize) (hp : (t.pieces frameSize)[i]? = some p)
    (hopen : i = 0 ∨ r.Stored t.id 0) :
    (r.receive (dataFrame t.id t.total i p) emit).2.Stored t.id i := by
  have hrec := hg.receives emit ht hacc hp
  generalize r.receive (dataFrame t.id t.total i p) emit = res at hrec
  cases hrec with
  | dropped hnone hi => exact absurd (hopen.resolve_left hi) (stored_none hnone)
  | duplicate hget hmem => exact ⟨_, hget, hmem⟩
  | stored hslot hnew hget => exact (stored_store hslot hget i).2 (.inl rfl)

/-! ## The whole sequence -/

theorem fed_take_succ (h : arrivals[k]? = some a) :
    fed (arrivals.take (k + 1)) = ((fed (arrivals.take k)).receive a.1 a.2).2 := by
  rw [List.take_add_one, h, fed, List.foldl_append]
  rfl

theorem fed_take_of_le (h : arrivals.length ≤ k) : fed (arrivals.take k) = fed arrivals := by
  rw [List.take_of_length_le h]

theorem good_fed (hf : Family frameSize family arrivals) (k : ℕ) :
    Good frameSize family (fed (arrivals.take k)) := by
  induction k with
  | zero => exact Good.new
  | succ k ih =>
    cases h : arrivals[k]? with
    | none =>
      have hk := List.getElem?_eq_none_iff.1 h
      rw [fed_take_of_le (Nat.le_succ_of_le hk), ← fed_take_of_le hk]
      exact ih
    | some a =>
      rw [fed_take_succ h]
      exact ih.receive hf (List.mem_of_getElem? h)

/-- **What is stored stays stored.** -/
theorem stored_mono (hf : Family frameSize family arrivals) (ht : t ∈ family)
    (hs : (fed (arrivals.take k)).Stored t.id i) (hkj : k ≤ j) :
    (fed (arrivals.take j)).Stored t.id i := by
  induction hkj with
  | refl => exact hs
  | @step j hkj ih =>
    cases h : arrivals[j]? with
    | none =>
      have hj := List.getElem?_eq_none_iff.1 h
      rw [fed_take_of_le (Nat.le_succ_of_le hj), ← fed_take_of_le hj]
      exact ih
    | some a =>
      rw [Nat.succ_eq_add_one, fed_take_succ h]
      obtain ⟨hsame, -⟩ | ⟨i', p, slot', -, -, -, -, -, hstored, -⟩ :=
        (good_fed hf j).receive_cases hf (List.mem_of_getElem? h) ht
      · exact (stored_congr hsame).2 ih
      · exact (hstored i).2 (.inr ih)

/-- **In the end everything is stored.** Frame 0 opens the slot at its first
arrival, and every other frame comes once more after that. -/
theorem allStored_of_arrives (hf : Family frameSize family arrivals) (ht : t ∈ family)
    (harr : Arrives arrivals t) : AllStored frameSize (fed arrivals) t := by
  obtain ⟨before, first, after, rfl, hhead, -, hafter⟩ := harr
  have hacc := hf.accepted t ht
  obtain ⟨p₀, hp₀⟩ : ∃ p₀, (t.pieces frameSize)[0]? = some p₀ :=
    ⟨_, List.getElem?_eq_getElem (List.length_pos_iff.2 hacc.pieces_ne)⟩
  have hfirst : first.1 = dataFrame t.id t.total 0 p₀ := by
    rw [hacc.frames_eq, List.head?_eq_getElem?, getElem?_framesFrom, hp₀, Option.map_some,
      Option.some.injEq] at hhead
    exact hhead.symm
  have hzero : (fed ((before ++ first :: after).take (before.length + 1))).Stored t.id 0 := by
    rw [fed_take_succ (a := first) (by simp), hfirst]
    exact (good_fed hf _).stored_receive ht hacc hp₀ (.inl rfl)
  intro i hi
  rw [← fed_take_of_le (Nat.le_refl _)]
  by_cases hi0 : i = 0
  · exact hi0 ▸ stored_mono hf ht hzero (by simp)
  · have hp := List.getElem?_eq_getElem hi
    have hmem : dataFrame t.id t.total i (t.pieces frameSize)[i] ∈ t.frames := by
      rw [hacc.frames_eq]
      refine List.mem_of_getElem? (i := i) ?_
      rw [getElem?_framesFrom, hp, Nat.zero_add, Option.map_some]
    have hne : dataFrame t.id t.total i (t.pieces frameSize)[i] ≠ first.1 := by
      intro heq
      have hseq := congrArg (fun f => f.seq.toNat) (heq.trans hfirst)
      simp only [dataFrame, UInt32.toNat_ofNat_of_lt' (hi.trans hacc.length_lt)] at hseq
      exact hi0 hseq
    obtain ⟨a, ha, heq⟩ := List.mem_map.1 (hafter _ hmem hne)
    obtain ⟨m, hm⟩ := List.mem_iff_getElem?.1 ha
    have hget : (before ++ first :: after)[before.length + 1 + m]? = some a := by
      rw [List.getElem?_append_right (by omega), show before.length + 1 + m - before.length = m + 1
        by omega, List.getElem?_cons_succ, hm]
    have hstored : (fed ((before ++ first :: after).take (before.length + 1 + m + 1))).Stored
        t.id i := by
      rw [fed_take_succ hget, heq]
      exact (good_fed hf _).stored_receive ht hacc hp
        (.inr (stored_mono hf ht hzero (Nat.le_add_right _ _)))
    exact stored_mono hf ht hstored (by
      have hlt := (List.getElem?_eq_some_iff.1 hget).1
      omega)

/-- Nothing is stored at the start. -/
theorem not_allStored_zero (hacc : t.AcceptedWith frameSize) :
    ¬ AllStored frameSize (fed (arrivals.take 0)) t := fun hall =>
  stored_none (Table.get?_empty t.id) (hall 0 (List.length_pos_iff.2 hacc.pieces_ne))

theorem allStored_mono (hf : Family frameSize family arrivals) (ht : t ∈ family)
    (h : AllStored frameSize (fed (arrivals.take k)) t) (hkj : k ≤ j) :
    AllStored frameSize (fed (arrivals.take j)) t := fun i hi => stored_mono hf ht (h i hi) hkj

/-- **The report is the flip**: completion is reported at an arrival exactly
when it stores the last missing frame. -/
theorem completesAt_iff (hf : Family frameSize family arrivals) (ht : t ∈ family) :
    CompletesAt arrivals t.id k ↔
      ¬ AllStored frameSize (fed (arrivals.take k)) t ∧
        AllStored frameSize (fed (arrivals.take (k + 1))) t := by
  have hacc := hf.accepted t ht
  cases hget : arrivals[k]? with
  | none =>
    have hk := List.getElem?_eq_none_iff.1 hget
    rw [fed_take_of_le hk, fed_take_of_le (Nat.le_succ_of_le hk)]
    refine ⟨fun h => ?_, fun h => absurd h.2 h.1⟩
    obtain ⟨⟨a, ha, -⟩, -⟩ := h
    rw [hget] at ha
    cases ha
  | some a =>
    rw [fed_take_succ hget]
    have hout : outcomeAt arrivals k = some ((fed (arrivals.take k)).receive a.1 a.2).1 := by
      rw [outcomeAt, hget, Option.map_some]
    obtain ⟨hsame, hno⟩ | ⟨i, p, slot, hp, heq, hnew, hst, hslot, hstored, emitted, hres⟩ :=
      (good_fed hf k).receive_cases hf (List.mem_of_getElem? hget) ht
    · refine ⟨fun h => ?_, fun h => absurd (fun i hi => (stored_congr hsame).1 (h.2 i hi)) h.1⟩
      obtain ⟨⟨a', ha', hid⟩, emitted, hres⟩ := h
      rw [hget, Option.some.injEq] at ha'
      rw [hout, Option.some.injEq] at hres
      exact absurd hres (hno (ha' ▸ hid) emitted)
    · have hall : slot.isComplete = true ↔
          AllStored frameSize ((fed (arrivals.take k)).receive a.1 a.2).2 t := by
        refine ⟨fun hc i hi => ⟨slot, hslot, ?_⟩, fun hall => ?_⟩
        · exact hst.mem_of_isComplete hacc.length_flatten.le hacc.piece_ne hc hi
        · refine hst.isComplete_of_forall_mem hacc.length_flatten hacc.pieces_ne fun i hi => ?_
          obtain ⟨slot', hs', hmem⟩ := hall i hi
          rw [hslot, Option.some.injEq] at hs'
          exact hs' ▸ hmem
      refine ⟨fun h => ⟨fun hbefore => ?_, hall.1 ?_⟩, fun h => ⟨⟨a, hget, ?_⟩, emitted, ?_⟩⟩
      · exact hnew (hbefore i (List.getElem?_eq_some_iff.1 hp).1)
      · obtain ⟨-, emitted', hout'⟩ := h
        rw [hout, hres, Option.some.injEq, Except.ok.injEq, ReceiveOutcome.accepted.injEq] at hout'
        exact hout'.1
      · rw [heq, dataFrame_transactionId]
      · rw [hout, hres, hall.2 h.2]

/-- The arrival that completes a transaction is its last missing frame. -/
theorem missing_of_completesAt (hf : Family frameSize family arrivals) (ht : t ∈ family)
    (hc : CompletesAt arrivals t.id k) :
    ∃ a, arrivals[k]? = some a ∧ a.1 ∈ t.frames ∧ ∀ i < t.frames.length,
      ((fed (arrivals.take k)).Stored t.id i ↔ i ≠ a.1.seq.toNat) := by
  have hacc := hf.accepted t ht
  obtain ⟨hbefore, hafter⟩ := (completesAt_iff hf ht).1 hc
  obtain ⟨⟨a, hget, -⟩, -⟩ := hc
  rw [fed_take_succ hget] at hafter
  obtain ⟨hsame, -⟩ | ⟨i, p, slot, hp, heq, hnew, -, -, hstored, -⟩ :=
    (good_fed hf k).receive_cases hf (List.mem_of_getElem? hget) ht
  · exact absurd (fun i hi => (stored_congr hsame).1 (hafter i hi)) hbefore
  · have hi := (List.getElem?_eq_some_iff.1 hp).1
    have hseq : a.1.seq.toNat = i := by
      rw [heq]
      exact UInt32.toNat_ofNat_of_lt' (hi.trans hacc.length_lt)
    refine ⟨a, hget, ?_, fun j hj => ⟨fun hs => ?_, fun hne => ?_⟩⟩
    · rw [hacc.frames_eq, heq]
      refine List.mem_of_getElem? (i := i) ?_
      rw [getElem?_framesFrom, hp, Nat.zero_add, Option.map_some]
    · rw [hseq]
      rintro rfl
      exact hnew hs
    · rw [hacc.frames_eq, length_framesFrom] at hj
      exact ((hstored j).1 (hafter j hj)).resolve_left (hseq ▸ hne)

/-- A transaction with every frame stored is handed out whole. -/
theorem takeCompleted_of_allStored (hf : Family frameSize family arrivals) (ht : t ∈ family)
    (hall : AllStored frameSize (fed (arrivals.take j)) t) :
    ((fed (arrivals.take j)).takeCompleted t.id).1 = some t.payload := by
  have hacc := hf.accepted t ht
  obtain ⟨slot, hs, -⟩ := hall 0 (List.length_pos_iff.2 hacc.pieces_ne)
  have hst := good_fed hf j t ht slot hs
  have hc : slot.isComplete = true :=
    hst.isComplete_of_forall_mem hacc.length_flatten hacc.pieces_ne fun i hi => by
      obtain ⟨slot', hs', hmem⟩ := hall i hi
      rw [hs, Option.some.injEq] at hs'
      exact hs' ▸ hmem
  rw [TransactionReassembler.takeCompleted, hs]
  simp only [hc, if_true]
  rw [(hst.assembled_of_isComplete hacc.length_flatten.le hacc.piece_ne hc).1, Sent.pieces,
    TransactionSender.flatten_splitPayload]

/-- **Any order, any repetition.** No call fails; each transaction is
reported complete at exactly one arrival, that of its last missing frame;
and from then on its payload is what `take_completed` returns. -/
theorem reassembly_any_order (hf : Family frameSize family arrivals)
    (harr : ∀ t ∈ family, Arrives arrivals t) :
    (∀ k < arrivals.length, ∃ out, outcomeAt arrivals k = some (.ok out)) ∧
    ∀ t ∈ family, ∃ k, CompletesAt arrivals t.id k ∧
      (∀ k', CompletesAt arrivals t.id k' → k' = k) ∧
      (∃ a, arrivals[k]? = some a ∧ a.1 ∈ t.frames ∧ ∀ i < t.frames.length,
        ((fed (arrivals.take k)).Stored t.id i ↔ i ≠ a.1.seq.toNat)) ∧
      ∀ j, k < j → ((fed (arrivals.take j)).takeCompleted t.id).1 = some t.payload := by
  constructor
  · intro k hk
    have hget := List.getElem?_eq_getElem hk
    obtain ⟨out, hout⟩ := (good_fed hf k).receive_ok hf (List.mem_of_getElem? hget)
    exact ⟨out, by rw [outcomeAt, hget, Option.map_some, hout]⟩
  · intro t ht
    have hend := allStored_of_arrives hf ht (harr t ht)
    rw [← fed_take_of_le (Nat.le_refl _)] at hend
    -- the first index at which everything is stored
    classical
    have hex : ∃ j, AllStored frameSize (fed (arrivals.take j)) t := ⟨_, hend⟩
    obtain ⟨k, hk⟩ : ∃ k, Nat.find hex = k + 1 := by
      refine Nat.exists_eq_succ_of_ne_zero fun hzero => ?_
      exact not_allStored_zero (hf.accepted t ht) (hzero ▸ Nat.find_spec hex)
    have hnot : ¬ AllStored frameSize (fed (arrivals.take k)) t :=
      Nat.find_min hex (by omega)
    have hyes : AllStored frameSize (fed (arrivals.take (k + 1))) t := hk ▸ Nat.find_spec hex
    have hc := (completesAt_iff hf ht).2 ⟨hnot, hyes⟩
    refine ⟨k, hc, fun k' hk' => ?_, missing_of_completesAt hf ht hc, fun j hj =>
      takeCompleted_of_allStored hf ht (allStored_mono hf ht hyes hj)⟩
    obtain ⟨hnot', hyes'⟩ := (completesAt_iff hf ht).1 hk'
    by_contra hne
    rcases Nat.lt_or_gt_of_ne hne with hlt | hgt
    · exact hnot (allStored_mono hf ht hyes' hlt)
    · exact hnot' (allStored_mono hf ht hyes hgt)

namespace Sample

/-- An id other than the zero id. -/
def otherId : TxId := ⟨1 :: List.replicate 15 0, rfl⟩

/-- Three bytes in two-byte frames. -/
def long : Sent := ⟨zeroId, [1, 2, 3], [dataFrame zeroId 3 0 [1, 2], dataFrame zeroId 3 1 [3]]⟩

/-- One byte in one frame. -/
def short : Sent := ⟨otherId, [9], [dataFrame otherId 1 0 [9]]⟩

/-- The tail comes too early and is dropped, the other transaction cuts in,
and frame 0 is repeated after the end. -/
def order : List Arrival :=
  [(dataFrame zeroId 3 1 [3], false), (dataFrame zeroId 3 0 [1, 2], false),
    (dataFrame otherId 1 0 [9], true), (dataFrame zeroId 3 1 [3], true),
    (dataFrame zeroId 3 0 [1, 2], false)]

theorem acceptedWith (t : Sent) (ht : t ∈ [long, short]) : t.AcceptedWith 2 := by
  simp only [List.mem_cons, List.not_mem_nil, or_false] at ht
  rcases ht with rfl | rfl
  · exact ⟨.new { frameSize := 2 }, _, 0, rfl, rfl⟩
  · exact ⟨.new { frameSize := 2 }, _, 0, rfl, rfl⟩

theorem arrives (t : Sent) (ht : t ∈ [long, short]) : Arrives order t := by
  simp only [List.mem_cons, List.not_mem_nil, or_false] at ht
  rcases ht with rfl | rfl
  · exact ⟨order.take 1, (dataFrame zeroId 3 0 [1, 2], false), order.drop 2, rfl, rfl,
      by decide, by decide⟩
  · exact ⟨order.take 2, (dataFrame otherId 1 0 [9], true), order.drop 3, rfl, rfl,
      by decide, by decide⟩

end Sample

theorem reassembly_any_order_sample :
    ∃ k, CompletesAt Sample.order zeroId k ∧
      ∀ j, k < j → ((fed (Sample.order.take j)).takeCompleted zeroId).1 = some [1, 2, 3] := by
  have hf : Family 2 [Sample.long, Sample.short] Sample.order :=
    ⟨by decide, Sample.acceptedWith, by decide⟩
  obtain ⟨k, hc, -, -, htake⟩ := (reassembly_any_order hf Sample.arrives).2 Sample.long
    (List.mem_cons_self ..)
  exact ⟨k, hc, htake⟩

end Reliability

end Xacpp
