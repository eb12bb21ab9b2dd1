import Mathlib.Order.Bounds.Defs
import Xacpp.Reliability.Calls
import Xacpp.Wire.RoundTrip
/-!
# What the reassembler exports

A stream is fed from what `receive_frame` emits, the peer's copies are
released on what `ack_entry` reports, and frames are asked for again by
`missing_seqs`. All three are computed from the cached prefix, and all
three agree with the frames stored: from its opening on, a slot has emitted
exactly its prefix, each payload as it was stored first
(`emissions_eq_prefix`), and the two reports are read off the stored seqs
(`reports_of_run`).
-/

namespace Xacpp

namespace Reliability

variable {id : TxId} {i : ℕ} {p : Bytes}

variable {slot : Slot} {log : List Receipt}

namespace Slot

/-! ## The covered range -/

/-- Where every seq of the range is stored, it is covered seq by seq. -/
theorem map_fst_covered {start stop : ℕ} (h : ∀ i, start ≤ i → i < stop → i ∈ slot.frames) :
    (slot.covered start stop).map Prod.fst = List.range' start (stop - start) := by
  have hself : ∀ i ∈ List.range' start (stop - start),
      (slot.frames[i]?.map fun bytes => (i, bytes)).map Prod.fst = some i := by
    intro i hi
    rw [List.mem_range'_1] at hi
    have hmem := h i hi.1 (by omega)
    rw [Std.TreeMap.getElem?_eq_some_getElem hmem]
    rfl
  rw [covered, List.map_filterMap, List.filterMap_congr hself]
  exact List.filterMap_some

theorem mem_covered {start stop : ℕ} :
    (i, p) ∈ slot.covered start stop ↔ start ≤ i ∧ i < stop ∧ slot.frames[i]? = some p := by
  simp only [covered, List.mem_filterMap, List.mem_range'_1, Option.map_eq_some_iff, Prod.mk.injEq]
  constructor
  · rintro ⟨j, hj, bytes, hget, rfl, rfl⟩
    exact ⟨hj.1, by omega, hget⟩
  · rintro ⟨hstart, hstop, hget⟩
    exact ⟨i, ⟨hstart, by omega⟩, p, hget, rfl, rfl⟩

theorem covered_append {a b c : ℕ} (hab : a ≤ b) (hbc : b ≤ c) :
    slot.covered a b ++ slot.covered b c = slot.covered a c := by
  have hrange : List.range' a (b - a) ++ List.range' b (c - b) = List.range' a (c - a) := by
    have hb : a + (b - a) = b := by omega
    have hc : b - a + (c - b) = c - a := by omega
    rw [← hc, ← List.range'_append_1, hb]
  rw [covered, covered, ← List.filterMap_append, hrange]
  rfl

/-- A frame stored past the range leaves it as it is. -/
theorem covered_store {start stop : ℕ} (h : stop ≤ i) :
    (slot.store i p).covered start stop = slot.covered start stop := by
  refine List.filterMap_congr fun j hj => ?_
  rw [List.mem_range'_1] at hj
  have hne : ¬ compare i j = .eq := fun heq => by
    have := Nat.compare_eq_eq.1 heq
    omega
  rw [store_frames, Std.TreeMap.getElem?_insert, if_neg hne]

/-- A new frame lies past the prefix. -/
theorem WF.prefixEnd_le_of_not_mem (h : slot.WF) (hnew : i ∉ slot.frames) : slot.prefixEnd ≤ i := by
  by_contra hlt
  exact hnew (h.below i (by omega))

/-- The prefix does not shrink. -/
theorem WF.prefixEnd_le_store (h : slot.WF) (hnew : i ∉ slot.frames) :
    slot.prefixEnd ≤ (slot.store i p).prefixEnd := by
  by_contra hlt
  -- the end of the new prefix is not stored, and everything below the old one is
  have hout := (h.store (p := p) hnew).next
  refine hout ?_
  rw [store_frames, Std.TreeMap.mem_insert]
  exact .inr (h.below _ (by omega))

end Slot

namespace TransactionReassembler

variable {r r' : TransactionReassembler} {calls : List Call}

/-! ## Emission -/

/-- One frame stored, with what its call emitted. -/
structure Receipt where
  seq : ℕ
  payload : Bytes
  emitted : List (ℕ × Bytes)

/-- The receipt of a call for a transaction, where it stores a frame of it. -/
def receipt (id : TxId) (r : TransactionReassembler) : Call → List Receipt
  | .receiveFrame id' seq total frameLen p emit =>
    if id' = id then
      match (r.receiveFrame id' seq total frameLen p emit).1 with
      | .ok (.accepted _ emitted) => [⟨seq.toNat, p, emitted⟩]
      | _ => []
    else []
  | .takeCompleted _ | .discard _ => []

/-- The call leaves the slot of the transaction in place, and emits where it
is a frame of it. -/
def Follows (id : TxId) : Call → Prop
  | .receiveFrame id' _ _ _ _ emit => id' = id → emit = true
  | .takeCompleted id' | .discard id' => id' ≠ id

instance decidableFollows : ∀ c, Decidable (Follows id c)
  | .receiveFrame id' _ _ _ _ emit => inferInstanceAs (Decidable (id' = id → emit = true))
  | .takeCompleted id' | .discard id' => inferInstanceAs (Decidable (id' ≠ id))

/-- A slot against the receipts since it was opened: its frames are the
first stored under each seq, and its prefix has been emitted. -/
structure Emitted (slot : Slot) (log : List Receipt) : Prop where
  wf : slot.WF
  frames : ∀ i, slot.frames[i]? = (log.find? fun e => e.seq = i).map Receipt.payload
  emitted : log.flatMap Receipt.emitted = slot.covered 0 slot.prefixEnd

theorem Emitted.opened (total : UInt32) : Emitted (Slot.opened total) [] where
  wf := .opened total
  frames _ := Std.TreeMap.getElem?_emptyc
  emitted := rfl

theorem Emitted.store (h : Emitted slot log) (hnew : i ∉ slot.frames) : Emitted (slot.store i p)
      (log ++ [⟨i, p, (slot.store i p).covered slot.prefixEnd (slot.store i p).prefixEnd⟩]) := by
  have hnone : (log.find? fun e => e.seq = i) = none := by
    have hget := h.frames i
    rw [Std.TreeMap.getElem?_eq_none hnew] at hget
    exact Option.map_eq_none_iff.1 hget.symm
  refine ⟨h.wf.store hnew, fun j => ?_, ?_⟩
  · rw [Slot.store_frames, Std.TreeMap.getElem?_insert, List.find?_append]
    by_cases hij : i = j
    · subst hij
      rw [if_pos (Nat.compare_eq_eq.2 rfl), hnone]
      simp
    · rw [if_neg fun heq => hij (Nat.compare_eq_eq.1 heq), h.frames j]
      simp [hij]
  · have hpast := h.wf.prefixEnd_le_of_not_mem hnew
    rw [List.flatMap_append, h.emitted, List.flatMap_cons, List.flatMap_nil, List.append_nil,
      ← Slot.covered_store hpast,
      Slot.covered_append (Nat.zero_le _) (h.wf.prefixEnd_le_store hnew)]

/-- What holds of a transaction since a time it had no slot. -/
def Since (id : TxId) (r : TransactionReassembler) (log : List Receipt) : Prop :=
  match r.slots.get? id with
  | none => log = []
  | some slot => Emitted slot log

theorem since_congr (h : r'.slots.get? id = r.slots.get? id) :
    Since id r' log ↔ Since id r log := by
  rw [Since, Since, h]

theorem since_none (h : r.slots.get? id = none) : Since id r log ↔ log = [] := by
  rw [Since, h]

theorem since_some (h : r.slots.get? id = some slot) : Since id r log ↔ Emitted slot log := by
  rw [Since, h]

/-- A frame of the transaction. -/
theorem Since.receiveFrame {seq total : UInt32} {frameLen : ℕ} (h : Since id r log) :
    Since id (r.receiveFrame id seq total frameLen p true).2
      (log ++ receipt id r (.receiveFrame id seq total frameLen p true)) := by
  have hadmits := r.receiveFrame_admits id seq total frameLen p true
  rw [receipt, if_pos rfl]
  generalize r.receiveFrame id seq total frameLen p true = res at hadmits
  cases hadmits with
  | mismatch | empty | dropped | conflict | duplicate | exceeds =>
    rw [List.append_nil]
    exact h
  | overlong hlen htotal hnone hseq hlong =>
    rw [(since_none hnone).1 h]
    exact (since_some (Table.get?_insert_self _ _ _)).2 (.opened total)
  | @stored slot r' hlen htotal hsame hslot hroom hnew hget hothers =>
    have hemitted : Emitted slot log := by
      rcases hslot with hsome | ⟨hnone, -, rfl⟩
      · exact (since_some hsome).1 h
      · rw [(since_none hnone).1 h]
        exact .opened total
    exact (since_some hget).2 (hemitted.store hnew)

theorem Since.step {c : Call} (h : Since id r log) (hfollows : Follows id c)
    (hstep : r.step c = some r') : Since id r' (log ++ receipt id r c) := by
  cases c with
  | receiveFrame id' seq total frameLen p emit =>
    cases hstep
    by_cases hid : id' = id
    · subst hid
      rw [hfollows rfl]
      exact h.receiveFrame
    · rw [receipt, if_neg hid, List.append_nil]
      exact (since_congr (get?_receiveFrame_of_ne (Ne.symm hid))).2 h
  | takeCompleted id' =>
    cases hstep
    rw [receipt, List.append_nil]
    refine (since_congr ?_).2 h
    unfold takeCompleted
    split
    · rfl
    · split
      · exact Table.get?_erase_of_ne _ (Ne.symm hfollows)
      · rfl
  | discard id' =>
    cases hstep
    rw [receipt, List.append_nil]
    exact (since_congr (Table.get?_erase_of_ne _ (Ne.symm hfollows))).2 h

/-- The first seq past the prefix of a transaction, 0 without a slot. -/
def prefixEnd (r : TransactionReassembler) (id : TxId) : ℕ :=
  ((r.slots.get? id).map Slot.prefixEnd).getD 0

/-- **A stream gets the prefix**: from a state in which the transaction has
no slot, and as long as its slot is not removed, the frames emitted are
those of the current prefix, in order and each once, with the payload that
was stored first under its seq. -/
theorem emissions_eq_prefix (hnone : r.slots.get? id = none)
    (hfollows : ∀ c ∈ calls, Follows id c) (hrun : run step r calls = some r') :
    let log := outputs step (receipt id) r calls
    (log.flatMap Receipt.emitted).map Prod.fst = List.range (r'.prefixEnd id) ∧
      ∀ e ∈ log.flatMap Receipt.emitted,
        (log.find? fun stored => stored.seq = e.1).map Receipt.payload = some e.2 := by
  have hsince : Since id r' (outputs step (receipt id) r calls) :=
    run_induct_outputs (fun _ _ c _ hc h hstep => h.step (hfollows c hc) hstep)
      ((since_none hnone).2 rfl) hrun
  intro log
  rw [prefixEnd]
  cases hget : r'.slots.get? id with
  | none =>
    have hlog : log = [] := (since_none hget).1 hsince
    rw [hlog]
    exact ⟨rfl, fun e he => absurd he List.not_mem_nil⟩
  | some slot =>
    have hemitted : Emitted slot log := (since_some hget).1 hsince
    rw [hemitted.emitted]
    constructor
    · rw [Slot.map_fst_covered fun i _ hi => hemitted.wf.below i hi, Nat.sub_zero,
        ← List.range_eq_range']
      rfl
    · rintro ⟨i, p⟩ he
      rw [← hemitted.frames i]
      exact (Slot.mem_covered.1 he).2.2

namespace Sample

/-- Seq 2 before seq 1, and seq 2 once more with other bytes. -/
def shuffled : List Call :=
  [.receiveFrame zeroId 0 3 1 [1] true, .receiveFrame zeroId 2 3 1 [3] true,
    .receiveFrame zeroId 2 3 1 [9] true, .receiveFrame zeroId 1 3 1 [2] true]

end Sample

theorem emissions_eq_prefix_sample :
    (outputs step (receipt zeroId) new Sample.shuffled).map Receipt.emitted =
        [[(0, [1])], [], [(1, [2]), (2, [3])]] ∧
      ((outputs step (receipt zeroId) new Sample.shuffled).flatMap Receipt.emitted).map Prod.fst =
        List.range 3 := by
  obtain ⟨r, hrun, hend⟩ : ∃ r, run step new Sample.shuffled = some r ∧ r.prefixEnd zeroId = 3 := by
    decide +kernel
  have hnone : new.slots.get? zeroId = none := rfl
  obtain ⟨hall, -⟩ := emissions_eq_prefix hnone (by decide) hrun
  rw [hend] at hall
  exact ⟨by decide +kernel, hall⟩

/-! ## The two reports -/

/-- The seqs a slot is asked about: past its prefix, below its highest. -/
theorem missingSeqs_some {top maxEntries : ℕ} (hget : r.slots.get? id = some slot)
    (htop : slot.frames.maxKey? = some top) :
    r.missingSeqs id maxEntries = ((List.range' slot.prefixEnd (top - slot.prefixEnd)).filter
      fun seq => !slot.frames.contains seq).take maxEntries := by
  rw [missingSeqs, hget]
  simp only [htop]

/-- Those are the seqs below the highest that are not stored. -/
theorem mem_missing {top : ℕ} (hwf : slot.WF) (htop : slot.frames.maxKey? = some top) :
    i ∈ ((List.range' slot.prefixEnd (top - slot.prefixEnd)).filter
      fun seq => !slot.frames.contains seq) ↔ i ∉ slot.frames ∧ ∃ j ∈ slot.frames, i < j := by
  obtain ⟨hin, hmax⟩ := Std.TreeMap.maxKey?_eq_some_iff_mem_and_forall.1 htop
  simp only [List.mem_filter, List.mem_range'_1, Bool.not_eq_true', Bool.eq_false_iff, ne_eq,
    Std.TreeMap.contains_iff_mem]
  constructor
  · rintro ⟨⟨hstart, hstop⟩, hout⟩
    exact ⟨hout, top, hin, by omega⟩
  · rintro ⟨hout, j, hj, hlt⟩
    have hle := Nat.isLE_compare.1 (hmax j hj)
    have hstart := hwf.prefixEnd_le_of_not_mem hout
    exact ⟨⟨hstart, by omega⟩, hout⟩

/-- **The gap list** of a transaction, of which `missing_seqs` gives the
start. -/
theorem exists_missing (hrun : run step new calls = some r) (id : TxId) :
    ∃ missing : List ℕ, missing.Pairwise (· < ·) ∧
      (∀ i, i ∈ missing ↔ ¬ r.Stored id i ∧ ∃ j, r.Stored id j ∧ i < j) ∧
        ∀ maxEntries, r.missingSeqs id maxEntries = missing.take maxEntries := by
  cases hget : r.slots.get? id with
  | none =>
    refine ⟨[], .nil, fun i => iff_of_false List.not_mem_nil ?_, fun maxEntries => ?_⟩
    · rintro ⟨-, j, hj, -⟩
      exact stored_none hget hj
    · rw [missingSeqs, hget, List.take_nil]
  | some slot =>
    have hwf := (kept_of_run hrun hget).wf
    simp only [stored_some hget]
    cases htop : slot.frames.maxKey? with
    | none =>
      have hempty : ∀ j, j ∉ slot.frames := fun j hj => by
        have hsome := Std.TreeMap.isSome_maxKey?_of_mem hj
        rw [htop] at hsome
        cases hsome
      refine ⟨[], .nil, fun i => iff_of_false List.not_mem_nil ?_, fun maxEntries => ?_⟩
      · rintro ⟨-, j, hj, -⟩
        exact hempty j hj
      · rw [missingSeqs, hget]
        simp only [htop, List.take_nil]
    | some top =>
      exact ⟨_, (List.pairwise_lt_range' ..).filter _, fun i => mem_missing hwf htop,
        fun maxEntries => missingSeqs_some hget htop⟩

/-- A missing seq is one of a frame. -/
theorem missing_lt (hrun : run step new calls = some r) {maxEntries : ℕ}
    (hi : i ∈ r.missingSeqs id maxEntries) : i < 2 ^ 32 := by
  obtain ⟨missing, -, hmem, htake⟩ := exists_missing hrun id
  rw [htake] at hi
  obtain ⟨-, j, ⟨slot, hget, hj⟩, hlt⟩ := (hmem i).1 (List.mem_of_mem_take hi)
  exact hlt.trans ((kept_of_run hrun hget).seqs j hj)

theorem length_missingSeqs_le (hrun : run step new calls = some r) (maxEntries : ℕ) :
    (r.missingSeqs id maxEntries).length ≤ maxEntries := by
  obtain ⟨missing, -, -, htake⟩ := exists_missing hrun id
  rw [htake]
  exact List.length_take_le ..

/-- A gap list up to the bound fits a control frame. -/
theorem encodeNackPayload_fits {seqs : List UInt32} (hlen : seqs.length ≤ maxNackMissingEntries) :
    ∃ bytes, encodeNackPayload [⟨id, seqs⟩] = .ok bytes ∧ bytes.length ≤ controlPayloadCap := by
  have hmax : maxNackMissingEntries = 4091 := rfl
  have hcap : controlPayloadCap = 16384 := rfl
  have hseqs : (seqs.flatMap fun seq => toBE 4 seq.toNat).length = 4 * seqs.length := by
    rw [List.length_flatMap]
    simp [length_toBE, Nat.mul_comm]
  have hbody : (writeNackEntry ⟨id, seqs⟩ ++ []).length = 18 + 4 * seqs.length := by
    have hid : id.toList.length = 16 := id.toList_length
    rw [List.append_nil, writeNackEntry, List.length_append, List.length_append, hseqs,
      length_toBE, hid]
    omega
  have hfits : (UInt8.ofNat 1 :: (writeNackEntry ⟨id, seqs⟩ ++ [])).length ≤
      controlPayloadCap := by
    rw [List.length_cons, hbody]
    omega
  have hshort : ¬ seqs.length > 65535 := by omega
  refine ⟨_, ?_, hfits⟩
  rw [← finish_ok hfits]
  simp only [encodeNackPayload, writeNackEntries, hshort, if_false]
  rfl

/-- **The reports agree with the frames stored**: an ACK entry has the
largest seq up to which everything is stored, and there is none without
frame 0; it counts the frames; `missing_seqs` is the start of the ascending
list of the seqs below the highest stored that are not stored; and the NACK
made of it fits its frame. -/
theorem reports_of_run (hrun : run step new calls = some r) (id : TxId)
    (hbound : ∀ slot, r.slots.get? id = some slot → slot.frames.size < 2 ^ 32 - 1) :
    (r.ackEntry id = none ↔ ¬ r.Stored id 0) ∧
      (∀ entry, r.ackEntry id = some entry → entry.transactionId = id ∧
        IsGreatest {h | ∀ i ≤ h, r.Stored id i} entry.highestContiguousSeq.toNat ∧
          ∃ slot, r.slots.get? id = some slot ∧
            entry.receivedFrames.toNat = slot.frames.size) ∧
      (∃ missing : List ℕ, missing.Pairwise (· < ·) ∧
        (∀ i, i ∈ missing ↔ ¬ r.Stored id i ∧ ∃ j, r.Stored id j ∧ i < j) ∧
          ∀ maxEntries, r.missingSeqs id maxEntries = missing.take maxEntries) ∧
      ∃ seqs bytes, seqs.map UInt32.toNat = r.missingSeqs id maxNackMissingEntries ∧
        encodeNackPayload [⟨id, seqs⟩] = .ok bytes ∧ bytes.length ≤ controlPayloadCap := by
  refine ⟨?_, fun entry hentry => ?_, exists_missing hrun id, ?_⟩
  · cases hget : r.slots.get? id with
    | none =>
      refine iff_of_true ?_ (stored_none hget)
      rw [ackEntry, hget]
      rfl
    | some slot =>
      rw [stored_some hget, ← (kept_of_run hrun hget).wf.isSome_iff,
        Option.not_isSome_iff_eq_none, ackEntry, hget, Option.bind_some, Option.map_eq_none_iff]
  · obtain ⟨slot, hget, hlead⟩ := Option.bind_eq_some_iff.1 hentry
    obtain ⟨highest, hprefix, rfl⟩ := Option.map_eq_some_iff.1 hlead
    have hkept := kept_of_run hrun hget
    have hsize := hbound slot hget
    have hhighest : (UInt32.ofNat highest).toNat = highest :=
      UInt32.toNat_ofNat_of_lt' (hkept.seqs highest (hkept.wf.mem_of_le hprefix (Nat.le_refl _)))
    have hframes : (UInt32.ofNat slot.receivedFrames).toNat = slot.receivedFrames :=
      UInt32.toNat_ofNat_of_lt' (by rw [hkept.wf.receivedFrames]; exact hsize.trans (by decide))
    simp only [stored_some hget, hhighest]
    refine ⟨trivial, ⟨fun i hi => hkept.wf.mem_of_le hprefix hi, fun h hall => ?_⟩, slot, hget, ?_⟩
    · -- the seq after the prefix is not stored
      have hnext : highest + 1 ∉ slot.frames := by
        have hout := hkept.wf.next
        rwa [Slot.prefixEnd, hprefix] at hout
      by_contra hlt
      exact hnext (hall (highest + 1) (by omega))
    · rw [hframes, hkept.wf.receivedFrames]
  · have hlen : ((r.missingSeqs id maxNackMissingEntries).map UInt32.ofNat).length ≤
        maxNackMissingEntries := by
      rw [List.length_map]
      exact length_missingSeqs_le hrun _
    obtain ⟨bytes, hencode, hfits⟩ : ∃ bytes, encodeNackPayload [⟨id, _⟩] = .ok bytes ∧
        bytes.length ≤ controlPayloadCap := encodeNackPayload_fits hlen
    refine ⟨_, bytes, ?_, hencode, hfits⟩
    rw [List.map_map]
    conv_rhs => rw [← List.map_id (r.missingSeqs id maxNackMissingEntries)]
    exact List.map_congr_left fun i hi => UInt32.toNat_ofNat_of_lt' (missing_lt hrun hi)

theorem reports_of_run_sample :
    ∃ r entry, run step new Sample.shuffled = some r ∧ r.ackEntry zeroId = some entry ∧
      entry.receivedFrames = 3 ∧
        IsGreatest {h | ∀ i ≤ h, r.Stored zeroId i} entry.highestContiguousSeq.toNat := by
  obtain ⟨r, slot, hrun, hentry, hslot, hsize⟩ : ∃ r slot, run step new Sample.shuffled = some r ∧
      r.ackEntry zeroId = some ⟨zeroId, 2, 3⟩ ∧ r.slots.get? zeroId = some slot ∧
        slot.frames.size = 3 := by decide +kernel
  refine ⟨_, _, hrun, hentry, rfl,
    ((reports_of_run hrun zeroId fun slot' hget => ?_).2.1 _ hentry).2.1⟩
  rw [hslot, Option.some.injEq] at hget
  subst hget
  omega

end TransactionReassembler

end Reliability

end Xacpp
