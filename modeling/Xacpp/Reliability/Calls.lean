import Xacpp.Common.Run
import Xacpp.Reliability.Slots
/-!
# Calls on the reassembler

The reassembler under any sequence of calls, with frames of any kind. Every
slot it holds was opened empty and has only had frames stored into it that
were new and fitted its total, so what an opened slot has and storing keeps
holds of every slot (`forall_slots_of`).

Three expectations of the source fail on frames no honest peer sends. A
first frame longer than its total is refused and yet opens its slot
(`refused_unchanged_iff`). Frames without bytes are stored, so the number
of frames is not bounded by the number of bytes (`slots_bounded`). And a
slot whose bytes add up counts as complete whatever it misses
(`complete_iff_whole`).
-/

namespace Xacpp

namespace Reliability

/-- A call that may change the reassembler. -/
inductive Call
  | receiveFrame (transactionId : TxId) (seq totalLen : UInt32) (frameLen : ℕ) (payload : Bytes)
      (emit : Bool)
  | takeCompleted (transactionId : TxId)
  | discard (transactionId : TxId)
deriving DecidableEq

namespace TransactionReassembler

variable {r r' : TransactionReassembler} {calls : List Call} {id : TxId} {seq total : UInt32}
  {frameLen : ℕ} {p : Bytes} {emit : Bool}

/-- Every call is enabled. -/
def step (r : TransactionReassembler) : Call → Option TransactionReassembler
  | .receiveFrame id seq total frameLen p emit =>
    some (r.receiveFrame id seq total frameLen p emit).2
  | .takeCompleted id => some (r.takeCompleted id).2
  | .discard id => some (r.discard id).2

/-- The slot a frame goes to: the one there is, or a new one. -/
def target (r : TransactionReassembler) (id : TxId) (total : UInt32) : Slot :=
  (r.slots.get? id).getD (Slot.opened total)

/-- The frame passes every check. -/
def Accepts (r : TransactionReassembler) (id : TxId) (seq total : UInt32) (frameLen : ℕ)
    (p : Bytes) : Prop :=
  frameLen = p.length ∧ total ≠ 0 ∧ (seq = 0 ∨ r.slots.contains id = true) ∧
    (r.target id total).totalLen = total ∧ (r.target id total).frames.contains seq.toNat = false ∧
      (r.target id total).receivedBytes + p.length ≤ total.toNat

instance : Decidable (r.Accepts id seq total frameLen p) :=
  inferInstanceAs (Decidable (_ ∧ _))

theorem target_of_stored {slot : Slot} (hslot : r.slots.get? id = some slot ∨
    r.slots.get? id = none ∧ seq = 0 ∧ slot = Slot.opened total) : r.target id total = slot := by
  rcases hslot with hget | ⟨hnone, -, rfl⟩
  · rw [target, hget]
    rfl
  · rw [target, hnone]
    rfl

/-! ## What a call does to the slots -/

/-- A slot after a call: the one before it, an opened one, or the one before
it with one more frame. -/
inductive Makes (r : TransactionReassembler) (id : TxId) : Call → Slot → Prop
  | kept {c : Call} {slot : Slot} (hget : r.slots.get? id = some slot) : Makes r id c slot
  | opened {c : Call} (total : UInt32) : Makes r id c (Slot.opened total)
  | stored {seq total : UInt32} {frameLen : ℕ} {p : Bytes} {emit : Bool}
      (haccepts : r.Accepts id seq total frameLen p) :
      Makes r id (.receiveFrame id seq total frameLen p emit)
        ((r.target id total).store seq.toNat p)

theorem receiveFrame_makes {id' : TxId} {slot : Slot}
    (hget : (r.receiveFrame id seq total frameLen p emit).2.slots.get? id' = some slot) :
    Makes r id' (.receiveFrame id seq total frameLen p emit) slot := by
  have hadmits := r.receiveFrame_admits id seq total frameLen p emit
  generalize r.receiveFrame id seq total frameLen p emit = res at hadmits hget
  cases hadmits with
  | mismatch | empty | dropped | conflict | duplicate | exceeds => exact .kept hget
  | overlong =>
    rw [Table.get?_insert] at hget
    split at hget
    · cases hget
      exact .opened total
    · exact .kept hget
  | @stored slot' r' hlen htotal hsame hslot hroom hnew hstored hothers =>
    by_cases hid : id' = id
    · subst hid
      rw [hstored, Option.some.injEq] at hget
      have htarget := target_of_stored hslot
      refine hget ▸ htarget ▸ .stored ⟨hlen, htotal, ?_, ?_, ?_, ?_⟩
      · rcases hslot with hsome | ⟨-, hzero, -⟩
        · exact .inr (Table.contains_iff.2 ⟨slot', hsome⟩)
        · exact .inl hzero
      · rw [htarget, hsame]
      · rw [htarget, Bool.eq_false_iff, ne_eq, Std.TreeMap.contains_iff_mem]
        exact hnew
      · rw [htarget]
        exact hroom
    · exact .kept (hothers id' hid ▸ hget)

theorem step_makes {c : Call} {slot : Slot} (hstep : r.step c = some r')
    (hget : r'.slots.get? id = some slot) : Makes r id c slot := by
  cases c with
  | receiveFrame id' seq total frameLen p emit =>
    cases hstep
    exact receiveFrame_makes hget
  | takeCompleted id' =>
    cases hstep
    unfold takeCompleted at hget
    split at hget
    · exact .kept hget
    · split at hget
      · exact .kept (Table.of_get?_erase hget).2
      · exact .kept hget
  | discard id' =>
    cases hstep
    rw [discard] at hget
    exact .kept (Table.of_get?_erase hget).2

/-- **What holds of every slot**: whatever an opened slot has and a frame
that passes the checks keeps. -/
theorem forall_slots_of {P : Slot → Prop} {C : TransactionReassembler → Call → Prop}
    (hopened : ∀ total, P (Slot.opened total))
    (hstore : ∀ r id seq total frameLen p emit, C r (.receiveFrame id seq total frameLen p emit) →
      r.Accepts id seq total frameLen p → P (r.target id total) →
        P ((r.target id total).store seq.toNat p))
    (hmeets : RunMeets step C new calls) (hrun : run step new calls = some r) :
    ∀ id slot, r.slots.get? id = some slot → P slot := by
  refine run_induct_of (I := fun r => ∀ id slot, r.slots.get? id = some slot → P slot)
    (fun r c r' ih hC hstep id slot hget => ?_) (fun id slot hget => ?_) hmeets hrun
  · cases step_makes hstep hget with
    | kept hget => exact ih id slot hget
    | opened total => exact hopened total
    | @stored seq total frameLen p emit haccepts =>
      refine hstore r id seq total frameLen p emit hC haccepts ?_
      rw [target]
      cases hslot : r.slots.get? id with
      | none => exact hopened total
      | some slot => exact ih id slot hslot
  · rw [new, Table.get?_empty] at hget
    cases hget

end TransactionReassembler

namespace Slot


variable {slot : Slot}
/-- What every slot keeps, whatever is sent: its counts are right, it holds
no more bytes than declared, and its seqs are those of frames. -/
structure Kept (slot : Slot) : Prop where
  wf : slot.WF
  bytes : slot.receivedBytes ≤ slot.totalLen.toNat
  seqs : ∀ i ∈ slot.frames, i < 2 ^ 32

theorem Kept.opened (total : UInt32) : (Slot.opened total).Kept where
  wf := .opened total
  bytes := Nat.zero_le _
  seqs _ hi := absurd hi Std.TreeMap.not_mem_emptyc

/-- The prefix counts stored frames. -/
theorem WF.prefixEnd_le (h : slot.WF) : slot.prefixEnd ≤ slot.receivedFrames := by
  have hsize := size_le_of_forall_mem (a := 0) fun i _ hi => h.below i hi
  rw [h.receivedFrames]
  omega

/-- There is a prefix once frame 0 is stored. -/
theorem WF.isSome_iff (h : slot.WF) : slot.contiguousPrefix.isSome = true ↔ 0 ∈ slot.frames := by
  constructor
  · intro hsome
    obtain ⟨highest, hlead⟩ := Option.isSome_iff_exists.1 hsome
    exact h.mem_of_le hlead (Nat.zero_le _)
  · intro hmem
    by_contra hnone
    rw [Option.not_isSome_iff_eq_none] at hnone
    exact h.next (by rw [prefixEnd, hnone]; exact hmem)

end Slot

namespace TransactionReassembler

variable {r : TransactionReassembler} {calls : List Call} {id : TxId} {seq total : UInt32}
  {frameLen : ℕ} {p : Bytes} {emit : Bool}

theorem kept_store (haccepts : r.Accepts id seq total frameLen p)
    (h : (r.target id total).Kept) : ((r.target id total).store seq.toNat p).Kept := by
  obtain ⟨-, -, -, hsame, hnew, hroom⟩ := haccepts
  have hout : seq.toNat ∉ (r.target id total).frames := fun hmem => by
    rw [Std.TreeMap.contains_iff_mem.2 hmem] at hnew
    cases hnew
  refine ⟨h.wf.store hout, ?_, fun i hi => ?_⟩
  · rw [Slot.store_totalLen, hsame]
    exact hroom
  · rw [Slot.store_frames, Std.TreeMap.mem_insert] at hi
    rcases hi with heq | hmem
    · rw [← Nat.compare_eq_eq.1 heq]
      exact seq.toNat_lt
    · exact h.seqs i hmem

/-- **Every slot is kept**, under any calls. -/
theorem kept_of_run (hrun : run step new calls = some r) {slot : Slot}
    (hget : r.slots.get? id = some slot) : slot.Kept :=
  forall_slots_of .opened (fun _ _ _ _ _ _ _ _ haccepts h => kept_store haccepts h)
    (RunMeets.of_mem (C := fun _ _ => True) fun _ _ _ => trivial) hrun id slot hget

/-! ## Frames that are refused -/

/-- The first frame of a transaction without a slot, longer than the total
it declares itself. -/
def Overlong (r : TransactionReassembler) (id : TxId) (seq total : UInt32) (frameLen : ℕ)
    (p : Bytes) : Prop :=
  frameLen = p.length ∧ total ≠ 0 ∧ r.slots.contains id = false ∧ seq = 0 ∧ total.toNat < p.length

instance : Decidable (r.Overlong id seq total frameLen p) :=
  inferInstanceAs (Decidable (_ ∧ _))

theorem ne_of_opens (hnone : r.slots.get? id = none) {slot : Slot} :
    { r with slots := r.slots.insert id slot } ≠ r := by
  intro heq
  have hget : ({ r with slots := r.slots.insert id slot } : TransactionReassembler).slots.get? id =
      some slot := Table.get?_insert_self _ _ _
  rw [heq, hnone] at hget
  cases hget

/-- **A frame that is not stored leaves the reassembler as it was**, unless
it is the overlong first frame of its transaction. -/
theorem refused_unchanged_iff (r : TransactionReassembler) (id : TxId) (seq total : UInt32)
    (frameLen : ℕ) (p : Bytes) (emit : Bool)
    (hrefused : ∀ complete emitted,
      (r.receiveFrame id seq total frameLen p emit).1 ≠ .ok (.accepted complete emitted)) :
    (r.receiveFrame id seq total frameLen p emit).2 = r ↔ ¬ r.Overlong id seq total frameLen p := by
  have hadmits := r.receiveFrame_admits id seq total frameLen p emit
  generalize r.receiveFrame id seq total frameLen p emit = res at hadmits hrefused
  have hcontains : ∀ slot, r.slots.get? id = some slot → ¬ r.Overlong id seq total frameLen p := by
    intro slot hget hover
    have hin := Table.contains_iff.2 ⟨slot, hget⟩
    rw [hover.2.2.1] at hin
    cases hin
  cases hadmits with
  | mismatch hlen => exact iff_of_true rfl fun hover => hlen hover.1
  | empty htotal => exact iff_of_true rfl fun hover => hover.2.1 htotal
  | dropped hnone hseq => exact iff_of_true rfl fun hover => hseq hover.2.2.2.1
  | overlong hlen htotal hnone hseq hlong =>
    have hover : r.Overlong id seq total frameLen p := by
      refine ⟨hlen, htotal, ?_, hseq, hlong⟩
      rw [Table.contains, hnone]
      rfl
    exact iff_of_false (ne_of_opens hnone) fun h => h hover
  | conflict hget hne | duplicate hget hmem | exceeds hget hnew hlong =>
    exact iff_of_true rfl (hcontains _ hget)
  | stored => exact absurd rfl (hrefused _ _)

namespace Sample

/-- A reassembler with one of two bytes of a transaction. -/
def half : TransactionReassembler := (new.receiveFrame zeroId 0 2 1 [1] false).2

end Sample

theorem refused_unchanged_iff_sample :
    (Sample.half.receiveFrame zeroId 0 2 1 [7] false).1 = .ok .duplicate ∧
      (Sample.half.receiveFrame zeroId 0 2 1 [7] false).2 = Sample.half := by
  have hdup : (Sample.half.receiveFrame zeroId 0 2 1 [7] false).1 = .ok .duplicate := by decide
  refine ⟨hdup, (refused_unchanged_iff Sample.half zeroId 0 2 1 [7] false ?_).2 (by decide)⟩
  intro complete emitted h
  rw [hdup] at h
  cases h

/-- Five bytes of a transaction of four: the frame is refused, and its slot
is open. -/
theorem refused_and_opened :
    (new.receiveFrame zeroId 0 4 5 [0, 0, 0, 0, 0] false).1 = .error (.totalLenExceeded 4) ∧
      new.containsTransaction zeroId = false ∧
      (new.receiveFrame zeroId 0 4 5 [0, 0, 0, 0, 0] false).2.containsTransaction zeroId =
        true := by
  decide

/-! ## Frames without bytes -/

/-- A frame that is stored has bytes. -/
def Filled (r : TransactionReassembler) : Call → Prop
  | .receiveFrame id seq total frameLen p _ => r.Accepts id seq total frameLen p → p ≠ []
  | .takeCompleted _ | .discard _ => True

instance (r : TransactionReassembler) (c : Call) : Decidable (Filled r c) := by
  unfold Filled
  split <;> infer_instance

/-- **A slot is bounded by its declared total** where every stored frame has
bytes: it counts its frames, has no more of them than bytes and no more
bytes than declared, and neither count nor the end of the prefix leaves
`u32`. -/
theorem slots_bounded (hmeets : RunMeets step Filled new calls) (hrun : run step new calls = some r)
    {slot : Slot} (hget : r.slots.get? id = some slot) :
    slot.receivedFrames = slot.frames.size ∧ slot.receivedFrames ≤ slot.receivedBytes ∧
      slot.receivedBytes ≤ slot.totalLen.toNat ∧ slot.prefixEnd ≤ slot.receivedFrames ∧
        slot.totalLen.toNat < 2 ^ 32 := by
  have hkept := kept_of_run hrun hget
  have hfilled : slot.receivedFrames ≤ slot.receivedBytes := by
    refine forall_slots_of (P := fun slot => slot.receivedFrames ≤ slot.receivedBytes)
      (fun total => Nat.le_refl 0) (fun r id seq total frameLen p emit hC haccepts h => ?_) hmeets
      hrun id slot hget
    have hlen := List.length_pos_iff.2 (hC haccepts)
    have hframes : ((r.target id total).store seq.toNat p).receivedFrames =
        (r.target id total).receivedFrames + 1 := rfl
    have hbytes : ((r.target id total).store seq.toNat p).receivedBytes =
        (r.target id total).receivedBytes + p.length := rfl
    omega
  exact ⟨hkept.wf.receivedFrames, hfilled, hkept.bytes, hkept.wf.prefixEnd_le,
    slot.totalLen.toNat_lt⟩

theorem slots_bounded_sample :
    ∃ r slot, run step new [.receiveFrame zeroId 0 2 1 [1] false] = some r ∧
      r.slots.get? zeroId = some slot ∧ slot.receivedFrames = 1 ∧ slot.prefixEnd = 1 ∧
        slot.receivedFrames ≤ slot.receivedBytes := by
  have hmeets : RunMeets step Filled new [.receiveFrame zeroId 0 2 1 [1] false] := by decide
  have hrun : run step new [.receiveFrame zeroId 0 2 1 [1] false] = some Sample.half := rfl
  obtain ⟨slot, hget, hframes, hend⟩ : ∃ slot, Sample.half.slots.get? zeroId = some slot ∧
      slot.receivedFrames = 1 ∧ slot.prefixEnd = 1 := by decide
  exact ⟨_, _, hrun, hget, hframes, hend, (slots_bounded hmeets hrun hget).2.1⟩

/-- A frame without bytes is stored and counted. -/
theorem counted_without_bytes :
    (new.receiveFrame zeroId 0 1 0 [] false).1 = .ok (.accepted false []) ∧
      ∃ h, let slot := ((new.receiveFrame zeroId 0 1 0 [] false).2.slots.get? zeroId).get h
        slot.receivedFrames = 1 ∧ slot.receivedBytes = 0 := by
  decide

/-! ## Complete and whole -/

end TransactionReassembler

namespace Slot

/-- The stored seqs are `0..=n` without a hole, and the stored bytes are as
many as declared. -/
def Whole (slot : Slot) : Prop :=
  (∃ n, ∀ i, i ∈ slot.frames ↔ i ≤ n) ∧
    (slot.frames.toList.map fun e => e.2.length).sum = slot.totalLen.toNat

theorem WF.isComplete_iff {slot : Slot} (h : slot.WF) : slot.isComplete = true ↔
    0 ∈ slot.frames ∧
      (slot.frames.toList.map fun e => e.2.length).sum = slot.totalLen.toNat := by
  rw [isComplete, Bool.and_eq_true, decide_eq_true_eq, h.isSome_iff, h.receivedBytes]

/-- A whole slot is complete, whatever was sent. -/
theorem WF.isComplete_of_whole {slot : Slot} (h : slot.WF) (hwhole : slot.Whole) :
    slot.isComplete = true := by
  obtain ⟨⟨n, hn⟩, hbytes⟩ := hwhole
  exact h.isComplete_iff.2 ⟨(hn 0).2 (Nat.zero_le n), hbytes⟩

/-- Without gaps there is nothing past the prefix. -/
theorem WF.whole_of_isComplete {slot : Slot} (h : slot.WF) (hgaps : gaps slot.frames = [])
    (hc : slot.isComplete = true) : slot.Whole := by
  obtain ⟨hzero, hbytes⟩ := h.isComplete_iff.1 hc
  obtain ⟨highest, hlead⟩ := Option.isSome_iff_exists.1 (h.isSome_iff.2 hzero)
  have hnext : highest + 1 ∉ slot.frames := by
    have hout := h.next
    rwa [prefixEnd, hlead] at hout
  refine ⟨⟨highest, fun i => ⟨fun hi => ?_, h.mem_of_le hlead⟩⟩, hbytes⟩
  -- a seq past the prefix would leave the one after the prefix as a gap
  by_contra hgt
  by_cases hi' : i = highest + 1
  · exact hnext (hi' ▸ hi)
  · have hgap : highest + 1 ∈ gaps slot.frames := mem_gaps.2 ⟨hnext, i, hi, by omega⟩
    rw [hgaps] at hgap
    exact absurd hgap List.not_mem_nil

end Slot

namespace TransactionReassembler

/-- A frame that is stored leaves a byte of the total for each seq that is
then missing below the highest. -/
def Roomy (r : TransactionReassembler) : Call → Prop
  | .receiveFrame id seq total frameLen p _ => r.Accepts id seq total frameLen p →
    (gaps ((r.target id total).frames.insert seq.toNat p)).length +
      ((r.target id total).receivedBytes + p.length) ≤ total.toNat
  | .takeCompleted _ | .discard _ => True

instance (r : TransactionReassembler) (c : Call) : Decidable (Roomy r c) := by
  unfold Roomy
  split <;> infer_instance

variable {r : TransactionReassembler} {calls : List Call} {id : TxId} {seq total : UInt32}
  {frameLen : ℕ} {p : Bytes} {emit : Bool}

/-- The bytes still to come are as many as the gaps, at least. -/
theorem gaps_le_of_run (hmeets : RunMeets step Roomy new calls)
    (hrun : run step new calls = some r) {slot : Slot} (hget : r.slots.get? id = some slot) :
    (gaps slot.frames).length + slot.receivedBytes ≤ slot.totalLen.toNat := by
  refine forall_slots_of
    (P := fun slot => (gaps slot.frames).length + slot.receivedBytes ≤ slot.totalLen.toNat)
    (fun total => Nat.zero_le _) (fun r id seq total frameLen p emit hC haccepts h => ?_) hmeets
    hrun id slot hget
  have hroom := hC haccepts
  rw [Slot.store_totalLen, haccepts.2.2.2.1]
  exact hroom

theorem isComplete_iff_whole (hmeets : RunMeets step Roomy new calls)
    (hrun : run step new calls = some r) {slot : Slot} (hget : r.slots.get? id = some slot) :
    slot.isComplete = true ↔ slot.Whole := by
  have hwf := (kept_of_run hrun hget).wf
  refine ⟨fun hc => hwf.whole_of_isComplete ?_ hc, hwf.isComplete_of_whole⟩
  have hle := gaps_le_of_run hmeets hrun hget
  have hbytes := (hwf.isComplete_iff.1 hc).2
  rw [← hwf.receivedBytes] at hbytes
  exact List.length_eq_zero_iff.1 (by omega)

/-- **Complete means whole** where every stored frame leaves a byte of the
total for each seq it leaves missing: in what the slot says of itself, in
what `receive_frame` reports and in what `take_completed` hands out. -/
theorem complete_iff_whole (hmeets : RunMeets step Roomy new calls)
    (hrun : run step new calls = some r) :
    (∀ id, r.isComplete id = true ↔ ∃ slot, r.slots.get? id = some slot ∧ slot.Whole) ∧
      (∀ id, (r.takeCompleted id).1.isSome = true ↔
        ∃ slot, r.slots.get? id = some slot ∧ slot.Whole) ∧
      ∀ id seq total frameLen p emit complete emitted r',
        Roomy r (.receiveFrame id seq total frameLen p emit) →
          r.receiveFrame id seq total frameLen p emit = (.ok (.accepted complete emitted), r') →
            (complete = true ↔ ∃ slot, r'.slots.get? id = some slot ∧ slot.Whole) := by
  have hcomplete : ∀ id, r.isComplete id = true ↔
      ∃ slot, r.slots.get? id = some slot ∧ slot.Whole := by
    intro id
    rw [isComplete, Option.any_eq_true]
    exact exists_congr fun slot => and_congr_right fun hget => isComplete_iff_whole hmeets hrun hget
  refine ⟨hcomplete, fun id => ?_, fun id seq total frameLen p emit complete emitted r' hroomy
    hres => ?_⟩
  · rw [← hcomplete id, takeCompleted, isComplete]
    cases r.slots.get? id with
    | none => exact Iff.rfl
    | some slot => by_cases hc : slot.isComplete = true <;> simp [hc]
  · -- the report is about the slot that the call leaves
    have hreport : ∃ slot, r'.slots.get? id = some slot ∧ slot.isComplete = complete := by
      have hadmits := r.receiveFrame_admits id seq total frameLen p emit
      rw [hres] at hadmits
      cases hadmits with
      | stored hlen htotal hsame hslot hroom hnew hget hothers => exact ⟨_, hget, rfl⟩
    obtain ⟨slot, hget, rfl⟩ := hreport
    have hstep : step r (.receiveFrame id seq total frameLen p emit) = some r' := by
      rw [step, hres]
    have hwhole : slot.isComplete = true ↔ slot.Whole :=
      isComplete_iff_whole (hmeets.snoc hrun hroomy) (run_snoc hrun hstep) hget
    rw [hwhole]
    constructor
    · exact fun h => ⟨slot, hget, h⟩
    · rintro ⟨slot', hget', h⟩
      rw [hget, Option.some.injEq] at hget'
      exact hget' ▸ h

/-- Three frames of one byte each, the last before the middle one. -/
theorem complete_iff_whole_sample :
    ∃ r, run step new [.receiveFrame zeroId 0 3 1 [1] false, .receiveFrame zeroId 2 3 1 [3] false,
        .receiveFrame zeroId 1 3 1 [2] false] = some r ∧
      (r.takeCompleted zeroId).1 = some [1, 2, 3] ∧
        ∃ slot, r.slots.get? zeroId = some slot ∧ slot.Whole := by
  have hmeets : RunMeets step Roomy new [.receiveFrame zeroId 0 3 1 [1] false,
      .receiveFrame zeroId 2 3 1 [3] false, .receiveFrame zeroId 1 3 1 [2] false] := by
    decide +kernel
  obtain ⟨r, hrun, htaken⟩ : ∃ r, run step new [.receiveFrame zeroId 0 3 1 [1] false,
        .receiveFrame zeroId 2 3 1 [3] false, .receiveFrame zeroId 1 3 1 [2] false] = some r ∧
      (r.takeCompleted zeroId).1 = some [1, 2, 3] := by decide +kernel
  refine ⟨_, hrun, htaken, ((complete_iff_whole hmeets hrun).2.1 zeroId).1 ?_⟩
  rw [htaken]
  rfl

/-- Seqs 0 and 5 of one byte each, for a total of two: the transaction is
reported complete and its bytes are handed out, with four seqs missing. -/
theorem complete_with_gaps :
    let r := Sample.half.receiveFrame zeroId 5 2 1 [2] false
    r.1 = .ok (.accepted true []) ∧ (r.2.takeCompleted zeroId).1 = some [1, 2] ∧
      ∃ h, gaps ((r.2.slots.get? zeroId).get h).frames = [1, 2, 3, 4] := by
  decide +kernel

end TransactionReassembler

end Reliability

end Xacpp
