import Xacpp.Reliability.Copies
import Xacpp.Reliability.Slots
/-!
# Reports and the copy they reach

An ACK entry counts frames. Where the slot agrees with the frames cut so
far, the count is at most their number and reaches it only with a full
prefix (`Reports`); and while the slot is not complete it stays below the
number of a transaction that is fully sent. On the other side a copy that
is still held has not been told of all its frames (`Lags`), and merging
true reports keeps it so.
-/

namespace Xacpp

namespace Reliability

variable {id : TxId} {total : UInt32} {framed : List Bytes} {appended : Bytes}

/-! ## The slot's side -/

/-- The entry reports on a transaction of which these frames were cut. -/
structure Reports (entry : AckEntry) (framed : List Bytes) : Prop where
  le : entry.receivedFrames.toNat ≤ framed.length
  whole : entry.receivedFrames.toNat = framed.length →
    entry.highestContiguousSeq.toNat + 1 = framed.length

/-- A report stays true when more is cut. -/
theorem Reports.append {entry : AckEntry} (h : Reports entry framed) (more : List Bytes) :
    Reports entry (framed ++ more) := by
  have hle := h.le
  refine ⟨by rw [List.length_append]; omega, fun heq => ?_⟩
  rw [List.length_append] at heq ⊢
  -- the count can only reach the new number if nothing was added
  have hwhole := h.whole (by omega)
  omega

namespace TransactionReassembler

variable {r : TransactionReassembler} {entry : AckEntry} {slot : Slot}

/-- What an entry says of its slot. -/
theorem of_ackEntry (h : r.ackEntry id = some entry) :
    entry.transactionId = id ∧ ∃ slot highest, r.slots.get? id = some slot ∧
      slot.contiguousPrefix = some highest ∧
      entry.highestContiguousSeq = UInt32.ofNat highest ∧
      entry.receivedFrames = UInt32.ofNat slot.receivedFrames := by
  obtain ⟨slot, hget, hslot⟩ := Option.bind_eq_some_iff.1 h
  obtain ⟨highest, hhigh, rfl⟩ := Option.map_eq_some_iff.1 hslot
  exact ⟨rfl, slot, highest, hget, hhigh, rfl, rfl⟩

theorem toNat_receivedFrames (hstores : slot.Stores total framed)
    (hlt : framed.length < 2 ^ 32) :
    (UInt32.ofNat slot.receivedFrames).toNat = slot.frames.size := by
  have hle := size_le_of_agrees hstores.agrees
  rw [← hstores.wf.receivedFrames] at hle ⊢
  exact UInt32.toNat_ofNat_of_lt' (Nat.lt_of_le_of_lt hle hlt)

/-- **An entry of the receiver reports on what was cut.** -/
theorem reports_ackEntry (h : r.ackEntry id = some entry) (hlt : framed.length < 2 ^ 32)
    (hslot : ∀ slot, r.slots.get? id = some slot → slot.Stores total framed) :
    Reports entry framed := by
  obtain ⟨-, slot, highest, hget, hhigh, hseq, hcount⟩ := of_ackEntry h
  have hstores := hslot slot hget
  have hsize := toNat_receivedFrames hstores hlt
  refine ⟨by rw [hcount, hsize]; exact size_le_of_agrees hstores.agrees, fun heq => ?_⟩
  rw [hcount, hsize] at heq
  -- the seq after the prefix is not stored, so it is no frame of the transaction
  have hend : slot.prefixEnd = highest + 1 := by rw [Slot.prefixEnd, hhigh]; rfl
  have hout : ¬ highest + 1 < framed.length := fun hi =>
    hstores.wf.next (hend ▸ mem_of_size_eq hstores.agrees heq hi)
  have hmem := hstores.wf.mem_of_le hhigh (Nat.le_refl highest)
  obtain ⟨p, hp⟩ := Option.isSome_iff_exists.1 (Std.TreeMap.mem_iff_isSome_getElem?.1 hmem)
  have hin := (List.getElem?_eq_some_iff.1 (hstores.agrees highest p hp)).1
  rw [hseq, UInt32.toNat_ofNat_of_lt' (hin.trans hlt)]
  omega

/-- **An incomplete slot lacks a frame** of a transaction that is all cut. -/
theorem received_lt_of_incomplete (h : r.ackEntry id = some entry)
    (hlt : framed.length < 2 ^ 32)
    (hslot : ∀ slot, r.slots.get? id = some slot →
      slot.Stores total framed ∧ slot.isComplete = false)
    (htotal : framed.flatten.length = total.toNat) (hpos : framed ≠ []) :
    entry.receivedFrames.toNat < framed.length := by
  obtain ⟨-, slot, highest, hget, -, -, hcount⟩ := of_ackEntry h
  obtain ⟨hstores, hopen⟩ := hslot slot hget
  have hsize := toNat_receivedFrames hstores hlt
  rw [hcount, hsize]
  refine Nat.lt_of_le_of_ne (size_le_of_agrees hstores.agrees) fun heq => ?_
  have hfull := hstores.isComplete_of_forall_mem htotal hpos fun i hi =>
    mem_of_size_eq hstores.agrees heq hi
  rw [hopen] at hfull
  cases hfull

end TransactionReassembler

/-! ## The copy's side -/

namespace PendingTxn

variable {txn txn' : PendingTxn} {entry : AckEntry} {now : ℕ}

/-- A fully sent copy has cut its total, into at least one frame. -/
theorem Holds.of_isFullySent (h : txn.Holds id total framed appended) (htotal : total ≠ 0)
    (hsent : txn.isFullySent = true) :
    framed.flatten.length = total.toNat ∧ framed ≠ [] := by
  rw [isFullySent, Bool.and_eq_true, decide_eq_true_eq, List.isEmpty_iff, h.totalLen] at hsent
  have hbytes := h.bytes
  rw [hsent.2, List.append_nil] at hbytes
  have hlen : framed.flatten.length = total.toNat := by rw [hbytes, ← h.written, hsent.1]
  refine ⟨hlen, ?_⟩
  rintro rfl
  exact htotal (UInt32.toNat_inj.1 hlen.symm)

/-- The peer has not reported all frames of a transaction that is all
cut. -/
structure Lags (txn : PendingTxn) (framed : List Bytes) : Prop where
  le : txn.ackedReceived ≤ framed.length
  lt : txn.isFullySent = true → txn.ackedReceived < framed.length

theorem Lags.congr (h : txn.Lags framed) (hsame : SameCopy txn txn')
    (hreceived : txn'.ackedReceived = txn.ackedReceived) : txn'.Lags framed := by
  refine ⟨hreceived ▸ h.le, fun hsent => ?_⟩
  rw [hreceived]
  refine h.lt ?_
  rw [isFullySent, hsame.written, hsame.totalLen, hsame.partialBytes] at hsent
  exact hsent

theorem Lags.of_fresh (h : txn.Holds id total framed appended) (htotal : total ≠ 0)
    (hreceived : txn.ackedReceived = 0) : txn.Lags framed := by
  refine ⟨by omega, fun hsent => ?_⟩
  have hpos := List.length_pos_iff.2 (h.of_isFullySent htotal hsent).2
  omega

/-- A copy that lags is not fully acknowledged. -/
theorem Lags.not_isFullyAcked (h : txn.Lags framed) (hholds : txn.Holds id total framed appended) :
    txn.isFullyAcked = false := by
  refine Bool.eq_false_iff.2 fun hacked => ?_
  have hsent := (Bool.and_eq_true_iff.1 hacked).1
  have hlt := h.lt hsent
  have hcount := (Bool.and_eq_true_iff.1 hacked).2
  rw [hholds.frameCount] at hcount
  cases hlen : framed.length with
  | zero => omega
  | succ last =>
    rw [hlen] at hcount
    simp only [Bool.and_eq_true, decide_eq_true_eq] at hcount
    omega

/-- A copy becomes fully sent only by a frame that is cut. -/
theorem isFullySent_of_extend {chunk rest : Bytes} {ps : List Bytes}
    (hps : ps.flatten ++ rest = txn.partialBytes ++ chunk)
    (hsent : ((txn.taken chunk).extend id ps rest now).isFullySent = true) :
    txn.isFullySent = true ∨ ps ≠ [] := by
  cases ps with
  | cons p ps => exact .inr (List.cons_ne_nil p ps)
  | nil =>
    -- the tail is empty and nothing was cut, so nothing was taken
    rw [isFullySent, Bool.and_eq_true, decide_eq_true_eq, List.isEmpty_iff, extend_partialBytes,
      extend_written, taken_written, extend_totalLen, taken_totalLen] at hsent
    rw [hsent.2, List.flatten_nil] at hps
    obtain ⟨hpart, rfl⟩ := List.append_eq_nil_iff.1 hps.symm
    left
    rw [isFullySent, hpart, Bool.and_eq_true, decide_eq_true_eq]
    exact ⟨hsent.1, rfl⟩

/-- Framing more leaves the reports behind. -/
theorem Lags.extend {chunk rest : Bytes} {ps : List Bytes} (h : txn.Lags framed)
    (hps : ps.flatten ++ rest = txn.partialBytes ++ chunk) :
    ((txn.taken chunk).extend id ps rest now).Lags (framed ++ ps) := by
  have hreceived : ((txn.taken chunk).extend id ps rest now).ackedReceived =
      txn.ackedReceived := rfl
  have hle := h.le
  refine ⟨by rw [hreceived, List.length_append]; omega, fun hsent => ?_⟩
  rw [hreceived, List.length_append]
  rcases isFullySent_of_extend hps hsent with hwas | hmore
  · have hlt := h.lt hwas
    omega
  · have hpos := List.length_pos_iff.2 hmore
    omega

/-- **Merging a true report keeps the lag**, unless it completes the copy. -/
theorem Lags.acked (h : txn.Lags framed) (hholds : txn.Holds id total framed appended)
    (hreport : Reports entry framed) (hopen : (txn.acked entry now).isFullyAcked = false) :
    (txn.acked entry now).Lags framed := by
  have hreceived : (txn.acked entry now).ackedReceived =
      max txn.ackedReceived entry.receivedFrames.toNat := rfl
  have hmine := h.le
  have htheirs := hreport.le
  refine ⟨by rw [hreceived]; omega, fun hsent => ?_⟩
  have hlt : txn.ackedReceived < framed.length := h.lt hsent
  rw [hreceived]
  by_contra hreached
  have hwhole := hreport.whole (by omega)
  -- a report of the whole would have completed the copy
  have hmerged : entry.highestContiguousSeq.toNat ≤ txn.merged entry := by
    unfold merged
    split
    · exact Nat.le_refl _
    · exact Nat.le_max_right _ _
  have hcontiguous : (txn.acked entry now).ackedContiguous =
      some (min (txn.merged entry) (txn.frameCount - 1)) := rfl
  refine Bool.eq_false_iff.1 hopen ?_
  rw [isFullyAcked, hsent, Bool.true_and, hholds.acked.frameCount, ← hwhole]
  dsimp only
  rw [hcontiguous, hreceived, hholds.frameCount, Bool.and_eq_true, decide_eq_true_eq,
    decide_eq_true_eq, Option.some.injEq]
  omega

/-- A report that lags itself completes nothing. -/
theorem Lags.acked_of_lt (h : txn.Lags framed)
    (hle : entry.receivedFrames.toNat ≤ framed.length)
    (hlt : txn.isFullySent = true → entry.receivedFrames.toNat < framed.length) :
    (txn.acked entry now).Lags framed := by
  have hreceived : (txn.acked entry now).ackedReceived =
      max txn.ackedReceived entry.receivedFrames.toNat := rfl
  have hmine := h.le
  refine ⟨by rw [hreceived]; omega, fun hsent => ?_⟩
  have hsent' : txn.isFullySent = true := hsent
  have hmine := h.lt hsent'
  have htheirs := hlt hsent'
  rw [hreceived]
  omega

end PendingTxn

end Reliability

end Xacpp
