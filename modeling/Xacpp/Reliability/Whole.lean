import Xacpp.Reliability.Framing
/-!
# Whole payloads

`begin_transaction` composed out: which check fails first, and what an
accepted payload leaves (`beginTransaction_eq`). The length is cast to
`u32` before the slot is opened, so a payload of `2 ^ 32` bytes or more is
measured against another length. It is refused after its slot was opened,
or as an empty one, and never as too large (`beginContract_iff`).
-/

namespace Xacpp

namespace Reliability

variable {id : TxId} {total : UInt32} {now : ℕ} {payload : Bytes}

namespace PendingTxn

variable {txn : PendingTxn}

/-- A copy just opened. -/
def opened (totalLen : UInt32) (now : ℕ) : PendingTxn where
  totalLen := totalLen
  frames := []
  states := []
  partialBytes := []
  written := 0
  bytes := 0
  paused := false
  awaitingResume := false
  declaredMs := none
  ackedContiguous := none
  ackedReceived := 0
  lastProgressMs := now

@[simp] theorem opened_totalLen : (opened total now).totalLen = total := rfl

@[simp] theorem opened_frames : (opened total now).frames = [] := rfl

@[simp] theorem opened_partialBytes : (opened total now).partialBytes = [] := rfl

@[simp] theorem opened_written : (opened total now).written = 0 := rfl

@[simp] theorem taken_frames (chunk : Bytes) : (txn.taken chunk).frames = txn.frames := rfl

theorem extend_extend {ps qs : List Bytes} {rest rest' : Bytes} :
    (txn.extend id ps rest' now).extend id qs rest now = txn.extend id (ps ++ qs) rest now := by
  simp only [extend, framesFrom_append, List.map_append, List.append_assoc, List.length_append,
    List.length_map, length_framesFrom, List.replicate_append_replicate]

end PendingTxn

namespace TransactionSender

variable {s : TransactionSender}

/-! ## Held bytes -/

theorem unackedBytes_insert (s : TransactionSender) (id : TxId) (txn : PendingTxn) :
    (s.withPending (s.pending.insert id txn)).unackedBytes =
      txn.bytes + (s.withPending (s.pending.erase id)).unackedBytes :=
  Table.sum_values_insert PendingTxn.bytes s.pending id txn

theorem unackedBytes_eq (s : TransactionSender) (id : TxId) :
    s.unackedBytes = ((s.pending.get? id).map PendingTxn.bytes).getD 0 +
      (s.withPending (s.pending.erase id)).unackedBytes :=
  Table.sum_values PendingTxn.bytes s.pending id

/-- A copy just opened holds no bytes. -/
theorem unackedBytes_opened (h : s.pending.get? id = none) :
    (s.withPending (s.pending.insert id (.opened total now))).unackedBytes = s.unackedBytes := by
  rw [unackedBytes_insert, s.unackedBytes_eq id, h]
  rfl

/-! ## Opening, appending, finishing -/

theorem openTransaction_eq (s : TransactionSender) (id : TxId) (total : UInt32) (now : ℕ) :
    s.openTransaction id total now =
      if s.containsTransaction id then (.error .duplicateTransaction, s)
      else if total = 0 then (.error .emptyPayload, s)
      else (.ok (), s.withPending (s.pending.insert id (.opened total now))) := rfl

theorem appendChunk_some {txn : PendingTxn} (h : s.pending.get? id = some txn) (chunk : Bytes)
    (now : ℕ) :
    s.appendChunk id chunk now =
      if s.unackedBytes + chunk.length > s.config.backpressureCapBytes then
        (.error (.backpressured s.unackedBytes chunk.length s.config.backpressureCapBytes), s)
      else if txn.written + chunk.length > txn.totalLen.toNat then
        (.error (.totalLenExceeded txn.totalLen), s)
      else
        (.ok (framesFrom id txn.totalLen txn.frames.length
            (chunksExact s.config.frameSize (txn.partialBytes ++ chunk))),
          s.withPending (s.pending.insert id ((txn.taken chunk).extend id
            (chunksExact s.config.frameSize (txn.partialBytes ++ chunk))
            (chunksRest s.config.frameSize (txn.partialBytes ++ chunk)) now))) := by
  unfold appendChunk
  rw [h]
  dsimp only
  rw [(txn.taken chunk).frameLoop_eq s.frameSize_pos (Nat.le_refl _), List.nil_append]
  rfl

/-- The copy of a payload accepted whole. -/
def wholeCopy (s : TransactionSender) (id : TxId) (payload : Bytes) (now : ℕ) : PendingTxn :=
  ((PendingTxn.opened (UInt32.ofNat payload.length) now).taken payload).extend id
    (splitPayload s.config.frameSize payload) [] now

theorem withPending_insert_insert (txn txn' : PendingTxn) :
    (s.withPending (s.pending.insert id txn)).withPending
        ((s.withPending (s.pending.insert id txn)).pending.insert id txn') =
      s.withPending (s.pending.insert id txn') := by
  simp only [withPending, TransactionSender.mk.injEq, true_and]
  exact AList.insert_insert s.pending

/-- **A whole payload**: which check fails first, and what an accepted one
leaves. -/
theorem beginTransaction_eq (s : TransactionSender) (id : TxId) (payload : Bytes) (now : ℕ) :
    s.beginTransaction id payload now =
      if s.unackedBytes + payload.length > s.config.backpressureCapBytes then
        (.error (.backpressured s.unackedBytes payload.length s.config.backpressureCapBytes), s)
      else if s.containsTransaction id then (.error .duplicateTransaction, s)
      else if UInt32.ofNat payload.length = 0 then (.error .emptyPayload, s)
      else if payload.length > (UInt32.ofNat payload.length).toNat then
        (.error (.totalLenExceeded (UInt32.ofNat payload.length)), s.withPending
          (s.pending.insert id (.opened (UInt32.ofNat payload.length) now)))
      else
        (.ok (framesFrom id (UInt32.ofNat payload.length) 0
            (splitPayload s.config.frameSize payload)),
          s.withPending (s.pending.insert id (s.wholeCopy id payload now))) := by
  unfold beginTransaction
  split
  · rfl
  · next hroom =>
    rw [openTransaction_eq]
    by_cases hdup : s.containsTransaction id = true
    · simp only [hdup, if_true]
    · have hnew : s.pending.get? id = none := Option.not_isSome_iff_eq_none.1 hdup
      rw [if_neg hdup, if_neg hdup]
      by_cases hzero : UInt32.ofNat payload.length = 0
      · simp only [hzero, if_true]
      · rw [if_neg hzero, if_neg hzero]
        dsimp only
        rw [appendChunk_some get?_withPending_insert, unackedBytes_opened hnew,
          withPending_config, if_neg hroom, PendingTxn.opened_written, PendingTxn.opened_totalLen,
          Nat.zero_add]
        by_cases hbig : payload.length > (UInt32.ofNat payload.length).toNat
        · rw [if_pos hbig, if_pos hbig]
        · -- nothing was lost in the cast, so the declared total is the length
          have hlen : payload.length = (UInt32.ofNat payload.length).toNat := by
            have hle : (UInt32.ofNat payload.length).toNat ≤ payload.length := by
              rw [UInt32.toNat_ofNat']
              exact Nat.mod_le _ _
            omega
          rw [if_neg hbig, if_neg hbig, withPending_insert_insert]
          dsimp only
          rw [finishTransaction_some get?_withPending_insert, if_neg (by simp [← hlen]),
            withPending_insert_insert, PendingTxn.extend_extend]
          simp only [PendingTxn.extend_totalLen, PendingTxn.taken_totalLen,
            PendingTxn.opened_totalLen, PendingTxn.length_frames_extend, PendingTxn.taken_frames,
            PendingTxn.opened_frames, PendingTxn.opened_partialBytes, List.length_nil,
            PendingTxn.extend_partialBytes, List.nil_append, ← framesFrom_append]
          rfl

/-! ## What the call promises -/

/-- `u32::MAX`. -/
def maxTotalLen : ℕ := 4294967295

/-- What a caller may expect of one `begin_transaction` call. -/
structure BeginContract (s : TransactionSender) (id : TxId) (payload : Bytes) (now : ℕ) :
    Prop where
  accepted : (∃ out, (s.beginTransaction id payload now).1 = .ok out) ↔
    s.containsTransaction id = false ∧ payload ≠ [] ∧ payload.length ≤ maxTotalLen ∧
      s.unackedBytes + payload.length ≤ s.config.backpressureCapBytes
  tooLarge : maxTotalLen < payload.length →
    ∃ len max, (s.beginTransaction id payload now).1 = .error (.payloadTooLarge len max)
  unchanged : ∀ e, (s.beginTransaction id payload now).1 = .error e →
    (s.beginTransaction id payload now).2 = s

/-- The error for it is never returned. -/
theorem beginTransaction_ne_payloadTooLarge (len max : ℕ) :
    (s.beginTransaction id payload now).1 ≠ .error (.payloadTooLarge len max) := by
  intro h
  rw [beginTransaction_eq] at h
  split at h
  · cases h
  · split at h
    · cases h
    · split at h
      · cases h
      · split at h
        · cases h
        · cases h

theorem toNat_ofNat_length (h : payload.length ≤ maxTotalLen) :
    (UInt32.ofNat payload.length).toNat = payload.length := by
  rw [UInt32.toNat_ofNat']
  exact Nat.mod_eq_of_lt (Nat.lt_succ_of_le h)

theorem ofNat_length_eq_zero_iff (h : payload.length ≤ maxTotalLen) :
    UInt32.ofNat payload.length = 0 ↔ payload = [] := by
  rw [← UInt32.toNat_inj, toNat_ofNat_length h]
  exact List.length_eq_zero_iff

/-- Below the cast's range the four checks are the ones the caller sees. -/
theorem beginTransaction_of_le (h : payload.length ≤ maxTotalLen) :
    s.beginTransaction id payload now =
      if s.unackedBytes + payload.length > s.config.backpressureCapBytes then
        (.error (.backpressured s.unackedBytes payload.length s.config.backpressureCapBytes), s)
      else if s.containsTransaction id then (.error .duplicateTransaction, s)
      else if payload = [] then (.error .emptyPayload, s)
      else
        (.ok (framesFrom id (UInt32.ofNat payload.length) 0
            (splitPayload s.config.frameSize payload)),
          s.withPending (s.pending.insert id (s.wholeCopy id payload now))) := by
  have hfits : ¬ payload.length > (UInt32.ofNat payload.length).toNat := by
    rw [toNat_ofNat_length h]
    exact Nat.lt_irrefl _
  rw [beginTransaction_eq, if_neg hfits]
  simp only [ofNat_length_eq_zero_iff h]

/-- **The contract is kept exactly below `2 ^ 32` bytes.** -/
theorem beginContract_iff (s : TransactionSender) (id : TxId) (payload : Bytes) (now : ℕ) :
    s.BeginContract id payload now ↔ payload.length ≤ maxTotalLen := by
  constructor
  · intro h
    by_contra hbig
    obtain ⟨len, max, herr⟩ := h.tooLarge (Nat.lt_of_not_le hbig)
    exact beginTransaction_ne_payloadTooLarge len max herr
  · intro hle
    refine ⟨?_, fun hbig => absurd hle (Nat.not_le_of_lt hbig), ?_⟩
    · rw [beginTransaction_of_le hle]
      by_cases hroom : s.unackedBytes + payload.length > s.config.backpressureCapBytes
      · rw [if_pos hroom]
        refine ⟨?_, fun h => absurd h.2.2.2 (Nat.not_le_of_lt hroom)⟩
        rintro ⟨out, hout⟩
        cases hout
      · rw [if_neg hroom]
        by_cases hdup : s.containsTransaction id = true
        · rw [if_pos hdup]
          refine ⟨?_, fun h => absurd hdup (by rw [h.1]; decide)⟩
          rintro ⟨out, hout⟩
          cases hout
        · rw [if_neg hdup]
          by_cases hnil : payload = []
          · rw [if_pos hnil]
            refine ⟨?_, fun h => absurd hnil h.2.1⟩
            rintro ⟨out, hout⟩
            cases hout
          · rw [if_neg hnil]
            exact ⟨fun _ => ⟨Bool.eq_false_iff.2 hdup, hnil, hle, Nat.le_of_not_lt hroom⟩,
              fun _ => ⟨_, rfl⟩⟩
    · intro e he
      rw [beginTransaction_of_le hle] at he ⊢
      split
      · rfl
      · next hroom =>
        rw [if_neg hroom] at he
        split
        · rfl
        · next hdup =>
          rw [if_neg hdup] at he
          split
          · rfl
          · next hnil =>
            rw [if_neg hnil] at he
            cases he

theorem beginContract_iff_sample :
    (new {}).BeginContract zeroId [1, 2, 3] 0 ∧
      ((new {}).beginTransaction zeroId [1, 2, 3] 0).1 =
        .ok [dataFrame zeroId 3 0 [1, 2, 3]] :=
  ⟨(beginContract_iff (new {}) zeroId [1, 2, 3] 0).2 (by decide), by decide⟩

/-- With a cap that allows it, a payload of `2 ^ 32 + 1` bytes is measured
against one byte and refused, and its slot stays open. -/
theorem refused_with_slot_open :
    let s := new { backpressureCapBytes := 2 ^ 33 }
    let payload : Bytes := List.replicate (2 ^ 32 + 1) 0
    (s.beginTransaction zeroId payload 0).1 = .error (.totalLenExceeded 1) ∧
      (s.beginTransaction zeroId payload 0).2.containsTransaction zeroId = true ∧
      s.containsTransaction zeroId = false ∧ ¬ s.BeginContract zeroId payload 0 := by
  intro s payload
  have hlen : payload.length = 2 ^ 32 + 1 := List.length_replicate
  have hcast : UInt32.ofNat payload.length = 1 := by
    rw [hlen]
    decide
  have hbegin := s.beginTransaction_eq zeroId payload 0
  have hroom : ¬ s.unackedBytes + payload.length > s.config.backpressureCapBytes := by
    rw [hlen]
    decide
  rw [if_neg hroom, hcast, if_neg (by decide), if_neg (by decide),
    if_pos (by rw [hlen]; decide)] at hbegin
  refine ⟨by rw [hbegin], by rw [hbegin]; decide, by decide, ?_⟩
  intro hcontract
  obtain ⟨len, max, herr⟩ := hcontract.tooLarge (by rw [hlen]; decide)
  exact beginTransaction_ne_payloadTooLarge len max herr

end TransactionSender

end Reliability

end Xacpp
