import Xacpp.Reliability.Model.Sender
/-!
# Framing

What the framing loop and the operations built on it do to one held copy.
Every one of them extends the copy by a list of payloads
(`PendingTxn.extend`); `frameLoop_eq` says which: the full working frames
of the tail buffer, in order. `appendChunk_ok`, `finishTransaction_some`
and `beginTransaction_ok` are the equations the rest of the development
reads the framing operations through.
-/

namespace Xacpp

namespace Reliability

/-- The working frame of a payload: the `i`-th frame of its transaction. -/
def dataFrame (transactionId : TxId) (totalLen : UInt32) (i : ℕ) (payload : Bytes) : Frame where
  frameType := .dataBinary
  transactionId := transactionId
  totalLen := totalLen
  seq := UInt32.ofNat i
  payload := payload

@[simp] theorem dataFrame_transactionId (id : TxId) (total : UInt32) (i : ℕ) (p : Bytes) :
    (dataFrame id total i p).transactionId = id := rfl

@[simp] theorem dataFrame_payload (id : TxId) (total : UInt32) (i : ℕ) (p : Bytes) :
    (dataFrame id total i p).payload = p := rfl

/-- The working frames of a list of payloads, numbered from `start`. -/
def framesFrom (transactionId : TxId) (totalLen : UInt32) (start : ℕ) (payloads : List Bytes) :
    List Frame :=
  payloads.mapIdx fun i p => dataFrame transactionId totalLen (start + i) p

variable {id : TxId} {total : UInt32} {start now : ℕ} {ps qs : List Bytes}

@[simp] theorem framesFrom_nil : framesFrom id total start [] = [] := rfl

theorem framesFrom_cons (p : Bytes) :
    framesFrom id total start (p :: ps) =
      dataFrame id total start p :: framesFrom id total (start + 1) ps := by
  simp only [framesFrom, List.mapIdx_cons, Nat.add_zero]
  congr 2
  funext i p
  rw [Nat.add_assoc, Nat.add_comm 1]

theorem framesFrom_append :
    framesFrom id total start (ps ++ qs) =
      framesFrom id total start ps ++ framesFrom id total (start + ps.length) qs := by
  simp only [framesFrom, List.mapIdx_append]
  congr 2
  funext i p
  rw [Nat.add_comm i, Nat.add_assoc]

@[simp] theorem length_framesFrom : (framesFrom id total start ps).length = ps.length :=
  List.length_mapIdx

theorem getElem?_framesFrom (i : ℕ) :
    (framesFrom id total start ps)[i]? = ps[i]?.map (dataFrame id total (start + i)) :=
  List.getElem?_mapIdx

theorem mem_framesFrom {f : Frame} (h : f ∈ framesFrom id total start ps) :
    ∃ i p, ps[i]? = some p ∧ f = dataFrame id total (start + i) p := by
  obtain ⟨i, hi, hf⟩ := List.mem_mapIdx.1 h
  exact ⟨i, ps[i], List.getElem?_eq_getElem hi, hf.symm⟩

theorem map_payload_framesFrom : (framesFrom id total start ps).map Frame.payload = ps := by
  induction ps generalizing start with
  | nil => rfl
  | cons p ps ih => rw [framesFrom_cons, List.map_cons, ih, dataFrame_payload]

namespace PendingTxn

/-- A copy after payloads were moved out of its tail buffer into working
frames; `rest` is what stays in the buffer. -/
def extend (txn : PendingTxn) (transactionId : TxId) (payloads : List Bytes) (rest : Bytes)
    (now : ℕ) : PendingTxn :=
  { txn with
    partialBytes := rest
    frames := txn.frames ++
      (framesFrom transactionId txn.totalLen txn.frames.length payloads).map some
    states := txn.states ++
      List.replicate payloads.length { confirmed := false, lastSentMs := now, attempts := 0 } }

variable (txn : PendingTxn)

@[simp] theorem extend_partialBytes (rest : Bytes) :
    (txn.extend id ps rest now).partialBytes = rest := rfl

@[simp] theorem extend_totalLen (rest : Bytes) :
    (txn.extend id ps rest now).totalLen = txn.totalLen := rfl

@[simp] theorem extend_written : (txn.extend id ps rest now).written = txn.written := rfl

@[simp] theorem taken_totalLen (chunk : Bytes) : (txn.taken chunk).totalLen = txn.totalLen := rfl

@[simp] theorem taken_written (chunk : Bytes) :
    (txn.taken chunk).written = txn.written + chunk.length := rfl

@[simp] theorem length_frames_extend (rest : Bytes) :
    (txn.extend id ps rest now).frames.length = txn.frames.length + ps.length := by
  simp [extend]

@[simp] theorem taken_nil : txn.taken [] = txn := by
  simp [taken]

theorem extend_nil : txn.extend id [] txn.partialBytes now = txn := by
  simp [extend]

theorem extend_cons (p rest : Bytes) (rest' : Bytes) :
    (txn.extend id [p] rest' now).extend id ps rest now = txn.extend id (p :: ps) rest now := by
  simp [extend, framesFrom_cons, List.replicate_succ]

theorem pushFrame_eq (p rest : Bytes) :
    txn.pushFrame id p rest now =
      (txn.extend id [p] rest now, dataFrame id txn.totalLen txn.frames.length p) := rfl

/-- **The framing loop cuts the full working frames** off the tail buffer
and leaves the remainder in it. -/
theorem frameLoop_eq {frameSize fuel : ℕ} (hpos : 0 < frameSize)
    (hfuel : txn.partialBytes.length ≤ fuel) (out : List Frame) :
    txn.frameLoop frameSize id now fuel out =
      (txn.extend id (chunksExact frameSize txn.partialBytes)
          (chunksRest frameSize txn.partialBytes) now,
        out ++ framesFrom id txn.totalLen txn.frames.length
          (chunksExact frameSize txn.partialBytes)) := by
  -- the fuel falls by one where the buffer falls by a whole frame
  induction fuel generalizing txn out with
  | zero =>
    have hlt : txn.partialBytes.length < frameSize := by omega
    rw [frameLoop, chunksExact_of_lt hlt, chunksRest_of_lt hlt, extend_nil, framesFrom_nil,
      List.append_nil]
  | succ fuel ih =>
    rw [frameLoop]
    split
    · next hle =>
      rw [pushFrame_eq, chunksExact_of_le hpos hle, chunksRest_of_le hpos hle, framesFrom_cons]
      dsimp only
      rw [ih _ (by rw [extend_partialBytes, List.length_drop]; omega)]
      simp only [extend_partialBytes, extend_totalLen, length_frames_extend, extend_cons,
        List.length_singleton, List.append_assoc, List.singleton_append]
    · next hlt =>
      rw [chunksExact_of_lt (by omega), chunksRest_of_lt (by omega), extend_nil, framesFrom_nil,
        List.append_nil]

end PendingTxn

/-- The tail frame's payload, where there is one. -/
def tailOf (rest : Bytes) : List Bytes := if rest.isEmpty then [] else [rest]

@[simp] theorem flatten_tailOf (rest : Bytes) : (tailOf rest).flatten = rest := by
  unfold tailOf
  split
  · next h => rw [List.isEmpty_iff.1 h, List.flatten_nil]
  · rw [List.flatten_singleton]

theorem ne_nil_of_mem_tailOf {rest p : Bytes} (h : p ∈ tailOf rest) : p ≠ [] := by
  unfold tailOf at h
  split at h
  · exact absurd h List.not_mem_nil
  · next hne =>
    rw [List.mem_singleton.1 h]
    exact fun hnil => hne (List.isEmpty_iff.2 hnil)

theorem ne_nil_of_mem_chunksExact {n : ℕ} (hn : 0 < n) {l p : Bytes} (h : p ∈ chunksExact n l) :
    p ≠ [] :=
  List.ne_nil_of_length_pos (by rw [length_of_mem_chunksExact h]; exact hn)

/-- Payloads with bytes in them are no more than the bytes. -/
theorem length_le_length_flatten {l : List Bytes} (h : ∀ p ∈ l, p ≠ []) :
    l.length ≤ l.flatten.length := by
  induction l with
  | nil => exact Nat.le_refl _
  | cons p l ih =>
    have hp := List.length_pos_iff.2 (h p (List.mem_cons_self ..))
    have hl := ih fun q hq => h q (List.mem_cons_of_mem _ hq)
    rw [List.length_cons, List.flatten_cons, List.length_append]
    omega

namespace TransactionSender

variable {s s' : TransactionSender} {txn : PendingTxn} {out : List Frame} {chunk payload : Bytes}

@[simp] theorem withPending_pending (t : Table TxId PendingTxn) :
    (s.withPending t).pending = t := rfl

@[simp] theorem withPending_config (t : Table TxId PendingTxn) :
    (s.withPending t).config = s.config := rfl

@[simp] theorem get?_withPending_insert :
    (s.withPending (s.pending.insert id txn)).pending.get? id = some txn :=
  Table.get?_insert_self _ _ _

@[simp] theorem get?_withPending_erase :
    (s.withPending (s.pending.erase id)).pending.get? id = none :=
  Table.get?_erase_self _ _

/-- An accepted open stores a copy with nothing in it. -/
theorem openTransaction_ok (h : s.openTransaction id total now = (.ok (), s')) :
    s.pending.get? id = none ∧ total ≠ 0 ∧ ∃ txn, s' = s.withPending (s.pending.insert id txn) ∧
      txn.totalLen = total ∧ txn.frames = [] ∧ txn.states = [] ∧ txn.partialBytes = [] ∧
      txn.written = 0 ∧ txn.paused = false ∧ txn.awaitingResume = false ∧ txn.declaredMs = none ∧
      txn.ackedContiguous = none := by
  unfold openTransaction at h
  split at h
  · cases h
  · next hnew =>
    split at h
    · cases h
    · next hpos =>
      cases h
      refine ⟨?_, hpos, _, rfl, rfl, rfl, rfl, rfl, rfl, rfl, rfl, rfl, rfl⟩
      exact Option.not_isSome_iff_eq_none.1 hnew

/-- **An accepted append** takes the bytes and frames what is full. -/
theorem appendChunk_ok (h : s.appendChunk id chunk now = (.ok out, s')) :
    ∃ txn, s.pending.get? id = some txn ∧ txn.written + chunk.length ≤ txn.totalLen.toNat ∧
      out = framesFrom id txn.totalLen txn.frames.length
        (chunksExact s.config.frameSize (txn.partialBytes ++ chunk)) ∧
      s' = s.withPending (s.pending.insert id ((txn.taken chunk).extend id
        (chunksExact s.config.frameSize (txn.partialBytes ++ chunk))
        (chunksRest s.config.frameSize (txn.partialBytes ++ chunk)) now)) := by
  unfold appendChunk at h
  split at h
  · cases h
  · next txn hget =>
    split at h
    · cases h
    · split at h
      · cases h
      · next hroom =>
        dsimp only at h
        rw [(txn.taken chunk).frameLoop_eq s.frameSize_pos (Nat.le_refl _)] at h
        simp only [List.nil_append, Prod.mk.injEq, Except.ok.injEq] at h
        exact ⟨txn, hget, by omega, h.1.symm, h.2.symm⟩

theorem appendChunk_error {e : BeginError} (h : s.appendChunk id chunk now = (.error e, s')) :
    s' = s := by
  unfold appendChunk at h
  split at h
  · cases h; rfl
  · split at h
    · cases h; rfl
    · split at h
      · cases h; rfl
      · cases h

/-- **Finishing flushes the tail**, and then checks the declared total. -/
theorem finishTransaction_some (h : s.pending.get? id = some txn) :
    s.finishTransaction id now =
      (if txn.written ≠ txn.totalLen.toNat then
          .error (.incompletePayload txn.written txn.totalLen)
        else .ok (framesFrom id txn.totalLen txn.frames.length (tailOf txn.partialBytes)),
        s.withPending (s.pending.insert id
          (txn.extend id (tailOf txn.partialBytes) [] now))) := by
  unfold finishTransaction tailOf
  rw [h]
  dsimp only
  cases hp : txn.partialBytes with
  | nil =>
    have hsame : txn.extend id [] [] now = txn := by
      rw [← hp]
      exact txn.extend_nil
    simp only [List.isEmpty_nil, if_true, hsame, framesFrom_nil]
    split <;> rfl
  | cons b bs =>
    simp only [List.isEmpty_cons, Bool.false_eq_true, if_false, PendingTxn.pushFrame_eq,
      framesFrom_cons, framesFrom_nil]
    split <;> rfl

theorem finishTransaction_none (h : s.pending.get? id = none) :
    s.finishTransaction id now = (.error .unknownTransaction, s) := by
  unfold finishTransaction
  rw [h]

/-- **A finish that succeeds** returns the frames of the tail. -/
theorem finishTransaction_ok {tail : List Frame}
    (h : s.finishTransaction id now = (.ok tail, s')) :
    ∃ txn, s.pending.get? id = some txn ∧
      tail = framesFrom id txn.totalLen txn.frames.length (tailOf txn.partialBytes) ∧
      s' = s.withPending (s.pending.insert id
        (txn.extend id (tailOf txn.partialBytes) [] now)) := by
  cases hget : s.pending.get? id with
  | none =>
    rw [finishTransaction_none hget] at h
    cases h
  | some txn =>
    rw [finishTransaction_some hget, Prod.mk.injEq] at h
    obtain ⟨htail, hs'⟩ := h
    split at htail
    · cases htail
    · cases htail
      exact ⟨txn, rfl, rfl, hs'.symm⟩

/-- The payloads a whole payload is split into. -/
def splitPayload (frameSize : ℕ) (payload : Bytes) : List Bytes :=
  chunksExact frameSize payload ++ tailOf (chunksRest frameSize payload)

@[simp] theorem flatten_splitPayload (n : ℕ) (payload : Bytes) :
    (splitPayload n payload).flatten = payload := by
  rw [splitPayload, List.flatten_append, flatten_tailOf, flatten_chunksExact]

theorem ne_nil_of_mem_splitPayload {n : ℕ} (hn : 0 < n) {p : Bytes}
    (h : p ∈ splitPayload n payload) :
    p ≠ [] := by
  rcases List.mem_append.1 h with h | h
  · exact ne_nil_of_mem_chunksExact hn h
  · exact ne_nil_of_mem_tailOf h

/-- **What an accepted whole payload is framed as.** -/
theorem beginTransaction_ok (h : s.beginTransaction id payload now = (.ok out, s')) :
    payload ≠ [] ∧ (UInt32.ofNat payload.length).toNat = payload.length ∧
      out = framesFrom id (UInt32.ofNat payload.length) 0
        (splitPayload s.config.frameSize payload) := by
  unfold beginTransaction at h
  split at h
  · cases h
  · split at h
    · cases h
    · next s₁ hopen =>
      obtain ⟨-, hpos, txn, rfl, htotal, hframes, -, hpart, hwritten, -⟩ := openTransaction_ok hopen
      split at h
      · cases h
      · next frames s₂ happend =>
        obtain ⟨txn₁, hget, hroom, rfl, rfl⟩ := appendChunk_ok happend
        rw [withPending_pending, Table.get?_insert_self, Option.some.injEq] at hget
        subst hget
        rw [finishTransaction_some (Table.get?_insert_self _ _ _)] at h
        split at h
        · cases h
        · next tail s₃ hfinish =>
          simp only [Prod.mk.injEq] at hfinish h
          obtain ⟨htail, rfl⟩ := hfinish
          split at htail
          · cases htail
          · next hfull =>
            rw [Except.ok.injEq] at htail
            simp only [PendingTxn.extend, PendingTxn.taken, hwritten, htotal, Nat.zero_add,
              not_not] at hfull
            refine ⟨?_, hfull.symm, ?_⟩
            · rintro rfl
              exact hpos rfl
            · rw [← Except.ok.inj h.1, ← htail, splitPayload, framesFrom_append]
              simp only [hframes, htotal, hpart, List.nil_append, List.length_nil, Nat.zero_add,
                PendingTxn.extend_totalLen, PendingTxn.extend_partialBytes,
                PendingTxn.length_frames_extend, PendingTxn.taken, withPending_config]

end TransactionSender

end Reliability

end Xacpp
