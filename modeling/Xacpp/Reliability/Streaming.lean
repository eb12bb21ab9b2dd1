import Xacpp.Reliability.Holding
/-!
# Streaming a payload

A payload appended in chunks and then finished, with any other calls in
between. What is in the buffer and how many frames there are depends only
on the bytes appended so far (`PendingTxn.Streams`), so every way of
cutting the payload gives the frames `begin_transaction` gives
(`streamed_eq_whole`).

Finishing short is where the two differ from what a caller expects: the
buffer is framed before the total is checked, and stays framed
(`finish_unchanged_iff`).
-/

namespace Xacpp

namespace Reliability

variable {id : TxId} {total : UInt32} {now : ℕ} {s : TransactionSender}

/-! ## The frames of a payload -/

section Split

open TransactionSender

variable {n : ℕ} {p q : Bytes}

theorem splitPayload_of_lt (h : p.length < n) : splitPayload n p = tailOf p := by
  rw [splitPayload, chunksExact_of_lt h, chunksRest_of_lt h, List.nil_append]

theorem splitPayload_of_le (hn : 0 < n) (h : n ≤ p.length) :
    splitPayload n p = p.take n :: splitPayload n (p.drop n) := by
  rw [splitPayload, chunksExact_of_le hn h, chunksRest_of_le hn h, List.cons_append, splitPayload]

/-- **As many frames as the size asks for**: no empty tail. -/
theorem length_splitPayload (hn : 0 < n) (p : Bytes) :
    (splitPayload n p).length = (p.length + (n - 1)) / n := by
  induction p using chunks_induct hn with
  | hshort p hlt =>
    rw [splitPayload_of_lt hlt, tailOf]
    split
    · next hnil =>
      rw [List.isEmpty_iff.1 hnil]
      exact (Nat.div_eq_of_lt (by rw [List.length_nil]; omega)).symm
    · next hne =>
      have hpos : 0 < p.length := List.length_pos_iff.2 fun hnil => hne (List.isEmpty_iff.2 hnil)
      have hsplit : p.length + (n - 1) = p.length - 1 + n := by omega
      rw [hsplit, Nat.add_div_right _ hn, Nat.div_eq_of_lt (by omega), List.length_singleton]
  | hcut p hle ih =>
    have hsplit : p.length + (n - 1) = (p.drop n).length + (n - 1) + n := by
      rw [List.length_drop]
      omega
    rw [splitPayload_of_le hn hle, List.length_cons, ih, hsplit, Nat.add_div_right _ hn]

/-- **The blocks are consecutive.** -/
theorem eq_of_getElem?_splitPayload (hn : 0 < n) {i : ℕ} (h : (splitPayload n p)[i]? = some q) :
    q = (p.drop (i * n)).take n := by
  induction p using chunks_induct hn generalizing i with
  | hshort p hlt =>
    rw [splitPayload_of_lt hlt, tailOf] at h
    split at h
    · cases h
    · cases i with
      | zero =>
        cases h
        rw [Nat.zero_mul, List.drop_zero, List.take_of_length_le hlt.le]
      | succ i => cases h
  | hcut p hle ih =>
    rw [splitPayload_of_le hn hle] at h
    cases i with
    | zero =>
      cases h
      rw [Nat.zero_mul, List.drop_zero]
    | succ i =>
      rw [List.getElem?_cons_succ] at h
      rw [ih h, List.drop_drop, Nat.succ_mul, Nat.add_comm]

end Split

namespace PendingTxn

variable {txn txn' : PendingTxn} {n : ℕ} {acc chunk : Bytes}

/-- The copy of a payload of which `acc` has been appended. -/
structure Streams (txn : PendingTxn) (n : ℕ) (total : UInt32) (acc : Bytes) : Prop where
  totalLen : txn.totalLen = total
  frames_length : txn.frames.length = (chunksExact n acc).length
  partialBytes : txn.partialBytes = chunksRest n acc
  written : txn.written = acc.length

theorem Streams.opened (hn : 0 < n) (total : UInt32) (now : ℕ) :
    (opened total now).Streams n total [] where
  totalLen := rfl
  frames_length := by rw [chunksExact_of_lt hn]; rfl
  partialBytes := by rw [chunksRest_of_lt hn]; rfl
  written := rfl

theorem Streams.append (hn : 0 < n) (h : txn.Streams n total acc) :
    ((txn.taken chunk).extend id (chunksExact n (txn.partialBytes ++ chunk))
      (chunksRest n (txn.partialBytes ++ chunk)) now).Streams n total (acc ++ chunk) where
  totalLen := h.totalLen
  frames_length := by
    rw [length_frames_extend, taken_frames, h.frames_length, h.partialBytes,
      chunksExact_append hn acc, List.length_append]
  partialBytes := by rw [extend_partialBytes, h.partialBytes, ← chunksRest_append hn]
  written := by rw [extend_written, taken_written, h.written, List.length_append]

/-- A call that frames nothing of the transaction leaves it where it is. -/
theorem Streams.change {c : SenderCall} {old : Option PendingTxn}
    (hold : ∀ txn, old = some txn → txn.Streams n total acc)
    (hchange : Change id c old (some txn')) (hc : c.frames id = false) :
    txn'.Streams n total acc := by
  generalize hnew : some txn' = copy at hchange
  cases hchange with
  | absent | released => cases hnew
  | rests hsteady hflags =>
    cases hnew
    have h := hold _ rfl
    exact ⟨hsteady.totalLen.trans h.totalLen, by rw [hsteady.frames, h.frames_length],
      hsteady.partialBytes.trans h.partialBytes, hsteady.written.trans h.written⟩
  | acked entry now =>
    cases hnew
    have h := hold _ rfl
    refine ⟨h.totalLen, ?_, h.partialBytes, h.written⟩
    simp only [PendingTxn.acked, List.length_mapIdx, h.frames_length]
  | grows hframes =>
    rw [hc] at hframes
    cases hframes

end PendingTxn

/-! ## Runs that stream -/

/-- The call is accepted; only framing calls can be refused. -/
def SenderCall.accepted (s : TransactionSender) (now : ℕ) : SenderCall → Bool
  | openTransaction id total => (s.openTransaction id total now).1.isOk
  | appendChunk id chunk => (s.appendChunk id chunk now).1.isOk
  | finishTransaction id => (s.finishTransaction id now).1.isOk
  | beginTransaction id payload => (s.beginTransaction id payload now).1.isOk
  | setPaused .. | abortTransaction _ | handleAck _ | handleNack .. | dueRetransmissions
  | declarePending | timedOutDeclarations _ | applyResumeVerdicts _ => true

namespace TransactionSender

open PendingTxn

variable {as : List (SenderCall × ℕ)} {chunks : List Bytes} {acc : Bytes} {n : ℕ}

/-- Every call that frames the transaction is accepted. -/
def Accepts (id : TxId) (s : TransactionSender) (a : SenderCall × ℕ) : Prop :=
  a.1.frames id = true → a.1.accepted s a.2 = true

instance decidableAccepts (id : TxId) (s : TransactionSender) (a : SenderCall × ℕ) :
    Decidable (Accepts id s a) :=
  inferInstanceAs (Decidable (_ → _))

/-- What the calls that frame the transaction return. -/
def framed (id : TxId) (s : TransactionSender) (a : SenderCall × ℕ) : List Frame :=
  if a.1.frames id then (a.1.apply s a.2).1 else []

/-- The calls of a list that frame the transaction. -/
def framingCalls (id : TxId) (as : List (SenderCall × ℕ)) : List SenderCall :=
  (as.map Prod.fst).filter (SenderCall.frames id)

theorem framingCalls_cons_of_true {a : SenderCall × ℕ} (ha : a.1.frames id = true) :
    framingCalls id (a :: as) = a.1 :: framingCalls id as := by
  rw [framingCalls, List.map_cons, List.filter_cons_of_pos ha, framingCalls]

theorem framingCalls_cons_of_false {a : SenderCall × ℕ} (ha : a.1.frames id = false) :
    framingCalls id (a :: as) = framingCalls id as := by
  rw [framingCalls, List.map_cons, List.filter_cons_of_neg (Bool.eq_false_iff.1 ha), framingCalls]

theorem outputs_framed_cons (a : SenderCall × ℕ) :
    outputs step (framed id) s (a :: as) =
      framed id s a ++ outputs step (framed id) (a.1.apply s a.2).2 as := rfl

/-- Once nothing frames the transaction nothing more comes out. -/
theorem outputs_framed_of_nil (h : framingCalls id as = []) :
    outputs step (framed id) s as = [] := by
  induction as generalizing s with
  | nil => rfl
  | cons a as ih =>
    cases ha : a.1.frames id with
    | true =>
      rw [framingCalls_cons_of_true ha] at h
      cases h
    | false =>
      rw [framingCalls_cons_of_false ha] at h
      rw [outputs_framed_cons, ih h, framed, ha]
      rfl

theorem open_streaming (hn : s.config.frameSize = n)
    (hok : (s.openTransaction id total now).1.isOk = true) :
    total ≠ 0 ∧ ∀ txn, (s.openTransaction id total now).2.pending.get? id = some txn →
      txn.Streams n total [] := by
  rw [openTransaction_eq] at hok ⊢
  by_cases hdup : s.containsTransaction id = true
  · rw [if_pos hdup] at hok
    cases hok
  · rw [if_neg hdup] at hok ⊢
    by_cases hzero : total = 0
    · rw [if_pos hzero] at hok
      cases hok
    · rw [if_neg hzero]
      refine ⟨hzero, fun txn hget => ?_⟩
      rw [get?_withPending_insert, Option.some.injEq] at hget
      exact hget ▸ .opened (hn ▸ s.frameSize_pos) total now

theorem append_streaming {chunk : Bytes} (hn : s.config.frameSize = n)
    (hstreams : ∀ txn, s.pending.get? id = some txn → txn.Streams n total acc)
    (hok : (s.appendChunk id chunk now).1.isOk = true) :
    framesFrom id total 0 (chunksExact n acc) ++ framesOf (s.appendChunk id chunk now).1 =
        framesFrom id total 0 (chunksExact n (acc ++ chunk)) ∧
      ∀ txn, (s.appendChunk id chunk now).2.pending.get? id = some txn →
        txn.Streams n total (acc ++ chunk) := by
  have hpos : 0 < n := hn ▸ s.frameSize_pos
  cases h : s.appendChunk id chunk now with
  | mk res s' =>
    cases res with
    | error e =>
      rw [h] at hok
      cases hok
    | ok out =>
      obtain ⟨txn, hget, -, rfl, rfl⟩ := appendChunk_ok h
      have htxn := hstreams txn hget
      refine ⟨?_, fun txn' hget' => ?_⟩
      · rw [hn, htxn.partialBytes, htxn.totalLen, htxn.frames_length, chunksExact_append hpos acc,
          framesFrom_append, Nat.zero_add]
        rfl
      · rw [get?_withPending_insert, Option.some.injEq, hn] at hget'
        exact hget' ▸ htxn.append hpos

theorem finish_streaming
    (hstreams : ∀ txn, s.pending.get? id = some txn → txn.Streams n total acc)
    (hok : (s.finishTransaction id now).1.isOk = true) :
    framesFrom id total 0 (chunksExact n acc) ++ framesOf (s.finishTransaction id now).1 =
        framesFrom id total 0 (splitPayload n acc) ∧ acc.length = total.toNat := by
  cases hget : s.pending.get? id with
  | none =>
    rw [finishTransaction_none hget] at hok
    cases hok
  | some txn =>
    have htxn := hstreams txn hget
    rw [finishTransaction_some hget] at hok ⊢
    split at hok
    · cases hok
    · next hfull =>
      rw [if_neg hfull, splitPayload, framesFrom_append, ← htxn.partialBytes, ← htxn.frames_length,
        ← htxn.totalLen, ← htxn.written, Nat.zero_add]
      exact ⟨rfl, not_not.1 hfull⟩

/-- **From a copy of which `acc` has been appended**: the frames of the full
chunks so far and those that come out are the frames of the payload. -/
theorem outputs_streaming (hn : s.config.frameSize = n)
    (hstreams : ∀ txn, s.pending.get? id = some txn → txn.Streams n total acc)
    (hcalls : framingCalls id as =
      chunks.map (SenderCall.appendChunk id) ++ [.finishTransaction id])
    (hok : RunMeets step (Accepts id) s as) :
    framesFrom id total 0 (chunksExact n acc) ++ outputs step (framed id) s as =
        framesFrom id total 0 (splitPayload n (acc ++ chunks.flatten)) ∧
      (acc ++ chunks.flatten).length = total.toNat := by
  -- along the calls; `acc` is what the appends seen so far have brought
  induction as generalizing s acc chunks with
  | nil => cases chunks <;> cases hcalls
  | cons a as ih =>
    have hpos : 0 < n := hn ▸ s.frameSize_pos
    have hconfig : (a.1.apply s a.2).2.config.frameSize = n := by rw [config_apply, hn]
    have hrest := hok.2 _ rfl
    cases ha : a.1.frames id with
    | false =>
      rw [framingCalls_cons_of_false ha] at hcalls
      rw [outputs_framed_cons, framed, ha]
      refine ih hconfig (fun txn' hget' => ?_) hcalls hrest
      have hchange := apply_change a.1 s a.2 id
      rw [hget'] at hchange
      exact Streams.change hstreams hchange ha
    | true =>
      rw [framingCalls_cons_of_true ha] at hcalls
      have haccepted := hok.1 ha
      obtain ⟨c, now⟩ := a
      rw [outputs_framed_cons, framed, if_pos ha]
      cases chunks with
      | nil =>
        -- the last framing call: the buffer goes out as the tail
        obtain ⟨rfl, hnil⟩ := List.cons.inj hcalls
        rw [outputs_framed_of_nil hnil, List.append_nil, List.flatten_nil, List.append_nil]
        exact finish_streaming hstreams haccepted
      | cons chunk chunks =>
        obtain ⟨rfl, htail⟩ := List.cons.inj hcalls
        obtain ⟨hout, hstreams'⟩ := append_streaming hn hstreams haccepted
        obtain ⟨hframes, hlen⟩ := ih hconfig hstreams' htail hrest
        rw [List.flatten_cons, ← List.append_assoc acc chunk]
        refine ⟨?_, hlen⟩
        rw [← hframes, ← hout, List.append_assoc]
        rfl

/-- **A whole stream**, from the open on. -/
theorem outputs_stream (hn : s.config.frameSize = n)
    (hcalls : framingCalls id as = .openTransaction id total ::
      (chunks.map (SenderCall.appendChunk id) ++ [.finishTransaction id]))
    (hok : RunMeets step (Accepts id) s as) :
    outputs step (framed id) s as = framesFrom id total 0 (splitPayload n chunks.flatten) ∧
      chunks.flatten.length = total.toNat ∧ total ≠ 0 := by
  induction as generalizing s with
  | nil => cases hcalls
  | cons a as ih =>
    have hconfig : (a.1.apply s a.2).2.config.frameSize = n := by rw [config_apply, hn]
    have hrest := hok.2 _ rfl
    cases ha : a.1.frames id with
    | false =>
      rw [framingCalls_cons_of_false ha] at hcalls
      rw [outputs_framed_cons, framed, ha]
      exact ih hconfig hcalls hrest
    | true =>
      rw [framingCalls_cons_of_true ha] at hcalls
      have haccepted := hok.1 ha
      obtain ⟨c, now⟩ := a
      obtain ⟨rfl, htail⟩ := List.cons.inj hcalls
      obtain ⟨hzero, hcopy⟩ := open_streaming hn haccepted
      obtain ⟨hframes, hlen⟩ := outputs_streaming hconfig hcopy htail hrest
      rw [chunksExact_of_lt (hn ▸ s.frameSize_pos), framesFrom_nil, List.nil_append,
        List.nil_append] at hframes
      rw [outputs_framed_cons, hframes, framed, if_pos ha]
      exact ⟨rfl, hlen, hzero⟩

/-- **Every way of streaming a payload gives the frames of the whole
payload**: whatever the chunks and whatever other calls stand between them,
what the framing calls return is what `begin_transaction` returns wherever
the id is free and the cap allows it, one full block after the other. -/
theorem streamed_eq_whole
    (hcalls : framingCalls id as = .openTransaction id total ::
      (chunks.map (SenderCall.appendChunk id) ++ [.finishTransaction id]))
    (hok : RunMeets step (Accepts id) s as) :
    let p := chunks.flatten
    let n := s.config.frameSize
    let out := outputs step (framed id) s as
    (∀ (s₀ : TransactionSender) (now : ℕ), s₀.config.frameSize = n →
        s₀.containsTransaction id = false →
        s₀.unackedBytes + p.length ≤ s₀.config.backpressureCapBytes →
        (s₀.beginTransaction id p now).1 = .ok out) ∧
      out.length = (p.length + (n - 1)) / n ∧
      ∀ (i : ℕ) (f : Frame), out[i]? = some f →
        f.frameType = .dataBinary ∧ f.transactionId = id ∧ f.seq.toNat = i ∧
          f.totalLen.toNat = p.length ∧ f.payload = (p.drop (i * n)).take n ∧ f.payload ≠ [] := by
  intro p n out
  obtain ⟨hout, hlen, hzero⟩ := outputs_stream rfl hcalls hok
  have hlt : p.length < 2 ^ 32 := hlen ▸ total.toNat_lt
  have hle : p.length ≤ maxTotalLen := Nat.le_of_lt_succ hlt
  have htotal : UInt32.ofNat p.length = total := by
    rw [hlen, UInt32.ofNat_toNat]
  have hne : p ≠ [] := fun hnil => hzero (by
    rw [← htotal, hnil]
    rfl)
  refine ⟨fun s₀ now hsize hfree hroom => ?_, ?_, fun i f hf => ?_⟩
  · rw [beginTransaction_of_le hle, if_neg (Nat.not_lt.2 hroom),
      if_neg (Bool.eq_false_iff.1 hfree), if_neg hne, htotal, hsize]
    exact congrArg Except.ok hout.symm
  · exact (congrArg List.length hout).trans
      (length_framesFrom.trans (length_splitPayload s.frameSize_pos p))
  · have hf' : (framesFrom id total 0 (splitPayload n p))[i]? = some f := hout ▸ hf
    rw [getElem?_framesFrom, Nat.zero_add] at hf'
    obtain ⟨q, hq, rfl⟩ := Option.map_eq_some_iff.1 hf'
    have hcount : i < 2 ^ 32 := by
      -- blocks have bytes in them, so they are no more than the bytes
      have hi : i < (splitPayload n p).length := (List.getElem?_eq_some_iff.1 hq).1
      have hblocks := length_le_length_flatten (l := splitPayload n p)
        fun q => ne_nil_of_mem_splitPayload s.frameSize_pos
      rw [flatten_splitPayload] at hblocks
      omega
    exact ⟨rfl, rfl, UInt32.toNat_ofNat_of_lt' hcount, hlen.symm,
      eq_of_getElem?_splitPayload s.frameSize_pos hq,
      ne_nil_of_mem_splitPayload s.frameSize_pos (List.mem_of_getElem? hq)⟩

namespace Sample

def otherId : TxId := List.Vector.replicate 16 1

/-- Five bytes in three chunks, with calls for another transaction and for
all of them in between. -/
def interleaved : List (SenderCall × ℕ) :=
  [(.openTransaction zeroId 5, 0), (.openTransaction otherId 3, 1),
    (.appendChunk zeroId [1, 2, 3], 2), (.appendChunk otherId [9, 9], 3),
    (.handleAck ⟨zeroId, 0, 1⟩, 4), (.appendChunk zeroId [], 5), (.dueRetransmissions, 6),
    (.appendChunk zeroId [4, 5], 7), (.abortTransaction otherId, 8), (.finishTransaction zeroId, 9)]

end Sample

theorem streamed_eq_whole_sample :
    framingCalls zeroId Sample.interleaved = .openTransaction zeroId 5 ::
        ([[1, 2, 3], [], [4, 5]].map (SenderCall.appendChunk zeroId) ++
          [.finishTransaction zeroId]) ∧
      RunMeets step (Accepts zeroId) (new { frameSize := 2 }) Sample.interleaved ∧
      outputs step (framed zeroId) (new { frameSize := 2 }) Sample.interleaved =
        [dataFrame zeroId 5 0 [1, 2], dataFrame zeroId 5 1 [3, 4], dataFrame zeroId 5 2 [5]] ∧
      ((new { frameSize := 2 }).beginTransaction zeroId [1, 2, 3, 4, 5] 0).1 =
        .ok (outputs step (framed zeroId) (new { frameSize := 2 }) Sample.interleaved) := by
  have hcalls : framingCalls zeroId Sample.interleaved = .openTransaction zeroId 5 ::
      ([[1, 2, 3], [], [4, 5]].map (SenderCall.appendChunk zeroId) ++
        [.finishTransaction zeroId]) := by decide
  have hok : RunMeets step (Accepts zeroId) (new { frameSize := 2 }) Sample.interleaved := by decide
  exact ⟨hcalls, hok, by decide, (streamed_eq_whole hcalls hok).1 (new { frameSize := 2 }) 0 rfl
    (by decide) (by decide)⟩

/-! ## Finishing short -/

/-- The same configuration and the same copies. -/
def Agrees (s s' : TransactionSender) : Prop :=
  s'.config = s.config ∧ ∀ id, s'.pending.get? id = s.pending.get? id

/-- **A refused finish leaves the sender as it was exactly where the buffer
was empty.** -/
theorem finish_unchanged_iff {s s' : TransactionSender} {e : BeginError}
    (herr : s.finishTransaction id now = (.error e, s')) :
    s.Agrees s' ↔ ∀ txn, s.pending.get? id = some txn → txn.partialBytes = [] := by
  cases hget : s.pending.get? id with
  | none =>
    rw [finishTransaction_none hget] at herr
    cases herr
    exact ⟨fun _ txn htxn => (by cases htxn), fun _ => ⟨rfl, fun _ => rfl⟩⟩
  | some txn =>
    rw [finishTransaction_some hget] at herr
    obtain ⟨-, rfl⟩ := Prod.mk.inj herr
    constructor
    · rintro ⟨-, hsame⟩ txn' htxn'
      cases htxn'
      have hcopy := hsame id
      rw [get?_withPending_insert, hget, Option.some.injEq] at hcopy
      exact (congrArg PendingTxn.partialBytes hcopy).symm
    · intro hempty
      have hnil := hempty txn rfl
      refine ⟨rfl, fun id' => ?_⟩
      have hcopy : txn.extend id (tailOf txn.partialBytes) [] now = txn := by
        calc txn.extend id (tailOf txn.partialBytes) [] now
            = txn.extend id [] txn.partialBytes now := by rw [hnil]; rfl
          _ = txn := txn.extend_nil
      rw [hcopy, withPending_pending, Table.get?_insert]
      split
      · next heq => rw [heq, hget]
      · rfl

theorem finish_unchanged_iff_sample :
    let s := ((new { frameSize := 2 }).openTransaction zeroId 5 0).2
    let s₁ := (s.appendChunk zeroId [1, 2] 1).2
    (s₁.finishTransaction zeroId 2).1 = .error (.incompletePayload 2 5) ∧
      s₁.Agrees (s₁.finishTransaction zeroId 2).2 := by
  intro s s₁
  have herr : s₁.finishTransaction zeroId 2 =
      (.error (.incompletePayload 2 5), (s₁.finishTransaction zeroId 2).2) :=
    Prod.ext (by decide) rfl
  refine ⟨by decide, (finish_unchanged_iff herr).2 fun txn htxn => ?_⟩
  have hempty : ∀ txn ∈ s₁.pending.get? zeroId, txn.partialBytes = [] := by decide
  exact hempty txn htxn

/-- A short finish frames the two bytes it held, returns no frame, and the
bytes that follow are cut otherwise. -/
theorem finished_short_and_framed :
    let s := ((new { frameSize := 4 }).openTransaction zeroId 5 0).2
    let s₁ := (s.appendChunk zeroId [1, 2] 1).2
    let s₂ := (s₁.finishTransaction zeroId 2).2
    (s₁.finishTransaction zeroId 2).1 = .error (.incompletePayload 2 5) ∧
      (s₁.pending.get? zeroId).map PendingTxn.frames = some [] ∧
      (s₂.pending.get? zeroId).map PendingTxn.frames =
        some [some (dataFrame zeroId 5 0 [1, 2])] ∧
      (s₁.appendChunk zeroId [3, 4, 5] 3).1 = .ok [dataFrame zeroId 5 0 [1, 2, 3, 4]] ∧
      (s₂.appendChunk zeroId [3, 4, 5] 3).1 = .ok [] ∧ ¬ s₁.Agrees s₂ := by
  intro s s₁ s₂
  have hbefore : (s₁.pending.get? zeroId).map PendingTxn.frames = some [] := by decide
  have hafter : (s₂.pending.get? zeroId).map PendingTxn.frames =
      some [some (dataFrame zeroId 5 0 [1, 2])] := by decide
  refine ⟨by decide, hbefore, hafter, by decide, by decide, fun hagrees => ?_⟩
  rw [hagrees.2, hbefore] at hafter
  cases hafter

end TransactionSender

end Reliability

end Xacpp
