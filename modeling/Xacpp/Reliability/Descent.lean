import Xacpp.Common.Run
import Xacpp.Reliability.Verdicts
/-!
# Descent of copies

Most operations on the sender make no copy and frame nothing: every copy
they leave descends from one that was there, is true to the same history,
and is gated if that one was. `Descends` is this relation; a `resumed`
verdict lifts the gate of the transaction it names. Appending and finishing
frame more of a copy, and `Frames` says what.
-/

namespace Xacpp

namespace Reliability

variable {id : TxId} {now : ℕ} {txn txn' txn'' : PendingTxn}

/-- A copy that is true to every history the other was. -/
structure PendingTxn.Keeps (id : TxId) (txn txn' : PendingTxn) : Prop where
  totalLen : txn'.totalLen = txn.totalLen
  holds : ∀ total framed appended, txn.Holds id total framed appended →
    txn'.Holds id total framed appended

namespace PendingTxn

theorem Keeps.refl (id : TxId) (txn : PendingTxn) : Keeps id txn txn := ⟨rfl, fun _ _ _ h => h⟩

theorem Keeps.trans (h : Keeps id txn txn') (h' : Keeps id txn' txn'') : Keeps id txn txn'' :=
  ⟨h'.totalLen.trans h.totalLen, fun _ _ _ hh => h'.holds _ _ _ (h.holds _ _ _ hh)⟩

theorem SameCopy.keeps (h : SameCopy txn txn') : Keeps id txn txn' :=
  ⟨h.totalLen, fun _ _ _ hh => hh.congr h⟩

theorem keeps_acked (txn : PendingTxn) (entry : AckEntry) (now : ℕ) :
    Keeps id txn (txn.acked entry now) :=
  ⟨rfl, fun _ _ _ hh => hh.acked⟩

/-- The second copy is the first with these payloads framed. -/
structure Frames (id : TxId) (txn : PendingTxn) (ps : List Bytes) (txn' : PendingTxn) : Prop where
  totalLen : txn'.totalLen = txn.totalLen
  gate : txn'.awaitingResume = txn.awaitingResume
  holds : ∀ framed appended, txn.Holds id txn.totalLen framed appended →
    ∃ appended', txn'.Holds id txn.totalLen (framed ++ ps) appended'

theorem Frames.trans {ps ps' : List Bytes} (h : Frames id txn ps txn')
    (h' : Frames id txn' ps' txn'') : Frames id txn (ps ++ ps') txn'' := by
  refine ⟨h'.totalLen.trans h.totalLen, h'.gate.trans h.gate, fun framed appended hh => ?_⟩
  obtain ⟨appended', hh'⟩ := h.holds framed appended hh
  rw [← List.append_assoc, ← h.totalLen]
  exact h'.holds (framed ++ ps) appended' (h.totalLen.symm ▸ hh')

end PendingTxn

namespace TransactionSender

variable {s s' s'' : TransactionSender} {lifted lifted' : TxId → Prop}

/-- **Every copy descends from one that was there.** Gates may be lifted for
the ids of `lifted` only. -/
def Descends (lifted : TxId → Prop) (s s' : TransactionSender) : Prop :=
  ∀ id txn', s'.pending.get? id = some txn' → ∃ txn, s.pending.get? id = some txn ∧
    PendingTxn.Keeps id txn txn' ∧
      (txn.awaitingResume = true → txn'.awaitingResume = true ∨ lifted id)

theorem Descends.refl (lifted : TxId → Prop) (s : TransactionSender) : Descends lifted s s :=
  fun id txn hget => ⟨txn, hget, .refl id txn, .inl⟩

theorem Descends.trans (h : Descends lifted s s') (h' : Descends lifted s' s'') :
    Descends lifted s s'' := by
  intro id txn'' hget''
  obtain ⟨txn', hget', hkeeps', hgate'⟩ := h' id txn'' hget''
  obtain ⟨txn, hget, hkeeps, hgate⟩ := h id txn' hget'
  exact ⟨txn, hget, hkeeps.trans hkeeps', fun ha => (hgate ha).elim hgate' .inr⟩

theorem Descends.mono (h : Descends lifted s s') (hsub : ∀ id, lifted id → lifted' id) :
    Descends lifted' s s' := by
  intro id txn' hget'
  obtain ⟨txn, hget, hkeeps, hgate⟩ := h id txn' hget'
  exact ⟨txn, hget, hkeeps, fun ha => (hgate ha).imp_right (hsub id)⟩

/-- A pass over a list of reports. -/
theorem descends_foldl {α : Type*} {f : TransactionSender → α → TransactionSender}
    (hf : ∀ s a, Descends lifted s (f s a)) (s : TransactionSender) (l : List α) :
    Descends lifted s (l.foldl f s) :=
  foldl_rel (Descends.refl lifted) (fun _ _ _ => Descends.trans) hf l s

theorem Descends.insert (hget : s.pending.get? id = some txn)
    (hkeeps : PendingTxn.Keeps id txn txn')
    (hgate : txn.awaitingResume = true → txn'.awaitingResume = true ∨ lifted id) :
    Descends lifted s (s.withPending (s.pending.insert id txn')) := by
  intro id' txn₁ hget'
  rw [withPending_pending, Table.get?_insert] at hget'
  split at hget'
  · next heq =>
    subst heq
    cases hget'
    exact ⟨txn, hget, hkeeps, hgate⟩
  · exact ⟨txn₁, hget', .refl id' txn₁, .inl⟩

theorem descends_erase (lifted : TxId → Prop) (s : TransactionSender) (id : TxId) :
    Descends lifted s (s.withPending (s.pending.erase id)) := by
  intro id' txn hget
  rw [withPending_pending] at hget
  exact ⟨txn, (Table.of_get?_erase hget).2, .refl id' txn, .inl⟩

/-- A pass over the copies that keeps each. -/
theorem descends_mapValues (lifted : TxId → Prop) (s : TransactionSender)
    {f : TxId → PendingTxn → PendingTxn} (hkeeps : ∀ id txn, PendingTxn.SameCopy txn (f id txn))
    (hgate : ∀ id txn, txn.awaitingResume = true → (f id txn).awaitingResume = true) :
    Descends lifted s (s.withPending (s.pending.mapValues f)) := by
  intro id txn' hget'
  rw [withPending_pending, Table.get?_mapValues] at hget'
  obtain ⟨txn, hget, rfl⟩ := Option.map_eq_some_iff.1 hget'
  exact ⟨txn, hget, (hkeeps id txn).keeps, fun ha => .inl (hgate id txn ha)⟩

theorem descends_handleAck (lifted : TxId → Prop) (s : TransactionSender) (entry : AckEntry)
    (now : ℕ) : Descends lifted s (s.handleAck entry now).2 := by
  cases hget : s.pending.get? entry.transactionId with
  | none =>
    rw [handleAck_none hget]
    exact .refl lifted s
  | some txn =>
    rw [handleAck_some hget]
    split
    · exact descends_erase lifted s _
    · exact .insert hget (txn.keeps_acked entry now) .inl

theorem descends_handleNack (lifted : TxId → Prop) (s : TransactionSender) (id : TxId)
    (seqs : List UInt32) (now : ℕ) : Descends lifted s (s.handleNack id seqs now).2 := by
  cases hget : s.pending.get? id with
  | none =>
    rw [handleNack_none hget]
    exact .refl lifted s
  | some txn =>
    obtain ⟨txn', heq, hsame, ⟨-, hgate⟩, -⟩ := handleNack_some seqs now hget
    rw [heq]
    exact .insert hget hsame.keeps fun ha => .inl (hgate.trans ha)

theorem descends_setPaused (lifted : TxId → Prop) (s : TransactionSender) (id : TxId)
    (paused : Bool) (now : ℕ) : Descends lifted s (s.setPaused id paused now).2 := by
  cases hget : s.pending.get? id with
  | none =>
    rw [setPaused_none hget]
    exact .refl lifted s
  | some txn =>
    obtain ⟨txn', heq, hsame, -, hgate⟩ := setPaused_some paused now hget
    rw [heq]
    exact .insert hget hsame.keeps fun ha => .inl (hgate.trans ha)

theorem descends_dueRetransmissions (lifted : TxId → Prop) (s : TransactionSender) (now : ℕ) :
    Descends lifted s (s.dueRetransmissions now).2 := by
  refine descends_mapValues lifted s (fun _ _ => PendingTxn.sameCopy_dueRetransmissions _) ?_
  intro _ txn hgate
  unfold PendingTxn.dueRetransmissions
  split
  · exact hgate
  · exact hgate

theorem descends_timedOutDeclarations (lifted : TxId → Prop) (s : TransactionSender)
    (now timeoutMs : ℕ) : Descends lifted s (s.timedOutDeclarations now timeoutMs).2 := by
  refine descends_mapValues lifted s (fun _ txn => ?_) fun _ txn hgate => ?_
  · split
    · exact ⟨rfl, rfl, rfl, rfl, rfl, rfl⟩
    · exact .refl txn
  · split
    · exact hgate
    · exact hgate

theorem descends_declarePending (lifted : TxId → Prop) (s : TransactionSender) (now : ℕ) :
    Descends lifted s (s.declarePending now).2 :=
  descends_mapValues lifted s (fun _ _ => ⟨rfl, rfl, rfl, rfl, rfl, rfl⟩) fun _ _ _ => rfl

/-- A response lifts the gates its `resumed` entries name. -/
theorem descends_applyResumeVerdicts (s : TransactionSender) (entries : List ResumeStatusEntry)
    (now : ℕ) :
    Descends (fun id => ⟨id, .resumed⟩ ∈ entries) s (s.applyResumeVerdicts entries now).2 := by
  intro id txn' hget'
  have hadj := s.applyResumeVerdicts_adjudicates entries now
  obtain ⟨hopen, txn, hget, hsame⟩ := hadj.sameCopy hget'
  refine ⟨txn, hget, hsame.keeps, fun hgate => ?_⟩
  rcases hadj.kept id hopen with heq | ⟨hnamed, -⟩
  · rw [heq, hget, Option.some.injEq] at hget'
    exact .inl (hget' ▸ hgate)
  · exact .inr hnamed

/-! ## Framing -/

/-- **An accepted append** hands out the frames of what it frames. -/
theorem appendChunk_frames {chunk : Bytes} {out : List Frame}
    (h : s.appendChunk id chunk now = (.ok out, s')) :
    ∃ txn txn' ps, s.pending.get? id = some txn ∧
      s' = s.withPending (s.pending.insert id txn') ∧ PendingTxn.Frames id txn ps txn' ∧
      txn'.frames.length = txn.frames.length + ps.length ∧
      out = framesFrom id txn.totalLen txn.frames.length ps := by
  obtain ⟨txn, hget, hroom, rfl, rfl⟩ := appendChunk_ok h
  refine ⟨txn, _, _, hget, rfl,
    ⟨rfl, rfl, fun framed appended hh => ⟨appended ++ chunk, ?_⟩⟩, ?_, rfl⟩
  · exact (hh.taken hroom).extend now (flatten_chunksExact _ _)
      fun p hp => ne_nil_of_mem_chunksExact s.frameSize_pos hp
  · exact PendingTxn.length_frames_extend _ _

/-- **Finishing** frames the tail. -/
theorem finishTransaction_frames (now : ℕ) (txn : PendingTxn) :
    PendingTxn.Frames id txn (tailOf txn.partialBytes)
      (txn.extend id (tailOf txn.partialBytes) [] now) := by
  refine ⟨rfl, rfl, fun framed appended hh => ⟨appended, ?_⟩⟩
  refine hh.extend now ?_ fun p hp => ne_nil_of_mem_tailOf hp
  rw [flatten_tailOf, List.append_nil]

end TransactionSender

end Reliability

end Xacpp
