import Xacpp.Reliability.Copies
/-!
# Operations on the sender

What the operations of the sender do to its table, operation by operation:
which ids stay pending, that a retained frame carries the id its copy is
held under (`TransactionSender.OwnsFrames`), and which copy a report or a
`NACK` leaves. What every call keeps is in `Reliability.Holding`.
-/

namespace Xacpp

namespace Reliability

variable {id : TxId} {total : UInt32} {now : ℕ} {txn : PendingTxn} {f : Frame}
variable {s : TransactionSender}

/-- Every retained frame carries the id. -/
def PendingTxn.OwnedBy (txn : PendingTxn) (id : TxId) : Prop :=
  ∀ f, some f ∈ txn.frames → f.transactionId = id

theorem PendingTxn.OwnedBy.extend {ps : List Bytes} {rest : Bytes} (h : txn.OwnedBy id) :
    (txn.extend id ps rest now).OwnedBy id := by
  intro f hf
  rcases List.mem_append.1 hf with hf | hf
  · exact h f hf
  · obtain ⟨g, hg, hgf⟩ := List.mem_map.1 hf
    obtain ⟨i, p, -, rfl⟩ := mem_framesFrom hg
    rw [← Option.some.inj hgf, dataFrame_transactionId]

theorem PendingTxn.OwnedBy.acked {entry : AckEntry} (h : txn.OwnedBy id) :
    (txn.acked entry now).OwnedBy id := by
  intro f hf
  obtain ⟨i, hi, hif⟩ := List.mem_mapIdx.1 hf
  split at hif
  · cases hif
  · exact h f (hif ▸ List.getElem_mem hi)

theorem transactionId_of_mem_framesFrom {start : ℕ} {ps : List Bytes}
    (h : f ∈ framesFrom id total start ps) : f.transactionId = id := by
  obtain ⟨i, p, -, rfl⟩ := mem_framesFrom h
  rfl

namespace TransactionSender

theorem containsTransaction_iff :
    s.containsTransaction id = true ↔ ∃ txn, s.pending.get? id = some txn :=
  Table.contains_iff

theorem containsTransaction_of_get? (h : s.pending.get? id = some txn) :
    s.containsTransaction id = true :=
  containsTransaction_iff.2 ⟨txn, h⟩

/-- Storing another copy under a held id changes nobody's presence. -/
theorem containsTransaction_insert (h : s.containsTransaction id = true) (id' : TxId) :
    (s.withPending (s.pending.insert id txn)).containsTransaction id' =
      s.containsTransaction id' := by
  simp only [containsTransaction, Table.contains, withPending_pending, Table.get?_insert]
  split
  · next heq =>
    rw [heq]
    exact h.symm
  · rfl

theorem containsTransaction_erase (id' : TxId) :
    (s.withPending (s.pending.erase id)).containsTransaction id' = true ↔
      s.containsTransaction id' = true ∧ id' ≠ id := by
  simp only [containsTransaction, Table.contains, withPending_pending, Table.get?_erase]
  split
  · next heq => simp [heq]
  · next hne => simp [hne]

/-- A pass over the copies changes nobody's presence. -/
theorem containsTransaction_mapValues (f : TxId → PendingTxn → PendingTxn) (id : TxId) :
    (s.withPending (s.pending.mapValues f)).containsTransaction id = s.containsTransaction id := by
  simp only [containsTransaction, Table.contains, withPending_pending, Table.get?_mapValues,
    Option.isSome_map]

/-- Every retained frame carries the id its copy is held under. -/
def OwnsFrames (s : TransactionSender) : Prop :=
  ∀ id txn, s.pending.get? id = some txn → txn.OwnedBy id

theorem ownsFrames_new (config : SenderConfig) : (new config).OwnsFrames := by
  intro id txn h
  rw [new, Table.get?_empty] at h
  cases h

theorem OwnsFrames.insert (h : s.OwnsFrames) (htxn : txn.OwnedBy id) :
    (s.withPending (s.pending.insert id txn)).OwnsFrames := by
  intro id' txn' hget
  rw [withPending_pending, Table.get?_insert] at hget
  split at hget
  · next heq =>
    rw [Option.some.injEq] at hget
    exact heq ▸ hget ▸ htxn
  · exact h id' txn' hget

theorem OwnsFrames.erase (h : s.OwnsFrames) :
    (s.withPending (s.pending.erase id)).OwnsFrames := by
  intro id' txn' hget
  rw [withPending_pending] at hget
  exact h id' txn' (Table.of_get?_erase hget).2

theorem get?_dueRetransmissions (s : TransactionSender) (now : ℕ) (id : TxId) :
    (s.dueRetransmissions now).2.pending.get? id =
      (s.pending.get? id).map fun txn => (txn.dueRetransmissions s.config now).1 :=
  Table.get?_mapValues _ _ _

/-- A resend of the clock is retained by the transaction it names. -/
theorem mem_dueRetransmissions (h : s.OwnsFrames) (hf : f ∈ (s.dueRetransmissions now).1) :
    ∃ txn, s.pending.get? f.transactionId = some txn ∧
      f ∈ (txn.dueRetransmissions s.config now).2 := by
  obtain ⟨⟨id, txn⟩, hmem, hdue⟩ := List.mem_flatMap.1 hf
  have hget := Table.mem_toList.1 hmem
  rw [h id txn hget f (PendingTxn.mem_dueRetransmissions hdue)]
  exact ⟨txn, hget, hdue⟩

theorem handleNack_some (seqs : List UInt32) (now : ℕ) (h : s.pending.get? id = some txn) :
    ∃ txn', (s.handleNack id seqs now).2 = s.withPending (s.pending.insert id txn') ∧
      PendingTxn.SameCopy txn txn' ∧
      (txn'.ackedReceived = txn.ackedReceived ∧ txn'.awaitingResume = txn.awaitingResume) ∧
      ∀ f ∈ (s.handleNack id seqs now).1, some f ∈ txn.frames := by
  unfold handleNack
  rw [h]
  dsimp only
  split
  · exact ⟨_, rfl, ⟨rfl, rfl, rfl, rfl, rfl, rfl⟩, ⟨rfl, rfl⟩, List.forall_mem_nil _⟩
  · obtain ⟨hlen, hmem⟩ := ({ txn with lastProgressMs := now } : PendingTxn).nacked_spec
      now seqs txn.states []
    exact ⟨_, rfl, ⟨rfl, rfl, hlen, rfl, rfl, rfl⟩, ⟨rfl, rfl⟩,
      fun f hf => (hmem f hf).resolve_left List.not_mem_nil⟩

theorem handleNack_none {seqs : List UInt32} (h : s.pending.get? id = none) :
    s.handleNack id seqs now = ([], s) := by
  unfold handleNack
  rw [h]

/-- A resend for a `NACK` is retained by the transaction the `NACK` names. -/
theorem mem_handleNack {seqs : List UInt32} (hf : f ∈ (s.handleNack id seqs now).1) :
    ∃ txn, s.pending.get? id = some txn ∧ some f ∈ txn.frames := by
  cases hget : s.pending.get? id with
  | none =>
    rw [handleNack_none hget] at hf
    exact absurd hf List.not_mem_nil
  | some txn =>
    obtain ⟨-, -, -, -, hmem⟩ := handleNack_some seqs now hget
    exact ⟨txn, rfl, hmem f hf⟩

theorem containsTransaction_handleNack (s : TransactionSender) (id : TxId) (seqs : List UInt32)
    (now : ℕ) (id' : TxId) :
    (s.handleNack id seqs now).2.containsTransaction id' = s.containsTransaction id' := by
  cases hget : s.pending.get? id with
  | none => rw [handleNack_none hget]
  | some txn =>
    obtain ⟨txn', heq, -, -⟩ := handleNack_some seqs now hget
    rw [heq]
    exact containsTransaction_insert (containsTransaction_of_get? hget) id'

theorem setPaused_some (paused : Bool) (now : ℕ) (h : s.pending.get? id = some txn) :
    ∃ txn', (s.setPaused id paused now).2 = s.withPending (s.pending.insert id txn') ∧
      PendingTxn.SameCopy txn txn' ∧
      txn'.ackedReceived = txn.ackedReceived ∧ txn'.awaitingResume = txn.awaitingResume := by
  unfold setPaused
  rw [h]
  refine ⟨_, rfl, ⟨rfl, rfl, ?_, rfl, rfl, rfl⟩, rfl, rfl⟩
  dsimp only
  split
  · rfl
  · exact List.length_map _

theorem setPaused_none {paused : Bool} (h : s.pending.get? id = none) :
    s.setPaused id paused now = (false, s) := by
  unfold setPaused
  rw [h]

theorem handleAck_some {entry : AckEntry} (h : s.pending.get? entry.transactionId = some txn) :
    s.handleAck entry now =
      if (txn.acked entry now).isFullyAcked then
        (true, s.withPending (s.pending.erase entry.transactionId))
      else
        (false, s.withPending (s.pending.insert entry.transactionId (txn.acked entry now))) := by
  unfold handleAck
  rw [h]

theorem handleAck_none {entry : AckEntry} (h : s.pending.get? entry.transactionId = none) :
    s.handleAck entry now = (false, s) := by
  unfold handleAck
  rw [h]

end TransactionSender

/-- The frames an operation hands to its caller; none where it fails. -/
def framesOf : Except BeginError (List Frame) → List Frame
  | .ok frames => frames
  | .error _ => []

theorem mem_framesOf {res : Except BeginError (List Frame)} (h : f ∈ framesOf res) :
    ∃ frames, res = .ok frames ∧ f ∈ frames := by
  cases res with
  | ok frames => exact ⟨frames, rfl, h⟩
  | error e => exact absurd h List.not_mem_nil

end Reliability

end Xacpp
