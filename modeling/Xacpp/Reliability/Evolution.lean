import Xacpp.Common.Run
import Xacpp.Reliability.Verdicts
/-!
# What becomes of a copy

Operations on the sender, read at one transaction: what was in the table
before and what is there after, related as options. Most operations let
every copy rest (`Rests`): clocks and flags move, nothing is released and
no gate is new. A declaration gates (`Gates`); an acknowledgement merges
its reports one after the other and releases the copy where one completes
it (`ackAll`); a response releases what it names otherwise than `resumed`.
-/

namespace Xacpp

namespace Reliability

variable {id : TxId} {now : ℕ}

namespace PendingTxn

variable {txn txn' txn'' : PendingTxn}

/-- The contents are the same, and so is what the peer has reported. -/
structure Gates (txn txn' : PendingTxn) : Prop where
  same : SameCopy txn txn'
  received : txn'.ackedReceived = txn.ackedReceived

/-- The same, and no gate is new. -/
structure Rests (txn txn' : PendingTxn) : Prop extends Gates txn txn' where
  gate : txn'.awaitingResume = true → txn.awaitingResume = true

theorem Rests.refl (txn : PendingTxn) : Rests txn txn := ⟨⟨.refl txn, rfl⟩, fun h => h⟩

theorem Rests.trans (h : Rests txn txn') (h' : Rests txn' txn'') : Rests txn txn'' :=
  ⟨⟨h.same.trans h'.same, h'.received.trans h.received⟩, fun hg => h.gate (h'.gate hg)⟩

theorem rests_resend (pick : FrameState → Bool) : Rests txn (txn.resend pick now).1 :=
  ⟨⟨sameCopy_resend _, rfl⟩, fun h => h⟩

theorem rests_dueRetransmissions (config : SenderConfig) :
    Rests txn (txn.dueRetransmissions config now).1 := by
  unfold PendingTxn.dueRetransmissions
  split
  · exact .refl txn
  · exact rests_resend _

/-- One report, at the transaction it names: it completes the copy or is
merged into it. -/
def ackOne (now : ℕ) (entry : AckEntry) (txn : PendingTxn) : Option PendingTxn :=
  if (txn.acked entry now).isFullyAcked then none else some (txn.acked entry now)

/-- The reports of a list that name the transaction, in order. -/
def ackAll (now : ℕ) (id : TxId) : List AckEntry → Option PendingTxn → Option PendingTxn
  | [], txn => txn
  | entry :: rest, txn =>
    ackAll now id rest (if entry.transactionId = id then txn.bind (ackOne now entry) else txn)

theorem ackAll_none (entries : List AckEntry) : ackAll now id entries none = none := by
  induction entries with
  | nil => rfl
  | cons entry rest ih =>
    rw [ackAll]
    split
    · exact ih
    · exact ih

/-- **A property the reports keep, and under which none completes the
copy**, holds of the copy that is there at the end. -/
theorem ackAll_induct {P : PendingTxn → Prop} {entries : List AckEntry}
    (hstep : ∀ txn, P txn → ∀ entry ∈ entries, entry.transactionId = id →
      (txn.acked entry now).isFullyAcked = false ∧ P (txn.acked entry now))
    (htxn : P txn) : ∃ txn', ackAll now id entries (some txn) = some txn' ∧ P txn' := by
  induction entries generalizing txn with
  | nil => exact ⟨txn, rfl, htxn⟩
  | cons entry rest ih =>
    have hrest : ∀ txn, P txn → ∀ entry ∈ rest, entry.transactionId = id →
        (txn.acked entry now).isFullyAcked = false ∧ P (txn.acked entry now) :=
      fun txn h e he => hstep txn h e (List.mem_cons_of_mem _ he)
    rw [ackAll]
    split
    · next hid =>
      obtain ⟨hopen, hacked⟩ := hstep txn htxn entry List.mem_cons_self hid
      rw [Option.bind_some, ackOne, if_neg (Bool.eq_false_iff.1 hopen)]
      exact ih hrest hacked
    · exact ih hrest htxn

/-- **A property the reports keep** holds of the copy that is left. -/
theorem ackAll_keeps {P : PendingTxn → Prop} {entries : List AckEntry}
    (hstep : ∀ txn, P txn → ∀ entry ∈ entries, entry.transactionId = id →
      (txn.acked entry now).isFullyAcked = false → P (txn.acked entry now))
    (htxn : P txn) (hleft : ackAll now id entries (some txn) = some txn') : P txn' := by
  induction entries generalizing txn with
  | nil => exact Option.some.inj hleft ▸ htxn
  | cons entry rest ih =>
    have hrest : ∀ txn, P txn → ∀ entry ∈ rest, entry.transactionId = id →
        (txn.acked entry now).isFullyAcked = false → P (txn.acked entry now) :=
      fun txn h e he => hstep txn h e (List.mem_cons_of_mem _ he)
    rw [ackAll] at hleft
    split at hleft
    · next hid =>
      rw [Option.bind_some, ackOne] at hleft
      split at hleft
      · rw [ackAll_none] at hleft
        cases hleft
      · next hopen =>
        have hopen := Bool.eq_false_iff.2 hopen
        exact ih hrest (hstep txn htxn entry List.mem_cons_self hid hopen) hleft
    · exact ih hrest htxn hleft

end PendingTxn

namespace TransactionSender

open PendingTxn

variable {s s' s'' : TransactionSender} {R : PendingTxn → PendingTxn → Prop}

/-- Nothing is opened or released, and copies are related. -/
def Evolves (R : PendingTxn → PendingTxn → Prop) (s s' : TransactionSender) : Prop :=
  ∀ id, Option.Rel R (s.pending.get? id) (s'.pending.get? id)

theorem rel_refl (hR : ∀ txn, R txn txn) : ∀ copy : Option PendingTxn, Option.Rel R copy copy
  | none => .none
  | some txn => .some (hR txn)

theorem evolves_refl (hR : ∀ txn, R txn txn) (s : TransactionSender) : Evolves R s s :=
  fun id => rel_refl hR (s.pending.get? id)

theorem rel_trans {copy copy' copy'' : Option PendingTxn}
    (hR : ∀ {txn txn' txn''}, R txn txn' → R txn' txn'' → R txn txn'')
    (h : Option.Rel R copy copy') (h' : Option.Rel R copy' copy'') : Option.Rel R copy copy'' := by
  cases h with
  | none => exact h'
  | some hr =>
    cases h' with
    | some hr' => exact .some (hR hr hr')

theorem Evolves.trans (h : Evolves Rests s s') (h' : Evolves Rests s' s'') :
    Evolves Rests s s'' :=
  fun id => rel_trans Rests.trans (h id) (h' id)

theorem Evolves.insert {txn txn' : PendingTxn} (hR : ∀ txn, R txn txn)
    (hget : s.pending.get? id = some txn) (hr : R txn txn') :
    Evolves R s (s.withPending (s.pending.insert id txn')) := by
  intro id'
  rw [withPending_pending, Table.get?_insert]
  split
  · next heq =>
    rw [heq, hget]
    exact .some hr
  · exact rel_refl hR _

theorem evolves_mapValues {f : TxId → PendingTxn → PendingTxn} (hR : ∀ id txn, R txn (f id txn)) :
    Evolves R s (s.withPending (s.pending.mapValues f)) := by
  intro id
  rw [withPending_pending, Table.get?_mapValues]
  cases s.pending.get? id with
  | none => exact .none
  | some txn => exact .some (hR id txn)

theorem evolves_foldl {α : Type*} {f : TransactionSender → α → TransactionSender}
    (hf : ∀ s a, Evolves Rests s (f s a)) (s : TransactionSender) (as : List α) :
    Evolves Rests s (as.foldl f s) :=
  foldl_rel (evolves_refl .refl) (fun _ _ _ => Evolves.trans) hf as s

/-! ## Operations -/

theorem evolves_setPaused (s : TransactionSender) (id : TxId) (paused : Bool) (now : ℕ) :
    Evolves Rests s (s.setPaused id paused now).2 := by
  cases hget : s.pending.get? id with
  | none =>
    rw [setPaused_none hget]
    exact evolves_refl .refl s
  | some txn =>
    obtain ⟨txn', heq, hsame, hreceived, hgate⟩ := setPaused_some paused now hget
    rw [heq]
    exact .insert .refl hget ⟨⟨hsame, hreceived⟩, fun h => hgate ▸ h⟩

theorem evolves_handleNack (s : TransactionSender) (id : TxId) (seqs : List UInt32) (now : ℕ) :
    Evolves Rests s (s.handleNack id seqs now).2 := by
  cases hget : s.pending.get? id with
  | none =>
    rw [handleNack_none hget]
    exact evolves_refl .refl s
  | some txn =>
    obtain ⟨txn', heq, hsame, ⟨hreceived, hgate⟩, -⟩ := handleNack_some seqs now hget
    rw [heq]
    exact .insert .refl hget ⟨⟨hsame, hreceived⟩, fun h => hgate ▸ h⟩

theorem evolves_dueRetransmissions (s : TransactionSender) (now : ℕ) :
    Evolves Rests s (s.dueRetransmissions now).2 :=
  evolves_mapValues fun _ _ => rests_dueRetransmissions _

theorem evolves_timedOutDeclarations (s : TransactionSender) (now timeoutMs : ℕ) :
    Evolves Rests s (s.timedOutDeclarations now timeoutMs).2 := by
  refine evolves_mapValues fun _ txn => ?_
  split
  · exact ⟨⟨⟨rfl, rfl, rfl, rfl, rfl, rfl⟩, rfl⟩, fun h => h⟩
  · exact .refl txn

/-- A declaration gates. -/
theorem evolves_declarePending (s : TransactionSender) (now : ℕ) :
    Evolves Gates s (s.declarePending now).2 :=
  evolves_mapValues fun _ _ => ⟨⟨rfl, rfl, rfl, rfl, rfl, rfl⟩, rfl⟩

/-- **An acknowledgement**, at one transaction. -/
theorem get?_foldl_handleAck (s : TransactionSender) (entries : List AckEntry) (now : ℕ)
    (id : TxId) :
    (entries.foldl (fun s entry => (s.handleAck entry now).2) s).pending.get? id =
      ackAll now id entries (s.pending.get? id) := by
  induction entries generalizing s with
  | nil => rfl
  | cons entry rest ih =>
    rw [List.foldl_cons, ih, ackAll]
    congr 1
    cases hget : s.pending.get? entry.transactionId with
    | none =>
      rw [handleAck_none hget]
      split
      · next hid =>
        rw [← hid, hget]
        rfl
      · rfl
    | some txn =>
      rw [handleAck_some hget]
      by_cases hid : entry.transactionId = id
      · subst hid
        rw [if_pos rfl, hget, Option.bind_some, ackOne]
        split
        · exact Table.get?_erase_self _ _
        · exact get?_withPending_insert
      · rw [if_neg hid]
        split
        · exact Table.get?_erase_of_ne _ (Ne.symm hid)
        · exact Table.get?_insert_of_ne _ _ (Ne.symm hid)

section Responses

variable (hrefl : ∀ txn, R txn txn)
  (htrans : ∀ {txn txn' txn''}, R txn txn' → R txn' txn'' → R txn txn'')
  (hungate : ∀ txn, R txn (txn.ungate now))
  (hresend : ∀ txn pick, R txn (txn.resend pick now).1)

include hrefl htrans hungate hresend

/-- **One verdict**, at one transaction: where lifting the gate and sending
again relate copies, the copies are related or an entry that is not
`resumed` has released this one. -/
theorem rel_applyVerdict (s : TransactionSender) (entry : ResumeStatusEntry)
    (out : ResumeVerdicts) (id : TxId) :
    Option.Rel R (s.pending.get? id) ((s.applyVerdict entry now out).2.pending.get? id) ∨
      (s.applyVerdict entry now out).2.pending.get? id = none ∧ entry.transactionId = id ∧
        entry.status ≠ .resumed := by
  have hclosed : ∀ status, entry.status = status → status ≠ .resumed →
      Option.Rel R (s.pending.get? id)
        ((s.withPending (s.pending.erase entry.transactionId)).pending.get? id) ∨
      (s.withPending (s.pending.erase entry.transactionId)).pending.get? id = none ∧
        entry.transactionId = id ∧ entry.status ≠ .resumed := by
    intro status hstatus hne
    by_cases hid : entry.transactionId = id
    · subst hid
      exact .inr ⟨Table.get?_erase_self _ _, rfl, hstatus ▸ hne⟩
    · rw [withPending_pending, Table.get?_erase_of_ne _ (Ne.symm hid)]
      exact .inl (rel_refl hrefl _)
  unfold applyVerdict
  cases hget : s.pending.get? entry.transactionId with
  | none => exact .inl (rel_refl hrefl _)
  | some txn =>
    cases hstatus : entry.status with
    | resumed =>
      dsimp only
      split
      · exact .inl (Evolves.insert hrefl hget (hungate txn) id)
      · exact .inl (Evolves.insert hrefl hget (htrans (hungate txn) (hresend _ _)) id)
    | unknown | rejected =>
      dsimp only
      split <;> exact hstatus ▸ hclosed _ hstatus (by decide)

/-- **A response**, at one transaction. -/
theorem rel_applyResumeVerdicts (s : TransactionSender) (entries : List ResumeStatusEntry)
    (id : TxId) :
    Option.Rel R (s.pending.get? id) ((s.applyResumeVerdicts entries now).2.pending.get? id) ∨
      (s.applyResumeVerdicts entries now).2.pending.get? id = none ∧
        ∃ entry ∈ entries, entry.transactionId = id ∧ entry.status ≠ .resumed := by
  unfold applyResumeVerdicts
  generalize (⟨[], [], []⟩ : ResumeVerdicts) = out
  induction entries generalizing s out with
  | nil => exact .inl (rel_refl hrefl _)
  | cons entry rest ih =>
    rw [applyVerdictsFrom]
    have hone := rel_applyVerdict hrefl htrans hungate hresend s entry out id
    rcases ih (s.applyVerdict entry now out).2 (s.applyVerdict entry now out).1 with hrest | hrest
    · rcases hone with hone | ⟨hgone, hnamed⟩
      · exact .inl (rel_trans htrans hone hrest)
      · rw [hgone] at hrest
        refine .inr ⟨?_, entry, List.mem_cons_self, hnamed⟩
        generalize (applyVerdictsFrom _ _ _ _).2.pending.get? id = copy at hrest ⊢
        cases hrest
        rfl
    · obtain ⟨hgone, e, he, hnamed⟩ := hrest
      exact .inr ⟨hgone, e, List.mem_cons_of_mem _ he, hnamed⟩

end Responses

theorem rests_ungate (now : ℕ) (txn : PendingTxn) : Rests txn (txn.ungate now) :=
  ⟨⟨⟨rfl, rfl, rfl, rfl, rfl, rfl⟩, rfl⟩, fun h => by cases h⟩

/-- **A response**, at one transaction: the copy rests, or is released by an
entry that names it otherwise than `resumed`. -/
theorem get?_applyResumeVerdicts (s : TransactionSender) (entries : List ResumeStatusEntry)
    (now : ℕ) (id : TxId) :
    Option.Rel Rests (s.pending.get? id) ((s.applyResumeVerdicts entries now).2.pending.get? id) ∨
      (s.applyResumeVerdicts entries now).2.pending.get? id = none ∧
        ∃ entry ∈ entries, entry.transactionId = id ∧ entry.status ≠ .resumed :=
  rel_applyResumeVerdicts Rests.refl (fun h h' => h.trans h') (rests_ungate now)
    (fun _ => rests_resend) s entries id

end TransactionSender

end Reliability

end Xacpp
