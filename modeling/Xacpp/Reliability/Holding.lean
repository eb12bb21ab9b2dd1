import Xacpp.Common.Release
import Xacpp.Reliability.Evolution
import Xacpp.Reliability.Model.Holder
import Xacpp.Reliability.Whole
/-!
# What a call does to a copy

A sender under any calls. `Change` says what one call can do to one
transaction, and `apply_change` that it covers every call: a copy keeps its
contents while clocks and flags move (`PendingTxn.Steady`), grows by
payloads cut off its buffer, merges a report, or is released. What every
copy has and these five keep holds in every run.
-/

namespace Xacpp

namespace Reliability

variable {id : TxId} {total : UInt32} {now : ℕ} {s : TransactionSender}

namespace PendingTxn

variable {txn txn' txn'' : PendingTxn} {ps qs : List Bytes} {rest chunk : Bytes} {n : ℕ}

/-! ## Copies that keep their contents -/

/-- The contents are the same, and so is what has been confirmed. -/
structure Steady (txn txn' : PendingTxn) : Prop extends SameCopy txn txn' where
  bytes : txn'.bytes = txn.bytes
  confirmed : txn'.states.map FrameState.confirmed = txn.states.map FrameState.confirmed
  gate : txn.awaitingResume = txn.declaredMs.isSome →
    txn'.awaitingResume = txn'.declaredMs.isSome

theorem Steady.refl (txn : PendingTxn) : Steady txn txn := ⟨.refl txn, rfl, rfl, fun h => h⟩

theorem Steady.trans (h : Steady txn txn') (h' : Steady txn' txn'') : Steady txn txn'' where
  toSameCopy := ⟨h'.totalLen.trans h.totalLen, h'.frames.trans h.frames,
    h'.states_length.trans h.states_length, h'.partialBytes.trans h.partialBytes,
    h'.written.trans h.written, h'.ackedContiguous.trans h.ackedContiguous⟩
  bytes := h'.bytes.trans h.bytes
  confirmed := h'.confirmed.trans h.confirmed
  gate := fun hg => h'.gate (h.gate hg)

theorem steady_resend (pick : FrameState → Bool) : Steady txn (txn.resend pick now).1 where
  toSameCopy := sameCopy_resend pick
  bytes := rfl
  confirmed := by
    refine List.ext_getElem? fun i => ?_
    simp only [resend, List.getElem?_map, List.getElem?_mapIdx, Option.map_map]
    congr 1
    funext state
    simp only [Function.comp_apply]
    split
    · rfl
    · rfl
  gate := fun h => h

theorem steady_dueRetransmissions (config : SenderConfig) :
    Steady txn (txn.dueRetransmissions config now).1 := by
  unfold PendingTxn.dueRetransmissions
  split
  · exact .refl txn
  · exact steady_resend _

theorem flags_dueRetransmissions (config : SenderConfig) :
    (txn.dueRetransmissions config now).1.awaitingResume = txn.awaitingResume ∧
      (txn.dueRetransmissions config now).1.paused = txn.paused := by
  unfold PendingTxn.dueRetransmissions
  split
  · exact ⟨rfl, rfl⟩
  · exact ⟨rfl, rfl⟩

/-- The same, with no new gate and the pause as it was: what a verdict may do
to a copy it keeps. -/
structure Subsides (txn txn' : PendingTxn) : Prop extends Steady txn txn' where
  quiet : txn'.awaitingResume = true → txn.awaitingResume = true
  paused : txn'.paused = txn.paused

theorem Subsides.refl (txn : PendingTxn) : Subsides txn txn := ⟨.refl txn, fun h => h, rfl⟩

theorem Subsides.trans (h : Subsides txn txn') (h' : Subsides txn' txn'') :
    Subsides txn txn'' :=
  ⟨h.toSteady.trans h'.toSteady, fun hg => h.quiet (h'.quiet hg), h'.paused.trans h.paused⟩

theorem subsides_ungate (txn : PendingTxn) (now : ℕ) : Subsides txn (txn.ungate now) :=
  ⟨⟨⟨rfl, rfl, rfl, rfl, rfl, rfl⟩, rfl, rfl, fun _ => rfl⟩, (fun h => by cases h), rfl⟩

theorem subsides_resend (pick : FrameState → Bool) : Subsides txn (txn.resend pick now).1 :=
  ⟨steady_resend pick, fun h => h, rfl⟩

/-- The loop of a NACK restarts clocks and confirms nothing. -/
theorem map_confirmed_nacked (now : ℕ) (seqs : List UInt32) (states : List FrameState)
    (out : List Frame) :
    (txn.nacked now seqs (states, out)).1.map FrameState.confirmed =
      states.map FrameState.confirmed := by
  induction seqs generalizing states out with
  | nil => rfl
  | cons seq seqs ih =>
    rw [nacked]
    split
    · exact ih states out
    · next state hstate =>
      have hset : (states.set seq.toNat { state with lastSentMs := now }).map
          FrameState.confirmed = states.map FrameState.confirmed := by
        refine List.ext_getElem? fun i => ?_
        rw [List.getElem?_map, List.getElem?_map, List.getElem?_set]
        split
        · next hi =>
          subst hi
          rw [hstate]
          split
          · rfl
          · next hout => exact absurd (List.getElem?_eq_some_iff.1 hstate).1 hout
        · rfl
      split
      · exact ih states out
      · dsimp only
        split
        · exact (ih _ out).trans hset
        · exact (ih _ _).trans hset

theorem map_confirmed_setClock (states : List FrameState) (now : ℕ) :
    (states.map fun state =>
        if state.confirmed then state else { state with lastSentMs := now }).map
      FrameState.confirmed = states.map FrameState.confirmed := by
  rw [List.map_map]
  refine List.map_congr_left fun state _ => ?_
  simp only [Function.comp_apply]
  split
  · rfl
  · rfl

end PendingTxn

/-! ## What one call does to one transaction -/

/-- The call frames bytes of the transaction: it opens it, appends to it or
finishes it. -/
def SenderCall.frames (id : TxId) : SenderCall → Bool
  | openTransaction id' _ | appendChunk id' _ | finishTransaction id' | beginTransaction id' _ =>
    decide (id' = id)
  | setPaused .. | abortTransaction _ | handleAck _ | handleNack .. | dueRetransmissions
  | declarePending | timedOutDeclarations _ | applyResumeVerdicts _ => false

open PendingTxn

/-- How a call moves the flags of a copy: a `resumed` verdict lifts the gate,
a declaration sets it, and only the call that unpauses ends a pause. -/
structure Flags (id : TxId) (c : SenderCall) (txn txn' : PendingTxn) : Prop where
  lifted : txn.awaitingResume = true → txn'.awaitingResume = true ∨ c.Resumes id
  gated : txn'.awaitingResume = true → txn.awaitingResume = true ∨ c = .declarePending
  paused : txn.paused = true → txn'.paused = true ∨ c = .setPaused id false

theorem Flags.of_eq {c : SenderCall} {txn txn' : PendingTxn}
    (hgate : txn'.awaitingResume = txn.awaitingResume) (hpaused : txn'.paused = txn.paused) :
    Flags id c txn txn' :=
  ⟨fun h => .inl (hgate.trans h), fun h => .inl (hgate.symm.trans h),
    fun h => .inl (hpaused.trans h)⟩

/-- What a call can do to a transaction: nothing while it is not pending,
touch its clocks and flags, frame more of it (opening it first where it is
not pending), merge a report, or release it. -/
inductive Change (id : TxId) (c : SenderCall) : Option PendingTxn → Option PendingTxn → Prop
  | absent : Change id c none none
  | rests {txn txn' : PendingTxn} (hsteady : Steady txn txn') (hflags : Flags id c txn txn') :
      Change id c (some txn) (some txn')
  | grows {old : Option PendingTxn} {txn : PendingTxn} {chunk rest : Bytes} {ps : List Bytes}
      {now : ℕ} (hc : c.frames id = true)
      (hbase : old = some txn ∨ old = none ∧ c.Opens id ∧ ∃ total now, txn = .opened total now)
      (hroom : txn.written ≤ txn.totalLen.toNat →
        txn.written + chunk.length ≤ txn.totalLen.toNat)
      (hcut : ps.flatten ++ rest = txn.partialBytes ++ chunk) (hne : ∀ p ∈ ps, p ≠ []) :
      Change id c old (some ((txn.taken chunk).extend id ps rest now))
  | acked {txn : PendingTxn} (entry : AckEntry) (now : ℕ) :
      Change id c (some txn) (some (txn.acked entry now))
  | released {txn : PendingTxn} : Change id c (some txn) none

namespace Change

variable {c : SenderCall} {id' : TxId} {txn txn' : PendingTxn}

theorem refl (copy : Option PendingTxn) : Change id c copy copy := by
  cases copy with
  | none => exact .absent
  | some txn => exact .rests (.refl txn) (.of_eq rfl rfl)

/-- Framing without new bytes: the buffer goes out whole. -/
theorem flush {old : Option PendingTxn} {ps : List Bytes} (hc : c.frames id = true)
    (hbase : old = some txn ∨ old = none ∧ c.Opens id ∧ ∃ total now, txn = .opened total now)
    (hcut : ps.flatten = txn.partialBytes) (hne : ∀ p ∈ ps, p ≠ []) :
    Change id c old (some (txn.extend id ps [] now)) := by
  have hgrows : Change id c old (some ((txn.taken []).extend id ps [] now)) :=
    .grows hc hbase (fun h => h) (by rw [hcut]) hne
  rw [taken_nil] at hgrows
  exact hgrows

theorem opened {old : Option PendingTxn} (hc : c.frames id = true) (hopens : c.Opens id)
    (hold : old = none) (total : UInt32) (now : ℕ) :
    Change id c old (some (.opened total now)) := by
  have hflush : Change id c old (some ((PendingTxn.opened total now).extend id [] [] now)) :=
    .flush hc (.inr ⟨hold, hopens, total, now, rfl⟩) rfl (List.forall_mem_nil _)
  have hsame : (PendingTxn.opened total now).extend id [] [] now = .opened total now :=
    PendingTxn.extend_nil _
  rw [hsame] at hflush
  exact hflush

/-- A copy stored under one id changes that id only. -/
theorem insert (h : id' = id → Change id c (s.pending.get? id) (some txn)) :
    Change id c (s.pending.get? id)
      ((s.withPending (s.pending.insert id' txn)).pending.get? id) := by
  rw [TransactionSender.withPending_pending, Table.get?_insert]
  split
  · next heq => exact h heq.symm
  · exact .refl _

theorem erase :
    Change id c (s.pending.get? id) ((s.withPending (s.pending.erase id')).pending.get? id) := by
  rw [TransactionSender.withPending_pending, Table.get?_erase]
  split
  · cases s.pending.get? id with
    | none => exact .absent
    | some txn => exact .released
  · exact .refl _

/-- A pass over the copies that lets each rest. -/
theorem mapValues {f : TxId → PendingTxn → PendingTxn} (h : ∀ id txn, Steady txn (f id txn))
    (hflags : ∀ id txn, Flags id c txn (f id txn)) :
    Change id c (s.pending.get? id)
      ((s.withPending (s.pending.mapValues f)).pending.get? id) := by
  rw [TransactionSender.withPending_pending, Table.get?_mapValues]
  cases s.pending.get? id with
  | none => exact .absent
  | some txn => exact .rests (h id txn) (hflags id txn)

end Change

namespace TransactionSender

variable {txn : PendingTxn}

theorem change_openTransaction (s : TransactionSender) (id' : TxId) (total : UInt32) (now : ℕ) :
    Change id (.openTransaction id' total) (s.pending.get? id)
      ((s.openTransaction id' total now).2.pending.get? id) := by
  rw [openTransaction_eq]
  split
  · exact .refl _
  · next hdup =>
    split
    · exact .refl _
    · refine .insert fun hid => ?_
      subst hid
      have hnew : s.pending.get? id' = none := Option.not_isSome_iff_eq_none.1 hdup
      have hc : (SenderCall.openTransaction id' total).frames id' = true := decide_eq_true rfl
      exact .opened hc rfl hnew total now

theorem change_appendChunk (s : TransactionSender) (id' : TxId) (chunk : Bytes) (now : ℕ) :
    Change id (.appendChunk id' chunk) (s.pending.get? id)
      ((s.appendChunk id' chunk now).2.pending.get? id) := by
  cases h : s.appendChunk id' chunk now with
  | mk res s' =>
    cases res with
    | error e =>
      rw [appendChunk_error h]
      exact .refl _
    | ok out =>
      obtain ⟨txn, hget, hroom, -, rfl⟩ := appendChunk_ok h
      refine .insert fun hid => ?_
      subst hid
      exact .grows (decide_eq_true rfl) (.inl hget) (fun _ => hroom) (flatten_chunksExact _ _)
        fun p => ne_nil_of_mem_chunksExact s.frameSize_pos

theorem change_finishTransaction (s : TransactionSender) (id' : TxId) (now : ℕ) :
    Change id (.finishTransaction id') (s.pending.get? id)
      ((s.finishTransaction id' now).2.pending.get? id) := by
  cases hget : s.pending.get? id' with
  | none =>
    rw [finishTransaction_none hget]
    exact .refl _
  | some txn =>
    rw [finishTransaction_some hget]
    refine .insert fun hid => ?_
    subst hid
    exact .flush (decide_eq_true rfl) (.inl hget) (flatten_tailOf _) fun p => ne_nil_of_mem_tailOf

theorem change_beginTransaction (s : TransactionSender) (id' : TxId) (payload : Bytes) (now : ℕ) :
    Change id (.beginTransaction id' payload) (s.pending.get? id)
      ((s.beginTransaction id' payload now).2.pending.get? id) := by
  rw [beginTransaction_eq]
  split
  · exact .refl _
  · split
    · exact .refl _
    · next hdup =>
      have hnew : s.pending.get? id' = none := Option.not_isSome_iff_eq_none.1 hdup
      split
      · exact .refl _
      · split
        · -- the slot that is left open
          refine .insert fun hid => ?_
          subst hid
          have hc : (SenderCall.beginTransaction id' payload).frames id' = true :=
            decide_eq_true rfl
          exact .opened hc rfl hnew _ now
        · next hfits =>
          refine .insert fun hid => ?_
          subst hid
          refine .grows (decide_eq_true rfl) (.inr ⟨hnew, rfl, _, now, rfl⟩) (fun _ => ?_) ?_
            fun p => ne_nil_of_mem_splitPayload s.frameSize_pos
          · rw [opened_written, Nat.zero_add]
            exact Nat.le_of_not_lt hfits
          · rw [flatten_splitPayload, List.append_nil]
            rfl

theorem steady_setPaused (paused : Bool) (now : ℕ) (h : s.pending.get? id = some txn) :
    ∃ txn', (s.setPaused id paused now).2 = s.withPending (s.pending.insert id txn') ∧
      Steady txn txn' ∧ txn'.awaitingResume = txn.awaitingResume ∧ txn'.paused = paused := by
  unfold setPaused
  rw [h]
  refine ⟨_, rfl, ⟨⟨rfl, rfl, ?_, rfl, rfl, rfl⟩, rfl, ?_, fun h => h⟩, rfl, rfl⟩
  · dsimp only
    split
    · rfl
    · exact List.length_map _
  · dsimp only
    split
    · rfl
    · exact map_confirmed_setClock _ _

theorem change_setPaused (s : TransactionSender) (id' : TxId) (paused : Bool) (now : ℕ) :
    Change id (.setPaused id' paused) (s.pending.get? id)
      ((s.setPaused id' paused now).2.pending.get? id) := by
  cases hget : s.pending.get? id' with
  | none =>
    rw [setPaused_none hget]
    exact .refl _
  | some txn =>
    obtain ⟨txn', heq, hsteady, hgate, hpaused⟩ := steady_setPaused paused now hget
    rw [heq]
    refine .insert fun hid => ?_
    subst hid
    rw [hget]
    refine .rests hsteady ⟨fun h => .inl (hgate.trans h), fun h => .inl (hgate.symm.trans h),
      fun _ => ?_⟩
    cases paused with
    | false => exact .inr rfl
    | true => exact .inl hpaused

theorem change_handleAck (s : TransactionSender) (entry : AckEntry) (now : ℕ) :
    Change id (.handleAck entry) (s.pending.get? id)
      ((s.handleAck entry now).2.pending.get? id) := by
  cases hget : s.pending.get? entry.transactionId with
  | none =>
    rw [handleAck_none hget]
    exact .refl _
  | some txn =>
    rw [handleAck_some hget]
    split
    · exact .erase
    · refine .insert fun hid => ?_
      rw [← hid, hget]
      exact .acked entry now

theorem steady_handleNack (seqs : List UInt32) (now : ℕ) (h : s.pending.get? id = some txn) :
    ∃ txn', (s.handleNack id seqs now).2 = s.withPending (s.pending.insert id txn') ∧
      Steady txn txn' ∧ txn'.awaitingResume = txn.awaitingResume ∧
      txn'.paused = txn.paused := by
  unfold handleNack
  rw [h]
  dsimp only
  split
  · exact ⟨_, rfl, ⟨⟨rfl, rfl, rfl, rfl, rfl, rfl⟩, rfl, rfl, fun h => h⟩, rfl, rfl⟩
  · have hlen := ({ txn with lastProgressMs := now } : PendingTxn).nacked_spec
      now seqs txn.states []
    exact ⟨_, rfl, ⟨⟨rfl, rfl, hlen.1, rfl, rfl, rfl⟩, rfl, map_confirmed_nacked now seqs _ _,
      fun h => h⟩, rfl, rfl⟩

theorem change_handleNack (s : TransactionSender) (id' : TxId) (seqs : List UInt32) (now : ℕ) :
    Change id (.handleNack id' seqs) (s.pending.get? id)
      ((s.handleNack id' seqs now).2.pending.get? id) := by
  cases hget : s.pending.get? id' with
  | none =>
    rw [handleNack_none hget]
    exact .refl _
  | some txn =>
    obtain ⟨txn', heq, hsteady, hgate, hpaused⟩ := steady_handleNack seqs now hget
    rw [heq]
    refine .insert fun hid => ?_
    rw [← hid, hget]
    exact .rests hsteady (.of_eq hgate hpaused)

theorem change_timedOutDeclarations (s : TransactionSender) (timeoutMs now : ℕ) :
    Change id (.timedOutDeclarations timeoutMs) (s.pending.get? id)
      ((s.timedOutDeclarations now timeoutMs).2.pending.get? id) := by
  refine .mapValues (fun _ txn => ?_) fun _ txn => ?_
  · split
    · next htimed =>
      have hgate : txn.awaitingResume = true := (Bool.and_eq_true_iff.1 htimed).1
      exact ⟨⟨rfl, rfl, rfl, rfl, rfl, rfl⟩, rfl, rfl, fun _ => hgate⟩
    · exact .refl txn
  · split
    · exact .of_eq rfl rfl
    · exact .of_eq rfl rfl

theorem change_applyResumeVerdicts (s : TransactionSender) (entries : List ResumeStatusEntry)
    (now : ℕ) :
    Change id (.applyResumeVerdicts entries) (s.pending.get? id)
      ((s.applyResumeVerdicts entries now).2.pending.get? id) := by
  have hresponse := rel_applyResumeVerdicts (R := Subsides) Subsides.refl Subsides.trans
    (fun txn => txn.subsides_ungate now) (fun _ => subsides_resend) s entries id
  -- a gate is lifted only where an entry says so
  have hkept := (s.applyResumeVerdicts_adjudicates entries now).kept id
  have hreleased := (s.applyResumeVerdicts_adjudicates entries now).released id
  generalize (s.applyResumeVerdicts entries now).2.pending.get? id = copy
    at hresponse hkept hreleased ⊢
  generalize s.pending.get? id = old at hresponse hkept ⊢
  rcases hresponse with hrel | ⟨rfl, -⟩
  · cases hrel with
    | none => exact .absent
    | some hsub =>
      refine .rests hsub.toSteady ⟨fun hg => ?_, fun hg => .inl (hsub.quiet hg),
        fun hp => .inl (hsub.paused.trans hp)⟩
      have hopen := fun hmem => Option.some_ne_none _ (hreleased hmem)
      rcases hkept hopen with hsame | ⟨hresumed, -⟩
      · cases hsame
        exact .inl hg
      · exact .inr hresumed
  · cases old with
    | none => exact .absent
    | some txn => exact .released

/-- **What a call can do to a transaction.** -/
theorem apply_change (c : SenderCall) (s : TransactionSender) (now : ℕ) (id : TxId) :
    Change id c (s.pending.get? id) ((c.apply s now).2.pending.get? id) := by
  cases c with
  | openTransaction id' total => exact change_openTransaction s id' total now
  | appendChunk id' chunk => exact change_appendChunk s id' chunk now
  | finishTransaction id' => exact change_finishTransaction s id' now
  | beginTransaction id' payload => exact change_beginTransaction s id' payload now
  | setPaused id' paused => exact change_setPaused s id' paused now
  | abortTransaction id' => exact .erase
  | handleAck entry => exact change_handleAck s entry now
  | handleNack id' seqs => exact change_handleNack s id' seqs now
  | dueRetransmissions =>
    refine .mapValues (fun _ _ => steady_dueRetransmissions _) fun _ txn => ?_
    obtain ⟨hgate, hpaused⟩ := flags_dueRetransmissions s.config
    exact .of_eq hgate hpaused
  | declarePending =>
    exact .mapValues (fun _ _ => ⟨⟨rfl, rfl, rfl, rfl, rfl, rfl⟩, rfl, rfl, fun _ => rfl⟩)
      fun _ _ => ⟨fun _ => .inl rfl, fun _ => .inr rfl, fun h => .inl h⟩
  | timedOutDeclarations timeoutMs => exact change_timedOutDeclarations s timeoutMs now
  | applyResumeVerdicts entries => exact change_applyResumeVerdicts s entries now

/-! ## The rest of the sender -/

/-- What a call for one transaction can leave: the sender as it was, another
copy under the id, or none. -/
inductive Stored (s : TransactionSender) (id : TxId) : TransactionSender → Prop
  | same : Stored s id s
  | stored (txn : PendingTxn) : Stored s id (s.withPending (s.pending.insert id txn))
  | erased : Stored s id (s.withPending (s.pending.erase id))

theorem Stored.config {s' : TransactionSender} (h : Stored s id s') : s'.config = s.config := by
  cases h with
  | same | stored | erased => rfl

theorem Stored.get?_of_ne {id' : TxId} {s' : TransactionSender} (h : Stored s id' s')
    (hne : id' ≠ id) : s'.pending.get? id = s.pending.get? id := by
  cases h with
  | same => rfl
  | stored => exact Table.get?_insert_of_ne _ _ hne.symm
  | erased => exact Table.get?_erase_of_ne _ hne.symm

theorem stored_openTransaction (s : TransactionSender) (id : TxId) (total : UInt32) (now : ℕ) :
    Stored s id (s.openTransaction id total now).2 := by
  rw [openTransaction_eq]
  split
  · exact .same
  · split
    · exact .same
    · exact .stored _

theorem stored_appendChunk (s : TransactionSender) (id : TxId) (chunk : Bytes) (now : ℕ) :
    Stored s id (s.appendChunk id chunk now).2 := by
  cases h : s.appendChunk id chunk now with
  | mk res s' =>
    cases res with
    | error e =>
      rw [appendChunk_error h]
      exact .same
    | ok out =>
      obtain ⟨txn, -, -, -, rfl⟩ := appendChunk_ok h
      exact .stored _

theorem stored_finishTransaction (s : TransactionSender) (id : TxId) (now : ℕ) :
    Stored s id (s.finishTransaction id now).2 := by
  cases hget : s.pending.get? id with
  | none =>
    rw [finishTransaction_none hget]
    exact .same
  | some txn =>
    rw [finishTransaction_some hget]
    exact .stored _

theorem stored_beginTransaction (s : TransactionSender) (id : TxId) (payload : Bytes) (now : ℕ) :
    Stored s id (s.beginTransaction id payload now).2 := by
  rw [beginTransaction_eq]
  split
  · exact .same
  · split
    · exact .same
    · split
      · exact .same
      · split
        · exact .stored _
        · exact .stored _

theorem stored_setPaused (s : TransactionSender) (id : TxId) (paused : Bool) (now : ℕ) :
    Stored s id (s.setPaused id paused now).2 := by
  cases hget : s.pending.get? id with
  | none =>
    rw [setPaused_none hget]
    exact .same
  | some txn =>
    obtain ⟨txn', heq, -, -⟩ := steady_setPaused paused now hget
    rw [heq]
    exact .stored txn'

theorem stored_handleAck (s : TransactionSender) (entry : AckEntry) (now : ℕ) :
    Stored s entry.transactionId (s.handleAck entry now).2 := by
  cases hget : s.pending.get? entry.transactionId with
  | none =>
    rw [handleAck_none hget]
    exact .same
  | some txn =>
    rw [handleAck_some hget]
    split
    · exact .erased
    · exact .stored _

theorem stored_handleNack (s : TransactionSender) (id : TxId) (seqs : List UInt32) (now : ℕ) :
    Stored s id (s.handleNack id seqs now).2 := by
  cases hget : s.pending.get? id with
  | none =>
    rw [handleNack_none hget]
    exact .same
  | some txn =>
    obtain ⟨txn', heq, -, -⟩ := steady_handleNack seqs now hget
    rw [heq]
    exact .stored txn'

theorem stored_applyVerdict (s : TransactionSender) (entry : ResumeStatusEntry) (now : ℕ)
    (out : ResumeVerdicts) : Stored s entry.transactionId (s.applyVerdict entry now out).2 := by
  have hruling := applyVerdict_ruling s entry now out
  generalize s.applyVerdict entry now out = r at hruling ⊢
  cases hruling with
  | absent => exact .same
  | resumed => exact .stored _
  | confirmed | failed => exact .erased

theorem config_applyResumeVerdicts (s : TransactionSender) (entries : List ResumeStatusEntry)
    (now : ℕ) : (s.applyResumeVerdicts entries now).2.config = s.config := by
  unfold applyResumeVerdicts
  generalize (⟨[], [], []⟩ : ResumeVerdicts) = out
  induction entries generalizing s out with
  | nil => rfl
  | cons entry rest ih =>
    rw [applyVerdictsFrom]
    exact (ih _ _).trans (s.stored_applyVerdict entry now out).config

theorem get?_applyResumeVerdicts_of_ne {entries : List ResumeStatusEntry}
    (hne : ∀ entry ∈ entries, entry.transactionId ≠ id) :
    (s.applyResumeVerdicts entries now).2.pending.get? id = s.pending.get? id := by
  unfold applyResumeVerdicts
  generalize (⟨[], [], []⟩ : ResumeVerdicts) = out
  induction entries generalizing s out with
  | nil => rfl
  | cons entry rest ih =>
    rw [applyVerdictsFrom]
    exact (ih (fun e he => hne e (List.mem_cons_of_mem _ he)) _).trans
      ((s.stored_applyVerdict entry now out).get?_of_ne (hne entry List.mem_cons_self))

/-- **No call changes the configuration.** -/
theorem config_apply (c : SenderCall) (s : TransactionSender) (now : ℕ) :
    (c.apply s now).2.config = s.config := by
  cases c with
  | openTransaction id total => exact (s.stored_openTransaction id total now).config
  | appendChunk id chunk => exact (s.stored_appendChunk id chunk now).config
  | finishTransaction id => exact (s.stored_finishTransaction id now).config
  | beginTransaction id payload => exact (s.stored_beginTransaction id payload now).config
  | setPaused id paused => exact (s.stored_setPaused id paused now).config
  | abortTransaction id => rfl
  | handleAck entry => exact (s.stored_handleAck entry now).config
  | handleNack id seqs => exact (s.stored_handleNack id seqs now).config
  | dueRetransmissions | declarePending | timedOutDeclarations timeoutMs => rfl
  | applyResumeVerdicts entries => exact s.config_applyResumeVerdicts entries now

/-- **A call that does not touch a transaction leaves it alone.** -/
theorem get?_apply_of_not_touches {c : SenderCall} (h : ¬ c.Touches id) :
    (c.apply s now).2.pending.get? id = s.pending.get? id := by
  cases c with
  | openTransaction id' total => exact (s.stored_openTransaction id' total now).get?_of_ne h
  | appendChunk id' chunk => exact (s.stored_appendChunk id' chunk now).get?_of_ne h
  | finishTransaction id' => exact (s.stored_finishTransaction id' now).get?_of_ne h
  | beginTransaction id' payload => exact (s.stored_beginTransaction id' payload now).get?_of_ne h
  | setPaused id' paused => exact (s.stored_setPaused id' paused now).get?_of_ne h
  | abortTransaction id' => exact Stored.erased.get?_of_ne h
  | handleAck entry => exact (s.stored_handleAck entry now).get?_of_ne h
  | handleNack id' seqs => exact (s.stored_handleNack id' seqs now).get?_of_ne h
  | dueRetransmissions | declarePending | timedOutDeclarations timeoutMs => exact absurd trivial h
  | applyResumeVerdicts entries =>
    exact get?_applyResumeVerdicts_of_ne fun entry he hid => h ⟨entry, he, hid⟩

/-- **Every call keeps the frames under the id they carry.** -/
theorem OwnsFrames.apply (h : s.OwnsFrames) (c : SenderCall) (now : ℕ) :
    (c.apply s now).2.OwnsFrames := by
  intro id txn' hget
  have hchange := apply_change c s now id
  rw [hget] at hchange
  generalize hold : s.pending.get? id = old at hchange
  generalize hnew : some txn' = copy at hchange
  cases hchange with
  | absent | released => cases hnew
  | rests hsteady hflags =>
    cases hnew
    intro f hf
    rw [hsteady.frames] at hf
    exact h id _ hold f hf
  | acked =>
    cases hnew
    exact (h id _ hold).acked
  | @grows old base chunk rest ps now hc hbase hroom hcut hne =>
    cases hnew
    have howned : (base.taken chunk).OwnedBy id := by
      rcases hbase with rfl | ⟨-, -, total, now, rfl⟩
      · exact h id base hold
      · exact fun f hf => absurd hf List.not_mem_nil
    exact howned.extend

/-- **What a call returns belongs to a transaction it touches.** -/
theorem OwnsFrames.touches_of_mem (h : s.OwnsFrames) {c : SenderCall} {f : Frame}
    (hf : f ∈ (c.apply s now).1) : c.Touches f.transactionId := by
  cases c with
  | openTransaction | setPaused | abortTransaction | handleAck | declarePending
  | timedOutDeclarations => exact absurd hf List.not_mem_nil
  | appendChunk id chunk =>
    obtain ⟨out, hok, hf⟩ := mem_framesOf hf
    obtain ⟨txn, -, -, rfl, -⟩ := appendChunk_ok (Prod.ext hok rfl)
    exact (transactionId_of_mem_framesFrom hf).symm
  | finishTransaction id =>
    obtain ⟨out, hok, hf⟩ := mem_framesOf hf
    obtain ⟨txn, -, rfl, -⟩ := finishTransaction_ok (Prod.ext hok rfl)
    exact (transactionId_of_mem_framesFrom hf).symm
  | beginTransaction id payload =>
    obtain ⟨out, hok, hf⟩ := mem_framesOf hf
    obtain ⟨-, -, rfl⟩ := beginTransaction_ok (Prod.ext hok rfl)
    exact (transactionId_of_mem_framesFrom hf).symm
  | handleNack id seqs =>
    obtain ⟨txn, hget, hcopy⟩ := mem_handleNack hf
    exact (h id txn hget f hcopy).symm
  | dueRetransmissions => trivial
  | applyResumeVerdicts entries =>
    obtain ⟨id, txn, hentry, hget, hcopy⟩ :=
      (s.applyResumeVerdicts_adjudicates entries now).retransmit f hf
    exact ⟨_, hentry, (h id txn hget f hcopy).symm⟩

end TransactionSender

end Reliability

end Xacpp
