import Xacpp.Common.Absorb
import Xacpp.Reliability.Accounts
/-!
# Merging reports

Cumulative reports for one transaction may arrive in any order and any
number of times. A report merges two numbers by maximum, so on a copy
reports commute and absorb repetitions (`PendingTxn.acked_acked`); with the
release of a completed copy they still do (`absorbing_mergeOne`). Where a
run leaves the transaction then depends only on which reports it contains
(`reports_any_order`).
-/

namespace Xacpp

namespace Reliability

variable {id : TxId} {now : ℕ}

namespace PendingTxn

variable {txn : PendingTxn} {entry entry' : AckEntry} {c c' r r' n n' : ℕ}

/-- The index of the last frame; zero where there is none. -/
def lastIndex (txn : PendingTxn) : ℕ := txn.frameCount - 1

/-- How many frames a reported progress confirms. -/
def coveredBy (txn : PendingTxn) (contiguous : ℕ) : ℕ :=
  min (min contiguous txn.lastIndex + 1) txn.states.length

/-- A copy of which the peer has reported the two numbers. -/
def reported (txn : PendingTxn) (contiguous received now : ℕ) : PendingTxn :=
  { txn with
    ackedContiguous := some (min contiguous txn.lastIndex)
    ackedReceived := received
    lastProgressMs := now
    states := txn.states.mapIdx fun i state =>
      if i < txn.coveredBy contiguous then { state with confirmed := true } else state
    frames := blank (txn.coveredBy contiguous) txn.frames
    bytes := txn.bytes - payloadBytes (txn.frames.take (txn.coveredBy contiguous)).reduceOption }

theorem acked_eq_reported : txn.acked entry now =
    txn.reported (txn.merged entry) (max txn.ackedReceived entry.receivedFrames.toNat) now := by
  unfold acked reported
  simp only [foldl_sub_payload]
  rfl

theorem releasedBy_eq : txn.releasedBy entry =
    (txn.frames.take (txn.coveredBy (txn.merged entry))).reduceOption := rfl

@[simp] theorem lastIndex_reported : (txn.reported c r n).lastIndex = txn.lastIndex := by
  simp only [lastIndex, frameCount, reported, length_blank]

@[simp] theorem coveredBy_reported : (txn.reported c r n).coveredBy c' = txn.coveredBy c' := by
  unfold coveredBy
  rw [lastIndex_reported]
  simp only [reported, List.length_mapIdx]

theorem coveredBy_le (h : min c txn.lastIndex ≤ c') : txn.coveredBy c ≤ txn.coveredBy c' := by
  unfold coveredBy
  omega

theorem merged_reported :
    (txn.reported c r n).merged entry =
      max (min c txn.lastIndex) entry.highestContiguousSeq.toNat := rfl

/-- Confirming up to a bound and then up to a larger one. -/
theorem mapIdx_confirm {u u' : ℕ} (h : u ≤ u') (states : List FrameState) :
    (states.mapIdx fun i state =>
        if i < u then { state with confirmed := true } else state).mapIdx
      (fun i state => if i < u' then { state with confirmed := true } else state) =
    states.mapIdx fun i state => if i < u' then { state with confirmed := true } else state := by
  rw [List.mapIdx_mapIdx]
  congr 1
  funext i state
  simp only [Function.comp_apply]
  by_cases hu' : i < u'
  · rw [if_pos hu', if_pos hu']
    split
    · rfl
    · rfl
  · have hu : ¬ i < u := by omega
    rw [if_neg hu', if_neg hu, if_neg hu']

/-- What two reports release one after the other. -/
theorem released_reported (h : min c txn.lastIndex ≤ c') :
    (txn.frames.take (txn.coveredBy c)).reduceOption ++
        ((txn.reported c r n).frames.take (txn.coveredBy c')).reduceOption =
      (txn.frames.take (txn.coveredBy c')).reduceOption :=
  reduceOption_take_append (coveredBy_le h) txn.frames

theorem payloadBytes_append (frames frames' : List Frame) :
    payloadBytes (frames ++ frames') = payloadBytes frames + payloadBytes frames' := by
  rw [payloadBytes, List.map_append, List.sum_append, payloadBytes, payloadBytes]

/-- **A later report that covers the earlier one replaces it.** -/
theorem reported_reported (h : min c txn.lastIndex ≤ c') :
    (txn.reported c r n).reported c' r' n' = txn.reported c' r' n' := by
  have hle := coveredBy_le h
  have hbytes : (txn.reported c r n).bytes -
        payloadBytes ((txn.reported c r n).frames.take (txn.coveredBy c')).reduceOption =
      txn.bytes - payloadBytes (txn.frames.take (txn.coveredBy c')).reduceOption := by
    rw [← released_reported h, payloadBytes_append, ← Nat.sub_sub]
    rfl
  have hframes : blank (txn.coveredBy c') (txn.reported c r n).frames =
      blank (txn.coveredBy c') txn.frames := by
    have hblank : (txn.reported c r n).frames = blank (txn.coveredBy c) txn.frames := rfl
    rw [hblank, blank_blank, Nat.max_eq_right hle]
  have hstates := mapIdx_confirm hle txn.states
  rw [reported, lastIndex_reported, coveredBy_reported, hbytes, hframes]
  unfold reported
  simp only [hstates]

theorem reported_congr (h : min c txn.lastIndex = min c' txn.lastIndex) :
    txn.reported c r n = txn.reported c' r n := by
  unfold reported coveredBy
  rw [h]

/-- **Two reports**: what is left does not depend on which came first. -/
theorem acked_acked : (txn.acked entry n).acked entry' n' =
    txn.reported (max (txn.merged entry) entry'.highestContiguousSeq.toNat)
      (max (max txn.ackedReceived entry.receivedFrames.toNat) entry'.receivedFrames.toNat) n' := by
  rw [acked_eq_reported, acked_eq_reported, merged_reported,
    reported_reported (Nat.le_max_left _ _)]
  refine reported_congr ?_
  omega

theorem max_merged_comm :
    max (txn.merged entry) entry'.highestContiguousSeq.toNat =
      max (txn.merged entry') entry.highestContiguousSeq.toNat := by
  unfold merged
  cases txn.ackedContiguous with
  | none => exact Nat.max_comm _ _
  | some h =>
    dsimp only
    omega

theorem acked_comm :
    (txn.acked entry n).acked entry' now = (txn.acked entry' n').acked entry now := by
  rw [acked_acked, acked_acked, max_merged_comm, Nat.max_right_comm]

theorem max_merged_self :
    max (txn.merged entry) entry.highestContiguousSeq.toNat = txn.merged entry := by
  unfold merged
  cases txn.ackedContiguous with
  | none => exact Nat.max_self _
  | some h =>
    dsimp only
    omega

theorem acked_idem : (txn.acked entry n).acked entry now = txn.acked entry now := by
  rw [acked_acked, acked_eq_reported, max_merged_self, Nat.max_assoc, Nat.max_self]

/-! ## Completion -/

theorem frameCount_acked : (txn.acked entry now).frameCount = txn.frameCount := by
  simp only [frameCount, acked_frames, length_blank]

/-- A completed copy has its last frame covered. -/
theorem min_merged_of_isFullyAcked (h : (txn.acked entry now).isFullyAcked = true) :
    min (txn.merged entry) txn.lastIndex = txn.lastIndex := by
  have hlast := (Bool.and_eq_true_iff.1 h).2
  rw [frameCount_acked] at hlast
  rw [lastIndex]
  split at hlast
  · cases hlast
  · next last hcount =>
    have hprogress := of_decide_eq_true (Bool.and_eq_true_iff.1 hlast).1
    have hclamped : (txn.acked entry now).ackedContiguous =
        some (min (txn.merged entry) (txn.frameCount - 1)) := rfl
    rw [hclamped, Option.some.injEq] at hprogress
    rw [hprogress, hcount]
    rfl

/-- **A completed copy stays complete**, whatever is reported next. -/
theorem isFullyAcked_acked (h : txn.isFullyAcked = true) :
    (txn.acked entry now).isFullyAcked = true := by
  unfold isFullyAcked at h ⊢
  rw [frameCount_acked]
  obtain ⟨hsent, hlast⟩ := Bool.and_eq_true_iff.1 h
  refine Bool.and_eq_true_iff.2 ⟨hsent, ?_⟩
  split at hlast
  · cases hlast
  · next last hcount =>
    obtain ⟨hprogress, hreceived⟩ := Bool.and_eq_true_iff.1 hlast
    refine Bool.and_eq_true_iff.2 ⟨decide_eq_true ?_, decide_eq_true ?_⟩
    · have hclamped : (txn.acked entry now).ackedContiguous =
          some (min (txn.merged entry) (txn.frameCount - 1)) := rfl
      rw [hclamped, hcount, merged, of_decide_eq_true hprogress]
      simp only [Option.some.injEq]
      omega
    · exact (of_decide_eq_true hreceived).trans (Nat.le_max_left _ _)

/-- What two reports release together. -/
def releasedBoth (txn : PendingTxn) (entry entry' : AckEntry) : List Frame :=
  (txn.frames.take (txn.coveredBy
    (max (txn.merged entry) entry'.highestContiguousSeq.toNat))).reduceOption

theorem releasedBy_acked :
    txn.releasedBy entry ++ (txn.acked entry now).releasedBy entry' =
      txn.releasedBoth entry entry' := by
  rw [releasedBy_eq, releasedBy_eq, acked_eq_reported, coveredBy_reported, merged_reported,
    released_reported (Nat.le_max_left _ _), releasedBoth]
  unfold coveredBy
  congr 3
  omega

theorem releasedBy_of_isFullyAcked (h : (txn.acked entry now).isFullyAcked = true) :
    txn.releasedBy entry = txn.releasedBoth entry entry' := by
  have hlast := min_merged_of_isFullyAcked h
  rw [releasedBy_eq, releasedBoth]
  unfold coveredBy
  congr 3
  omega

/-- One report to a copy that may be gone, with what has been released so
far. The instant of the report is left out. -/
def mergeOne (held : List Frame × Option PendingTxn) (entry : AckEntry) :
    List Frame × Option PendingTxn :=
  (held.1 ++ (held.2.map fun txn => txn.releasedBy entry).getD [], held.2.bind (ackOne 0 entry))

theorem mergeOne_none (released : List Frame) :
    mergeOne (released, none) entry = (released, none) := by
  simp only [mergeOne, Option.map_none, Option.getD_none, List.append_nil, Option.bind_none]

/-- **Two reports**, with the release of a completed copy. -/
theorem mergeOne_mergeOne (released : List Frame) :
    mergeOne (mergeOne (released, some txn) entry) entry' =
      (released ++ txn.releasedBoth entry entry',
        if ((txn.acked entry 0).acked entry' 0).isFullyAcked then none
        else some ((txn.acked entry 0).acked entry' 0)) := by
  have hone : mergeOne (released, some txn) entry =
      (released ++ txn.releasedBy entry, ackOne 0 entry txn) := rfl
  rw [hone, ackOne]
  split
  · next hfull =>
    have hboth : ((txn.acked entry 0).acked entry' 0).isFullyAcked = true :=
      isFullyAcked_acked hfull
    rw [mergeOne_none, if_pos hboth, releasedBy_of_isFullyAcked hfull]
  · rw [← releasedBy_acked, ← List.append_assoc]
    rfl

/-- **Reports commute and absorb repetitions.** -/
theorem absorbing_mergeOne : Absorbing mergeOne where
  comm held entry entry' := by
    obtain ⟨released, copy⟩ := held
    cases copy with
    | none => rw [mergeOne_none, mergeOne_none, mergeOne_none]
    | some txn =>
      rw [mergeOne_mergeOne, mergeOne_mergeOne, acked_comm, releasedBoth, releasedBoth,
        max_merged_comm]
  idem held entry := by
    obtain ⟨released, copy⟩ := held
    cases copy with
    | none => rw [mergeOne_none, mergeOne_none]
    | some txn =>
      rw [mergeOne_mergeOne, acked_idem, releasedBoth, max_merged_self, ← releasedBy_eq]
      rfl

/-- The copy without the instant of its last progress. -/
def timeless (txn : PendingTxn) : PendingTxn := { txn with lastProgressMs := 0 }

/-- A report at any instant, the instant left out. -/
theorem mergeOne_timeless (released : List Frame) (now : ℕ) :
    mergeOne (released, some txn.timeless) entry =
      (released ++ txn.releasedBy entry, (ackOne now entry txn).map timeless) := by
  have hone : mergeOne (released, some txn.timeless) entry =
      (released ++ txn.releasedBy entry,
        if (txn.acked entry now).isFullyAcked then none
        else some (txn.acked entry now).timeless) := rfl
  rw [hone, ackOne]
  split
  · rfl
  · rfl

end PendingTxn

/-! ## Runs in which a transaction sees only reports -/

/-- The report a call brings to the transaction. -/
def SenderCall.ackOf (id : TxId) : SenderCall → Option AckEntry
  | handleAck entry => if entry.transactionId = id then some entry else none
  | openTransaction .. | appendChunk .. | finishTransaction _ | beginTransaction .. | setPaused ..
  | abortTransaction _ | handleNack .. | dueRetransmissions | declarePending
  | timedOutDeclarations _ | applyResumeVerdicts _ => none

theorem SenderCall.eq_of_ackOf {c : SenderCall} {entry : AckEntry} (h : c.ackOf id = some entry) :
    c = .handleAck entry ∧ entry.transactionId = id := by
  cases c with
  | handleAck entry' =>
    simp only [SenderCall.ackOf] at h
    split at h
    · next hid =>
      cases h
      exact ⟨rfl, hid⟩
    · cases h
  | openTransaction | appendChunk | finishTransaction | beginTransaction | setPaused
  | abortTransaction | handleNack | dueRetransmissions | declarePending | timedOutDeclarations
  | applyResumeVerdicts => cases h

namespace TransactionSender

open PendingTxn

variable {s s₁ s₂ : TransactionSender} {as as' : List (SenderCall × ℕ)}

/-- The reports of a list of calls for the transaction. -/
def acksOf (id : TxId) (as : List (SenderCall × ℕ)) : List AckEntry :=
  as.filterMap fun a => a.1.ackOf id

/-- Nothing but reports is done to the transaction. -/
def OnlyAcks (id : TxId) (as : List (SenderCall × ℕ)) : Prop :=
  ∀ a ∈ as, a.1.Touches id → (a.1.ackOf id).isSome = true

/-- The frames of the transaction a call releases by a report. -/
def releasedAt (id : TxId) (s : TransactionSender) (a : SenderCall × ℕ) : List Frame :=
  (a.1.ackOf id).elim [] fun entry =>
    ((s.pending.get? id).map fun txn => txn.releasedBy entry).getD []

/-- The call, where it is a report that completes the transaction. -/
def completedAt (id : TxId) (s : TransactionSender) (a : SenderCall × ℕ) :
    List (SenderCall × ℕ) :=
  (a.1.ackOf id).elim [] fun entry => if (s.handleAck entry a.2).1 then [a] else []

theorem get?_handleAck (s : TransactionSender) (entry : AckEntry) (now : ℕ) :
    (s.handleAck entry now).2.pending.get? entry.transactionId =
      (s.pending.get? entry.transactionId).bind (ackOne now entry) := by
  cases hget : s.pending.get? entry.transactionId with
  | none => rw [handleAck_none hget, hget, Option.bind_none]
  | some txn =>
    rw [handleAck_some hget, Option.bind_some, ackOne]
    split
    · exact get?_withPending_erase
    · exact get?_withPending_insert

/-- **A run is a fold of its reports**, at the transaction. -/
theorem run_reports (hrun : run step s as = some s₁) (honly : OnlyAcks id as)
    (released : List Frame) :
    (acksOf id as).foldl mergeOne (released, (s.pending.get? id).map timeless) =
      (released ++ outputs step (releasedAt id) s as, (s₁.pending.get? id).map timeless) := by
  induction as generalizing s released with
  | nil =>
    cases hrun
    rw [outputs, List.append_nil]
    rfl
  | cons a as ih =>
    have hrest := ih (s := (a.1.apply s a.2).2) hrun fun b hb => honly b (List.mem_cons_of_mem a hb)
    have houtputs : outputs step (releasedAt id) s (a :: as) =
        releasedAt id s a ++ outputs step (releasedAt id) (a.1.apply s a.2).2 as := rfl
    rw [houtputs, ← List.append_assoc]
    cases hack : a.1.ackOf id with
    | none =>
      have hother : ¬ a.1.Touches id := fun htouch => by
        have hsome := honly a List.mem_cons_self htouch
        rw [hack] at hsome
        cases hsome
      have hacks : acksOf id (a :: as) = acksOf id as := List.filterMap_cons_none hack
      have hnone : releasedAt id s a = [] := by rw [releasedAt, hack]; rfl
      rw [hacks, hnone, List.append_nil, ← hrest, get?_apply_of_not_touches hother]
    | some entry =>
      obtain ⟨hc, hid⟩ := SenderCall.eq_of_ackOf hack
      have hacks : acksOf id (a :: as) = entry :: acksOf id as := List.filterMap_cons_some hack
      have hcopy : (a.1.apply s a.2).2.pending.get? id =
          (s.pending.get? id).bind (ackOne a.2 entry) := by
        rw [hc, ← hid]
        exact s.get?_handleAck entry a.2
      rw [hacks, List.foldl_cons, ← hrest, hcopy]
      congr 1
      cases hget : s.pending.get? id with
      | none =>
        have hnone : releasedAt id s a = [] := by rw [releasedAt, hack, hget]; rfl
        rw [hnone, List.append_nil, Option.map_none, mergeOne_none]
        rfl
      | some txn =>
        have hsome : releasedAt id s a = txn.releasedBy entry := by rw [releasedAt, hack, hget]; rfl
        rw [hsome, Option.map_some, mergeOne_timeless released a.2, Option.bind_some]

theorem OnlyAcks.tail {a : SenderCall × ℕ} (h : OnlyAcks id (a :: as)) : OnlyAcks id as :=
  fun b hb => h b (List.mem_cons_of_mem a hb)

/-- A transaction that is gone stays gone. -/
theorem get?_apply_of_onlyAcks {a : SenderCall × ℕ} (honly : OnlyAcks id (a :: as))
    (hgone : s.pending.get? id = none) : (a.1.apply s a.2).2.pending.get? id = none := by
  by_cases htouch : a.1.Touches id
  · obtain ⟨entry, hack⟩ := Option.isSome_iff_exists.1 (honly a List.mem_cons_self htouch)
    obtain ⟨hc, hid⟩ := SenderCall.eq_of_ackOf hack
    have hget := s.get?_handleAck entry a.2
    rw [hid, hgone] at hget
    rw [hc]
    exact hget
  · rw [get?_apply_of_not_touches htouch, hgone]

/-- And no report completes it. -/
theorem completed_of_gone (honly : OnlyAcks id as) (hgone : s.pending.get? id = none) :
    outputs step (completedAt id) s as = [] := by
  induction as generalizing s with
  | nil => rfl
  | cons a as ih =>
    have hrest := ih (s := (a.1.apply s a.2).2) honly.tail (get?_apply_of_onlyAcks honly hgone)
    have hnone : completedAt id s a = [] := by
      rw [completedAt]
      cases hack : a.1.ackOf id with
      | none => rfl
      | some entry =>
        obtain ⟨-, hid⟩ := SenderCall.eq_of_ackOf hack
        rw [← hid] at hgone
        rw [Option.elim_some, handleAck_none hgone]
        rfl
    have houtputs : outputs step (completedAt id) s (a :: as) =
        completedAt id s a ++ outputs step (completedAt id) (a.1.apply s a.2).2 as := rfl
    rw [houtputs, hnone, hrest]
    rfl

/-- **At most one report completes the transaction.** -/
theorem completed_length_le (honly : OnlyAcks id as) :
    (outputs step (completedAt id) s as).length ≤ 1 := by
  induction as generalizing s with
  | nil => exact Nat.zero_le 1
  | cons a as ih =>
    have houtputs : outputs step (completedAt id) s (a :: as) =
        completedAt id s a ++ outputs step (completedAt id) (a.1.apply s a.2).2 as := rfl
    rw [houtputs]
    cases hack : a.1.ackOf id with
    | none =>
      have hnone : completedAt id s a = [] := by rw [completedAt, hack]; rfl
      rw [hnone, List.nil_append]
      exact ih honly.tail
    | some entry =>
      have hone : completedAt id s a = if (s.handleAck entry a.2).1 then [a] else [] := by
        rw [completedAt, hack]
        rfl
      rw [hone]
      split
      · next hdone =>
        -- the copy is released with it, so nothing is left to complete
        obtain ⟨hc, hid⟩ := SenderCall.eq_of_ackOf hack
        have hgone : (a.1.apply s a.2).2.pending.get? id = none := by
          rw [hc]
          cases hget : s.pending.get? entry.transactionId with
          | none =>
            rw [handleAck_none hget] at hdone
            cases hdone
          | some txn =>
            rw [handleAck_some hget] at hdone
            simp only [SenderCall.apply, handleAck_some hget]
            split at hdone
            · next hfull => rw [if_pos hfull, ← hid, get?_withPending_erase]
            · cases hdone
        rw [completed_of_gone honly.tail hgone, List.append_nil]
        exact Nat.le_refl 1
      · rw [List.nil_append]
        exact ih honly.tail

/-- Copies that differ in the instant of their progress hold the same. -/
theorem unackedBytes_of_timeless (h : ∀ id, (s₁.pending.get? id).map timeless =
    (s₂.pending.get? id).map timeless) : s₁.unackedBytes = s₂.unackedBytes := by
  have hclear : ∀ s : TransactionSender,
      (s.withPending (s.pending.mapValues fun _ => timeless)).unackedBytes = s.unackedBytes :=
    fun s => unackedBytes_mapValues fun _ _ => rfl
  rw [← hclear s₁, ← hclear s₂]
  refine Table.sum_values_congr PendingTxn.bytes fun id => ?_
  rw [withPending_pending, withPending_pending, Table.get?_mapValues, Table.get?_mapValues]
  exact h id

/-- Calls that are all reports to the transaction change nothing else. -/
theorem run_only_reports (hrun : run step s as = some s₁)
    (hall : ∀ a ∈ as, (a.1.ackOf id).isSome = true) :
    s₁.config = s.config ∧ ∀ id', id' ≠ id → s₁.pending.get? id' = s.pending.get? id' := by
  induction as generalizing s with
  | nil =>
    cases hrun
    exact ⟨rfl, fun _ _ => rfl⟩
  | cons a as ih =>
    obtain ⟨hconfig, hothers⟩ := ih (s := (a.1.apply s a.2).2) hrun
      fun b hb => hall b (List.mem_cons_of_mem a hb)
    refine ⟨hconfig.trans (config_apply _ _ _), fun id' hne => (hothers id' hne).trans ?_⟩
    obtain ⟨entry, hack⟩ := Option.isSome_iff_exists.1 (hall a List.mem_cons_self)
    obtain ⟨hc, hid⟩ := SenderCall.eq_of_ackOf hack
    refine get?_apply_of_not_touches fun htouch => hne ?_
    rw [hc] at htouch
    exact htouch.symm.trans hid

/-- **Reports may come in any order and any number of times.** In two runs
that bring the transaction the same reports and nothing else, the same
frames are released, the same copy is left up to the instant of its last
progress, or none in either, and at most one report completes it. Where the
runs are these reports alone, the senders they leave are the same. -/
theorem reports_any_order (hrun : run step s as = some s₁) (hrun' : run step s as' = some s₂)
    (honly : OnlyAcks id as) (honly' : OnlyAcks id as')
    (hsame : ∀ entry, entry ∈ acksOf id as ↔ entry ∈ acksOf id as') :
    (s₁.pending.get? id).map timeless = (s₂.pending.get? id).map timeless ∧
      s₁.containsTransaction id = s₂.containsTransaction id ∧
      outputs step (releasedAt id) s as = outputs step (releasedAt id) s as' ∧
      (outputs step (completedAt id) s as).length ≤ 1 ∧
      ((∀ a ∈ as ++ as', (a.1.ackOf id).isSome = true) →
        s₁.config = s₂.config ∧ s₁.unackedBytes = s₂.unackedBytes ∧
          ∀ id', (s₁.pending.get? id').map timeless = (s₂.pending.get? id').map timeless) := by
  have hfold := absorbing_mergeOne.foldl_eq_of_mem_iff hsame ([], (s.pending.get? id).map timeless)
  rw [run_reports hrun honly, run_reports hrun' honly', List.nil_append, List.nil_append,
    Prod.mk.injEq] at hfold
  obtain ⟨hreleased, hcopy⟩ := hfold
  have hpresent : s₁.containsTransaction id = s₂.containsTransaction id := by
    have hsome := congrArg Option.isSome hcopy
    rw [Option.isSome_map, Option.isSome_map] at hsome
    exact hsome
  refine ⟨hcopy, hpresent, hreleased, completed_length_le honly, fun hall => ?_⟩
  obtain ⟨hconfig, hothers⟩ := run_only_reports hrun fun a ha => hall a (List.mem_append_left _ ha)
  obtain ⟨hconfig', hothers'⟩ :=
    run_only_reports hrun' fun a ha => hall a (List.mem_append_right _ ha)
  have hcopies : ∀ id', (s₁.pending.get? id').map timeless =
      (s₂.pending.get? id').map timeless := by
    intro id'
    by_cases hid : id' = id
    · rw [hid]
      exact hcopy
    · rw [hothers id' hid, hothers' id' hid]
  exact ⟨hconfig.trans hconfig'.symm, unackedBytes_of_timeless hcopies, hcopies⟩

namespace Sample

/-- Three frames of two bytes. -/
def threeFrames : TransactionSender :=
  ((new { frameSize := 2 }).beginTransaction zeroId [1, 2, 3, 4, 5, 6] 0).2

/-- A report beyond the last frame, and two that lag behind it. -/
def inOrder : List (SenderCall × ℕ) :=
  [(.handleAck ⟨zeroId, 0, 1⟩, 1), (.handleAck ⟨zeroId, 9, 2⟩, 2), (.handleAck ⟨zeroId, 1, 3⟩, 3)]

def shuffled : List (SenderCall × ℕ) :=
  [(.handleAck ⟨zeroId, 9, 2⟩, 4), (.handleAck ⟨zeroId, 1, 3⟩, 5), (.handleAck ⟨zeroId, 9, 2⟩, 6),
    (.handleAck ⟨zeroId, 0, 1⟩, 7)]

end Sample

theorem reports_any_order_sample :
    (∀ entry, entry ∈ acksOf zeroId Sample.inOrder ↔ entry ∈ acksOf zeroId Sample.shuffled) ∧
      outputs step (completedAt zeroId) Sample.threeFrames Sample.inOrder =
        [(.handleAck ⟨zeroId, 1, 3⟩, 3)] ∧
      outputs step (releasedAt zeroId) Sample.threeFrames Sample.inOrder =
        outputs step (releasedAt zeroId) Sample.threeFrames Sample.shuffled ∧
      payloadBytes (outputs step (releasedAt zeroId) Sample.threeFrames Sample.shuffled) = 6 := by
  have hperm : ∀ entry, entry ∈ acksOf zeroId Sample.inOrder ↔
      entry ∈ acksOf zeroId Sample.shuffled := by
    have hinOrder : acksOf zeroId Sample.inOrder =
        [⟨zeroId, 0, 1⟩, ⟨zeroId, 9, 2⟩, ⟨zeroId, 1, 3⟩] := by decide
    have hshuffled : acksOf zeroId Sample.shuffled =
        [⟨zeroId, 9, 2⟩, ⟨zeroId, 1, 3⟩, ⟨zeroId, 9, 2⟩, ⟨zeroId, 0, 1⟩] := by decide
    intro entry
    rw [hinOrder, hshuffled]
    simp only [List.mem_cons, List.not_mem_nil, or_false]
    tauto
  have hacks : ∀ as, (∀ a ∈ as, (a.1.ackOf zeroId).isSome = true) → OnlyAcks zeroId as :=
    fun as h a ha _ => h a ha
  have hreports := reports_any_order (s := Sample.threeFrames) rfl rfl
    (hacks Sample.inOrder (by decide)) (hacks Sample.shuffled (by decide)) hperm
  exact ⟨hperm, by decide, hreports.2.2.1, by decide⟩

end TransactionSender

end Reliability

end Xacpp
