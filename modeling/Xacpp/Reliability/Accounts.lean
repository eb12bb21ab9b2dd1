import Xacpp.Common.Release
import Xacpp.Reliability.Holding
/-!
# The sender's accounts

`PendingTxn.Kept` is the shape every copy has, whatever the peer reports:
the payloads framed so far, a front part of them confirmed and released,
and counters that add up. `sender_sound` says it in the source's own terms,
and with it what the code rests on without checking: the slices and indices
of `handle_ack` and `handle_nack` are in range, no subtraction saturates,
and an unconfirmed frame has its copy (`PendingTxn.InRange`).
`unackedBytes_le_cap` is the bound over all copies.
-/

namespace Xacpp

namespace Reliability

variable {id : TxId} {total : UInt32} {now : ℕ}

/-- The payload bytes of a list of frames. -/
def payloadBytes (frames : List Frame) : ℕ := (frames.map fun f => f.payload.length).sum

theorem payloadBytes_framesFrom (start : ℕ) (ps : List Bytes) :
    payloadBytes (framesFrom id total start ps) = ps.flatten.length := by
  have hmap : (framesFrom id total start ps).map (fun f => f.payload.length) =
      ((framesFrom id total start ps).map Frame.payload).map List.length := by
    rw [List.map_map]
    rfl
  rw [payloadBytes, hmap, map_payload_framesFrom, List.length_flatten]

theorem foldl_sub_payload (frames : List Frame) (held : ℕ) :
    frames.foldl (fun held frame => held - frame.payload.length) held =
      held - payloadBytes frames := by
  induction frames generalizing held with
  | nil => rfl
  | cons f frames ih =>
    rw [List.foldl_cons, ih, payloadBytes, payloadBytes, List.map_cons, List.sum_cons, Nat.sub_sub]

theorem drop_framesFrom (start n : ℕ) (ps : List Bytes) :
    (framesFrom id total start ps).drop n = framesFrom id total (start + n) (ps.drop n) := by
  refine List.ext_getElem? fun i => ?_
  rw [List.getElem?_drop, getElem?_framesFrom, getElem?_framesFrom, List.getElem?_drop,
    Nat.add_assoc]

theorem take_framesFrom (start n : ℕ) (ps : List Bytes) :
    (framesFrom id total start ps).take n = framesFrom id total start (ps.take n) := by
  refine List.ext_getElem? fun i => ?_
  rw [List.getElem?_take, getElem?_framesFrom, getElem?_framesFrom, List.getElem?_take]
  split
  · rfl
  · rfl

namespace PendingTxn

variable {txn txn' : PendingTxn} {framed ps : List Bytes} {chunk rest : Bytes} {n : ℕ}
  {entry : AckEntry}

/-- How many frames a report confirms. -/
def confirmedUpTo (txn : PendingTxn) (entry : AckEntry) : ℕ :=
  min (min (txn.merged entry) (txn.frameCount - 1) + 1) txn.states.length

/-- The frames a report releases. -/
def releasedBy (txn : PendingTxn) (entry : AckEntry) : List Frame :=
  (txn.frames.take (txn.confirmedUpTo entry)).reduceOption

theorem acked_frames :
    (txn.acked entry now).frames = blank (txn.confirmedUpTo entry) txn.frames := rfl

theorem acked_states : (txn.acked entry now).states = txn.states.mapIdx fun i state =>
    if i < txn.confirmedUpTo entry then { state with confirmed := true } else state := rfl

theorem extend_states : (txn.extend id ps rest now).states = txn.states ++
    List.replicate ps.length { confirmed := false, lastSentMs := now, attempts := 0 } := rfl

theorem acked_bytes :
    (txn.acked entry now).bytes = txn.bytes - payloadBytes (txn.releasedBy entry) :=
  foldl_sub_payload _ _

/-- **The shape of a copy**: the payloads framed so far, the first `n` of
them confirmed and released, and the counters that go with it. -/
structure Kept (txn : PendingTxn) (id : TxId) (framed : List Bytes) (n : ℕ) : Prop where
  holds : txn.Holds id txn.totalLen framed (framed.flatten ++ txn.partialBytes)
  le_length : n ≤ framed.length
  frames : txn.frames = releaseUpTo n (framesFrom id txn.totalLen 0 framed)
  confirmed : ∀ i state, txn.states[i]? = some state → (state.confirmed = true ↔ i < n)
  bytes : txn.bytes = (framed.drop n).flatten.length + txn.partialBytes.length
  gate : txn.awaitingResume = txn.declaredMs.isSome

theorem Kept.opened (id : TxId) (total : UInt32) (now : ℕ) : (opened total now).Kept id [] 0 where
  holds := Holds.opened rfl rfl rfl rfl rfl
  le_length := Nat.le_refl 0
  frames := rfl
  confirmed i state hstate := by cases hstate
  bytes := rfl
  gate := rfl

theorem Kept.steady (h : txn.Kept id framed n) (hsteady : Steady txn txn') :
    txn'.Kept id framed n where
  holds := by
    rw [hsteady.totalLen, hsteady.partialBytes]
    exact h.holds.congr hsteady.toSameCopy
  le_length := h.le_length
  frames := by rw [hsteady.frames, hsteady.totalLen, h.frames]
  confirmed i state hstate := by
    have hflag := congrArg (fun flags : List Bool => flags[i]?) hsteady.confirmed
    simp only [List.getElem?_map, hstate, Option.map_some] at hflag
    obtain ⟨state', hstate', heq⟩ := Option.map_eq_some_iff.1 hflag.symm
    rw [← heq]
    exact h.confirmed i state' hstate'
  bytes := by rw [hsteady.bytes, hsteady.partialBytes, h.bytes]
  gate := hsteady.gate h.gate

theorem Kept.length_frames (h : txn.Kept id framed n) : txn.frames.length = framed.length :=
  h.holds.frames_length

theorem Kept.grows (h : txn.Kept id framed n)
    (hroom : txn.written + chunk.length ≤ txn.totalLen.toNat)
    (hcut : ps.flatten ++ rest = txn.partialBytes ++ chunk) (hne : ∀ p ∈ ps, p ≠ []) (now : ℕ) :
    ((txn.taken chunk).extend id ps rest now).Kept id (framed ++ ps) n where
  holds := by
    have hbytes : (framed ++ ps).flatten ++ rest =
        (framed.flatten ++ txn.partialBytes) ++ chunk := by
      rw [List.flatten_append, List.append_assoc, hcut, List.append_assoc]
    have hholds := (h.holds.taken hroom).extend now hcut hne
    rw [← hbytes] at hholds
    exact hholds
  le_length := by
    rw [List.length_append]
    exact Nat.le_add_right_of_le h.le_length
  frames := by
    have hle : n ≤ (framesFrom id txn.totalLen 0 framed).length := by
      rw [length_framesFrom]
      exact h.le_length
    rw [extend_totalLen, taken_totalLen, framesFrom_append, releaseUpTo_append hle, Nat.zero_add,
      ← h.frames, ← h.length_frames]
    rfl
  confirmed i state hstate := by
    rw [extend_states, List.getElem?_append] at hstate
    split at hstate
    · exact h.confirmed i state hstate
    · next hi =>
      have hle : framed.length ≤ i := h.holds.states_length ▸ Nat.le_of_not_lt hi
      rw [List.eq_of_mem_replicate (List.mem_of_getElem? hstate)]
      refine ⟨fun hfalse => (by cases hfalse), fun hlt => ?_⟩
      exact absurd (hlt.trans_le h.le_length) (by omega)
  bytes := by
    have hlen := congrArg List.length hcut
    rw [List.length_append, List.length_append] at hlen
    have hheld : ((txn.taken chunk).extend id ps rest now).bytes = txn.bytes + chunk.length := rfl
    rw [hheld, h.bytes, extend_partialBytes, List.drop_append_of_le_length h.le_length,
      List.flatten_append, List.length_append]
    omega
  gate := h.gate

/-! ## Reports -/

theorem Kept.length_states (h : txn.Kept id framed n) : txn.states.length = framed.length :=
  h.holds.states_length

theorem Kept.confirmedUpTo_le (h : txn.Kept id framed n) (entry : AckEntry) :
    txn.confirmedUpTo entry ≤ framed.length :=
  (Nat.min_le_right _ _).trans h.length_states.le

/-- What a report releases: the part between the two bounds. -/
theorem Kept.releasedBy (h : txn.Kept id framed n) (entry : AckEntry) :
    txn.releasedBy entry =
      framesFrom id txn.totalLen n ((framed.take (txn.confirmedUpTo entry)).drop n) := by
  rw [PendingTxn.releasedBy, h.frames, reduceOption_take_releaseUpTo, take_framesFrom,
    drop_framesFrom, Nat.zero_add]

/-- The held bytes split into what a report releases and what it leaves. -/
theorem Kept.bytes_split (h : txn.Kept id framed n) (entry : AckEntry) :
    txn.bytes = payloadBytes (txn.releasedBy entry) +
      ((framed.drop (max n (txn.confirmedUpTo entry))).flatten.length +
        txn.partialBytes.length) := by
  rw [h.bytes, h.releasedBy, payloadBytes_framesFrom,
    drop_eq_drop_take_append n (txn.confirmedUpTo entry) framed, List.flatten_append,
    List.length_append, Nat.add_assoc]

theorem Kept.acked (h : txn.Kept id framed n) (entry : AckEntry) (now : ℕ) :
    (txn.acked entry now).Kept id framed (max n (txn.confirmedUpTo entry)) where
  holds := h.holds.acked
  le_length := Nat.max_le.2 ⟨h.le_length, h.confirmedUpTo_le entry⟩
  frames := by
    rw [acked_frames, h.frames, releaseUpTo, blank_blank, releaseUpTo]
    rfl
  confirmed i state hstate := by
    rw [acked_states, List.getElem?_mapIdx] at hstate
    obtain ⟨state', hstate', rfl⟩ := Option.map_eq_some_iff.1 hstate
    have hbefore := h.confirmed i state' hstate'
    rw [lt_max_iff]
    split
    · next hi => exact ⟨fun _ => .inr hi, fun _ => rfl⟩
    · next hi => exact hbefore.trans ⟨.inl, fun hor => hor.resolve_right hi⟩
  bytes := by
    rw [acked_bytes, h.bytes_split entry, Nat.add_sub_cancel_left]
    rfl
  gate := h.gate

/-! ## The history -/

/-- A transaction and the frames it has had. -/
inductive Traces (id : TxId) : Option PendingTxn → List Frame → Prop
  | absent : Traces id none []
  | held {txn : PendingTxn} {framed : List Bytes} {n : ℕ} (hkept : txn.Kept id framed n) :
      Traces id (some txn) (framesFrom id txn.totalLen 0 framed)

/-- Nothing is released that was pushed since. -/
theorem Kept.history (h : txn.Kept id (framed ++ ps) n) (hle : n ≤ framed.length) :
    txn.history (framesFrom id txn.totalLen 0 framed) =
      framesFrom id txn.totalLen 0 (framed ++ ps) := by
  have hsplit : txn.frames = releaseUpTo n (framesFrom id txn.totalLen 0 framed) ++
      (framesFrom id txn.totalLen framed.length ps).map some := by
    have hle' : n ≤ (framesFrom id txn.totalLen 0 framed).length := by
      rw [length_framesFrom]
      exact hle
    rw [h.frames, framesFrom_append, releaseUpTo_append hle', Nat.zero_add]
  rw [PendingTxn.history, hsplit, List.drop_left' (length_releaseUpTo _ _), framesFrom_append,
    Nat.zero_add, ← releaseUpTo_zero, reduceOption_releaseUpTo, List.drop_zero]

/-- A copy whose history is as long as before has had nothing pushed. -/
theorem Kept.history_same (h : txn.Kept id framed n) :
    txn.history (framesFrom id txn.totalLen 0 framed) = framesFrom id txn.totalLen 0 framed := by
  have h' : txn.Kept id (framed ++ []) n := by
    rw [List.append_nil]
    exact h
  have hsame := h'.history h.le_length
  rw [List.append_nil] at hsame
  exact hsame

theorem Traces.change {c : SenderCall} {old : Option PendingTxn} {before : List Frame}
    (h : Traces id old before) (hchange : Change id c old (some txn)) :
    Traces id (some txn) (txn.history before) := by
  generalize hnew : some txn = copy at hchange
  cases hchange with
  | absent | released => cases hnew
  | rests hsteady hflags =>
    cases hnew
    cases h with
    | held hkept =>
      have hkept' := hkept.steady hsteady
      rw [← hsteady.totalLen, hkept'.history_same]
      exact .held hkept'
  | @acked txn₀ entry now =>
    cases hnew
    cases h with
    | held hkept =>
      have hkept' := hkept.acked entry now
      have hhistory := hkept'.history_same
      have htotal : (txn₀.acked entry now).totalLen = txn₀.totalLen := rfl
      rw [← htotal, hhistory]
      exact .held hkept'
  | @grows old base chunk rest ps now hc hbase hroom hcut hne =>
    cases hnew
    have hbefore : ∃ framed n, base.Kept id framed n ∧
        before = framesFrom id base.totalLen 0 framed := by
      rcases hbase with rfl | ⟨rfl, -, total, now, rfl⟩
      · cases h with
        | held hkept => exact ⟨_, _, hkept, rfl⟩
      · cases h
        exact ⟨[], 0, .opened id total now, rfl⟩
    obtain ⟨framed, n, hkept, rfl⟩ := hbefore
    have hfits : base.written ≤ base.totalLen.toNat := hkept.holds.written ▸ hkept.holds.fits
    have hkept' := hkept.grows (hroom hfits) hcut hne now
    have hhistory := hkept'.history hkept.le_length
    rw [extend_totalLen, taken_totalLen] at hhistory
    rw [hhistory]
    exact .held hkept'

/-! ## In the source's terms -/

/-- **The accounts of a copy**, with the frames it has had since it was
opened. -/
structure Sound (txn : PendingTxn) (id : TxId) (created : List Frame) : Prop where
  lengths : txn.frames.length = txn.states.length
  /-- The confirmed frames are a front part. -/
  front : ∃ n : ℕ, ∀ (i : ℕ) (state : FrameState), txn.states[i]? = some state →
    (state.confirmed = true ↔ i < n)
  released : ∀ (i : ℕ) (state : FrameState), txn.states[i]? = some state →
    (txn.frames[i]? = some none ↔ state.confirmed = true)
  retained : ∀ (i : ℕ) (f : Frame), txn.frames[i]? = some (some f) →
    f.seq.toNat = i ∧ f.transactionId = id ∧ f.totalLen = txn.totalLen ∧ created[i]? = some f
  bytes : txn.bytes = payloadBytes txn.frames.reduceOption + txn.partialBytes.length
  written : txn.written = payloadBytes created + txn.partialBytes.length
  fits : txn.written ≤ txn.totalLen.toNat
  gate : txn.awaitingResume = true ↔ txn.declaredMs.isSome = true

/-- **What the code does not check**: slices and indices are in range, what
a report releases is held, and an unconfirmed frame has its copy, so that
no resend skips one. -/
structure InRange (txn : PendingTxn) : Prop where
  slices : ∀ entry, txn.confirmedUpTo entry ≤ txn.states.length ∧
    txn.confirmedUpTo entry ≤ txn.frames.length
  releases : ∀ entry, payloadBytes (txn.releasedBy entry) ≤ txn.bytes
  indices : ∀ i, i < txn.states.length → i < txn.frames.length
  copies : ∀ (i : ℕ) (state : FrameState), txn.states[i]? = some state → state.confirmed = false →
    ∃ f, txn.frames[i]? = some (some f)

theorem Kept.getElem?_frames (h : txn.Kept id framed n) (i : ℕ) :
    txn.frames[i]? = framed[i]?.map fun p =>
      if i < n then none else some (dataFrame id txn.totalLen i p) := by
  rw [h.frames, getElem?_releaseUpTo, getElem?_framesFrom, Option.map_map, Nat.zero_add]
  rfl

/-- Where there is a state there is a payload. -/
theorem Kept.exists_payload (h : txn.Kept id framed n) {i : ℕ} {state : FrameState}
    (hstate : txn.states[i]? = some state) : ∃ p, framed[i]? = some p := by
  have hi : i < framed.length := h.length_states ▸ (List.getElem?_eq_some_iff.1 hstate).1
  exact ⟨framed[i], List.getElem?_eq_getElem hi⟩

theorem Kept.sound (h : txn.Kept id framed n) :
    txn.Sound id (framesFrom id txn.totalLen 0 framed) where
  lengths := h.length_frames.trans h.length_states.symm
  front := ⟨n, h.confirmed⟩
  released i state hstate := by
    obtain ⟨p, hp⟩ := h.exists_payload hstate
    rw [h.confirmed i state hstate, h.getElem?_frames, hp, Option.map_some, Option.some.injEq]
    split
    · next hi => exact ⟨fun _ => hi, fun _ => rfl⟩
    · next hi => exact ⟨fun heq => (by cases heq), fun hi' => absurd hi' hi⟩
  retained i f hf := by
    rw [h.getElem?_frames] at hf
    obtain ⟨p, hp, hpf⟩ := Option.map_eq_some_iff.1 hf
    split at hpf
    · cases hpf
    · cases hpf
      have hi : i < framed.length := (List.getElem?_eq_some_iff.1 hp).1
      refine ⟨?_, rfl, rfl, ?_⟩
      · -- frames are fewer than `2 ^ 32`, so the cast of an index loses nothing
        exact UInt32.toNat_ofNat_of_lt' (hi.trans h.holds.length_lt)
      · rw [getElem?_framesFrom, hp, Nat.zero_add]
        rfl
  bytes := by
    rw [h.bytes, h.frames, reduceOption_releaseUpTo, drop_framesFrom, payloadBytes_framesFrom]
  written := by rw [h.holds.written, payloadBytes_framesFrom, List.length_append]
  fits := h.holds.written ▸ h.holds.fits
  gate := by rw [h.gate]

theorem Kept.inRange (h : txn.Kept id framed n) : txn.InRange where
  slices entry :=
    ⟨Nat.min_le_right _ _, (h.confirmedUpTo_le entry).trans h.length_frames.ge⟩
  releases entry := by
    rw [h.bytes_split entry]
    exact Nat.le_add_right _ _
  indices i hi := by
    rw [h.length_frames, ← h.length_states]
    exact hi
  copies i state hstate hopen := by
    obtain ⟨p, hp⟩ := h.exists_payload hstate
    have hi : ¬ i < n := fun hi => by
      rw [(h.confirmed i state hstate).2 hi] at hopen
      cases hopen
    rw [h.getElem?_frames, hp, Option.map_some, if_neg hi]
    exact ⟨_, rfl⟩

end PendingTxn

namespace Holder

open PendingTxn

variable {config : SenderConfig} {h h' : Holder} {calls : List (SenderCall × ℕ)}

/-- Every pending transaction has its history, and nothing else has one. -/
structure Inv (h : Holder) : Prop where
  traces : ∀ id, Traces id (h.sender.pending.get? id) ((h.created.get? id).getD [])
  recorded : ∀ id, (h.created.get? id).isSome = (h.sender.pending.get? id).isSome

theorem inv_new (config : SenderConfig) : (new config).Inv where
  traces _ := .absent
  recorded _ := rfl

theorem Inv.step {a : SenderCall × ℕ} (hinv : h.Inv) (hstep : h.step a = some h') : h'.Inv := by
  cases hstep
  refine ⟨fun id => ?_, fun id => ?_⟩
  · rw [Table.get?_mapValues]
    have hchange := TransactionSender.apply_change a.1 h.sender a.2 id
    cases hget : (a.1.apply h.sender a.2).2.pending.get? id with
    | none => exact .absent
    | some txn =>
      rw [hget] at hchange
      exact (hinv.traces id).change hchange
  · rw [Table.get?_mapValues, Option.isSome_map]

theorem inv_of_run (hrun : run step (new config) calls = some h) : h.Inv :=
  run_induct (fun _ _ _ hinv => hinv.step) (inv_new config) hrun

/-- **The sender's accounts are right in every state**, whatever is called
and whatever the peer reports. -/
theorem sender_sound {id : TxId} {txn : PendingTxn}
    (hrun : run step (new config) calls = some h) (hget : h.sender.pending.get? id = some txn) :
    ∃ created, h.created.get? id = some created ∧ txn.Sound id created ∧ txn.InRange := by
  have hinv := inv_of_run hrun
  have hsome : (h.created.get? id).isSome = true := by
    rw [hinv.recorded, hget]
    rfl
  obtain ⟨created, hcreated⟩ := Option.isSome_iff_exists.1 hsome
  have htraces := hinv.traces id
  rw [hget, hcreated, Option.getD_some] at htraces
  cases htraces with
  | held hkept => exact ⟨_, hcreated, hkept.sound, hkept.inRange⟩

namespace Sample

/-- A peer that reports progress before there is any, and asks for frames
that were never sent. -/
def hostile : List (SenderCall × ℕ) :=
  [(.openTransaction zeroId 5, 0), (.handleAck ⟨zeroId, 9, 7⟩, 1),
    (.appendChunk zeroId [1, 2, 3], 2), (.handleNack zeroId [0, 8], 3),
    (.handleAck ⟨zeroId, 0, 1⟩, 4), (.appendChunk zeroId [4], 5), (.declarePending, 6)]

end Sample

theorem sender_sound_sample :
    ∃ h txn created, run step (new { frameSize := 2 }) Sample.hostile = some h ∧
      h.sender.pending.get? zeroId = some txn ∧ h.created.get? zeroId = some created ∧
      txn.Sound zeroId created ∧ txn.InRange ∧
      txn.states.map FrameState.confirmed = [true, false] ∧ txn.bytes = 2 ∧ txn.written = 4 := by
  obtain ⟨h, txn, hrun, hpending, hrest⟩ :
      ∃ h txn, run step (new { frameSize := 2 }) Sample.hostile = some h ∧
        h.sender.pending.get? zeroId = some txn ∧
        txn.states.map FrameState.confirmed = [true, false] ∧ txn.bytes = 2 ∧ txn.written = 4 := by
    decide
  obtain ⟨created, hcreated, hsound, hrange⟩ := sender_sound hrun hpending
  exact ⟨_, _, created, hrun, hpending, hcreated, hsound, hrange, hrest⟩

end Holder

/-! ## The cap -/

namespace TransactionSender

open PendingTxn

variable {s s' : TransactionSender} {txn txn' : PendingTxn} {calls : List (SenderCall × ℕ)}
  {config : SenderConfig}

theorem unackedBytes_of_get? (hget : s.pending.get? id = some txn) :
    s.unackedBytes = txn.bytes + (s.withPending (s.pending.erase id)).unackedBytes := by
  rw [s.unackedBytes_eq id, hget]
  rfl

theorem unackedBytes_erase_le (s : TransactionSender) (id : TxId) :
    (s.withPending (s.pending.erase id)).unackedBytes ≤ s.unackedBytes := by
  rw [s.unackedBytes_eq id]
  exact Nat.le_add_left _ _

/-- A copy that holds no more than the one it replaces. -/
theorem unackedBytes_insert_le (hget : s.pending.get? id = some txn)
    (hle : txn'.bytes ≤ txn.bytes) :
    (s.withPending (s.pending.insert id txn')).unackedBytes ≤ s.unackedBytes := by
  rw [unackedBytes_insert, unackedBytes_of_get? hget]
  exact Nat.add_le_add_right hle _

/-- A pass over the copies that leaves the held bytes alone. -/
theorem unackedBytes_mapValues {f : TxId → PendingTxn → PendingTxn}
    (h : ∀ id txn, (f id txn).bytes = txn.bytes) :
    (s.withPending (s.pending.mapValues f)).unackedBytes = s.unackedBytes := by
  have hsame : ((s.pending.mapValues f).values.map PendingTxn.bytes) =
      s.pending.values.map PendingTxn.bytes := by
    rw [Table.values, Table.toList_mapValues, Table.values, List.map_map, List.map_map,
      List.map_map]
    exact List.map_congr_left fun e _ => h e.1 e.2
  rw [unackedBytes, unackedBytes, withPending_pending, hsame]

theorem unackedBytes_appendChunk_le (hcap : s.unackedBytes ≤ s.config.backpressureCapBytes)
    (chunk : Bytes) (now : ℕ) :
    (s.appendChunk id chunk now).2.unackedBytes ≤ s.config.backpressureCapBytes := by
  cases hget : s.pending.get? id with
  | none =>
    rw [appendChunk, hget]
    exact hcap
  | some txn =>
    rw [appendChunk_some hget]
    split
    · exact hcap
    · next hroom =>
      split
      · exact hcap
      · have hheld := unackedBytes_of_get? hget
        rw [unackedBytes_insert]
        have hbytes : ∀ ps rest, ((txn.taken chunk).extend id ps rest now).bytes =
            txn.bytes + chunk.length := fun _ _ => rfl
        rw [hbytes]
        omega

theorem unackedBytes_beginTransaction_le (hcap : s.unackedBytes ≤ s.config.backpressureCapBytes)
    (payload : Bytes) (now : ℕ) :
    (s.beginTransaction id payload now).2.unackedBytes ≤ s.config.backpressureCapBytes := by
  rw [beginTransaction_eq]
  split
  · exact hcap
  · next hroom =>
    split
    · exact hcap
    · next hdup =>
      have hnew : s.pending.get? id = none := Option.not_isSome_iff_eq_none.1 hdup
      split
      · exact hcap
      · split
        · exact (unackedBytes_opened hnew).trans_le hcap
        · have hheld := s.unackedBytes_eq id
          have hbytes : (s.wholeCopy id payload now).bytes = 0 + payload.length := rfl
          rw [hnew, Option.map_none, Option.getD_none] at hheld
          rw [unackedBytes_insert, hbytes]
          omega

theorem unackedBytes_handleAck_le (s : TransactionSender) (entry : AckEntry) (now : ℕ) :
    (s.handleAck entry now).2.unackedBytes ≤ s.unackedBytes := by
  cases hget : s.pending.get? entry.transactionId with
  | none => rw [handleAck_none hget]
  | some txn =>
    rw [handleAck_some hget]
    split
    · exact s.unackedBytes_erase_le _
    · refine unackedBytes_insert_le hget ?_
      rw [acked_bytes]
      exact Nat.sub_le _ _

theorem unackedBytes_applyVerdict_le (s : TransactionSender) (entry : ResumeStatusEntry) (now : ℕ)
    (out : ResumeVerdicts) : (s.applyVerdict entry now out).2.unackedBytes ≤ s.unackedBytes := by
  unfold applyVerdict
  split
  · exact Nat.le_refl _
  · next txn hget =>
    split
    · split
      · exact unackedBytes_insert_le hget (Nat.le_refl _)
      · exact unackedBytes_insert_le hget (Nat.le_refl _)
    · dsimp only
      split
      · exact s.unackedBytes_erase_le _
      · exact s.unackedBytes_erase_le _
    · dsimp only
      split
      · exact s.unackedBytes_erase_le _
      · exact s.unackedBytes_erase_le _

theorem unackedBytes_applyResumeVerdicts_le (s : TransactionSender)
    (entries : List ResumeStatusEntry) (now : ℕ) :
    (s.applyResumeVerdicts entries now).2.unackedBytes ≤ s.unackedBytes := by
  unfold applyResumeVerdicts
  generalize (⟨[], [], []⟩ : ResumeVerdicts) = out
  induction entries generalizing s out with
  | nil => exact Nat.le_refl _
  | cons entry rest ih =>
    rw [applyVerdictsFrom]
    exact (ih _ _).trans (s.unackedBytes_applyVerdict_le entry now out)

/-- **No call takes the held bytes over the cap.** -/
theorem unackedBytes_apply_le (hcap : s.unackedBytes ≤ s.config.backpressureCapBytes)
    (c : SenderCall) (now : ℕ) :
    (c.apply s now).2.unackedBytes ≤ s.config.backpressureCapBytes := by
  cases c with
  | openTransaction id total =>
    simp only [SenderCall.apply, openTransaction_eq]
    split
    · exact hcap
    · next hdup =>
      split
      · exact hcap
      · exact (unackedBytes_opened (Option.not_isSome_iff_eq_none.1 hdup)).trans_le hcap
  | appendChunk id chunk => exact unackedBytes_appendChunk_le hcap chunk now
  | finishTransaction id =>
    simp only [SenderCall.apply]
    cases hget : s.pending.get? id with
    | none =>
      rw [finishTransaction_none hget]
      exact hcap
    | some txn =>
      rw [finishTransaction_some hget]
      exact (unackedBytes_insert_le hget (Nat.le_refl _)).trans hcap
  | beginTransaction id payload => exact unackedBytes_beginTransaction_le hcap payload now
  | setPaused id paused =>
    simp only [SenderCall.apply]
    cases hget : s.pending.get? id with
    | none =>
      rw [setPaused_none hget]
      exact hcap
    | some txn =>
      obtain ⟨txn', heq, hsteady, -⟩ := steady_setPaused paused now hget
      rw [heq]
      exact (unackedBytes_insert_le hget hsteady.bytes.le).trans hcap
  | abortTransaction id => exact (s.unackedBytes_erase_le id).trans hcap
  | handleAck entry => exact (s.unackedBytes_handleAck_le entry now).trans hcap
  | handleNack id seqs =>
    simp only [SenderCall.apply]
    cases hget : s.pending.get? id with
    | none =>
      rw [handleNack_none hget]
      exact hcap
    | some txn =>
      obtain ⟨txn', heq, hsteady, -⟩ := steady_handleNack seqs now hget
      rw [heq]
      exact (unackedBytes_insert_le hget hsteady.bytes.le).trans hcap
  | dueRetransmissions =>
    refine (unackedBytes_mapValues fun _ txn => ?_).trans_le hcap
    have hsteady : Steady txn (txn.dueRetransmissions s.config now).1 :=
      steady_dueRetransmissions s.config
    exact hsteady.bytes
  | declarePending =>
    refine (unackedBytes_mapValues fun _ txn => ?_).trans_le hcap
    rfl
  | timedOutDeclarations timeoutMs =>
    refine (unackedBytes_mapValues fun _ txn => ?_).trans_le hcap
    split
    · rfl
    · rfl
  | applyResumeVerdicts entries =>
    exact (s.unackedBytes_applyResumeVerdicts_le entries now).trans hcap

/-- **The held bytes stay within the cap** in every state a sender reaches,
and an append that is refused leaves the sender as it was. -/
theorem unackedBytes_le_cap (hrun : run step (new config) calls = some s) :
    s.unackedBytes ≤ config.backpressureCapBytes ∧
      ∀ id chunk now e s', s.appendChunk id chunk now = (.error e, s') → s' = s := by
  have hinv : s.config.backpressureCapBytes = config.backpressureCapBytes ∧
      s.unackedBytes ≤ s.config.backpressureCapBytes := by
    refine run_induct (I := fun s => s.config.backpressureCapBytes = config.backpressureCapBytes ∧
      s.unackedBytes ≤ s.config.backpressureCapBytes) ?_ ⟨rfl, Nat.zero_le _⟩ hrun
    rintro s a s' ⟨hconfig, hcap⟩ hstep
    cases hstep
    rw [config_apply]
    exact ⟨hconfig, unackedBytes_apply_le hcap a.1 a.2⟩
  exact ⟨hinv.1 ▸ hinv.2, fun id chunk now e s' => appendChunk_error⟩

theorem unackedBytes_le_cap_sample :
    ∃ s, run step (new { frameSize := 2, backpressureCapBytes := 4 })
        [(.openTransaction zeroId 9, 0), (.appendChunk zeroId [1, 2, 3], 1),
          (.appendChunk zeroId [4, 5], 2)] = some s ∧
      s.unackedBytes ≤ 4 ∧ s.unackedBytes = 3 ∧
      (s.appendChunk zeroId [4, 5] 3).1 = .error (.backpressured 3 2 4) := by
  obtain ⟨s, hrun, hrest⟩ : ∃ s, run step (new { frameSize := 2, backpressureCapBytes := 4 })
        [(.openTransaction zeroId 9, 0), (.appendChunk zeroId [1, 2, 3], 1),
        (.appendChunk zeroId [4, 5], 2)] = some s ∧
      s.unackedBytes = 3 ∧
        (s.appendChunk zeroId [4, 5] 3).1 = .error (.backpressured 3 2 4) := by decide
  exact ⟨_, hrun, (unackedBytes_le_cap hrun).1, hrest⟩

end TransactionSender

end Reliability

end Xacpp
