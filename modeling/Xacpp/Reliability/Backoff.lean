import Mathlib.Data.List.Induction
import Xacpp.Reliability.Adjudication
/-!
# The retransmission schedule

The bookkeeping of a frame (`last_sent_ms`, `attempts`) is what the history
of its clock says: the instant it was last started, and how often the clock
or a verdict has sent the frame again (`Timed.Synced`). So
`due_retransmissions` returns a frame exactly when its timeout, doubled with
every such resend up to the cap, has run out since then.

A call is followed at one frame: `Restarted` says what it does to the
frame's bookkeeping and which clock events it leaves for it.
-/

namespace Xacpp

namespace Reliability

variable {id : TxId} {now i n m : ℕ} {E log : List ClockEvent} {f : Frame}

/-! ## Events -/

theorem mem_eventsOf {e : ClockEvent} :
    e ∈ eventsOf log id i ↔ e ∈ log ∧ e.id = id ∧ e.seq = i := by
  rw [eventsOf, List.mem_filter, decide_eq_true_iff]

theorem eventsOf_append : eventsOf (E ++ log) id i = eventsOf E id i ++ eventsOf log id i :=
  List.filter_append _ _

theorem eventsOf_eq_nil (h : ∀ e ∈ E, e.id = id → e.seq ≠ i) : eventsOf E id i = [] :=
  List.filter_eq_nil_iff.2 fun e he hsame =>
    have hsame := of_decide_eq_true hsame
    h e he hsame.1 hsame.2

/-- What is forgotten goes by whole transactions. -/
theorem eventsOf_filter {keep : TxId → Bool} (h : keep id = true) :
    eventsOf (log.filter fun e => keep e.id) id i = eventsOf log id i := by
  rw [eventsOf, List.filter_filter]
  refine List.filter_congr fun e _ => ?_
  by_cases hid : e.id = id
  · rw [hid, h, Bool.and_true]
  · simp only [hid, false_and, decide_false, Bool.false_and]

/-- The frame of a place in a list of frames that carry one id each. -/
def occurrences (id : TxId) (i : ℕ) (out : List Frame) : ℕ :=
  (out.map fun f => (f.transactionId, f.seq.toNat)).count (id, i)

theorem occurrences_append (out out' : List Frame) :
    occurrences id i (out ++ out') = occurrences id i out + occurrences id i out' := by
  rw [occurrences, List.map_append, List.count_append]
  rfl

theorem occurrences_eq_zero {out : List Frame}
    (h : ∀ f ∈ out, f.transactionId = id → f.seq.toNat ≠ i) : occurrences id i out = 0 := by
  refine List.count_eq_zero_of_not_mem fun hmem => ?_
  obtain ⟨f, hf, heq⟩ := List.mem_map.1 hmem
  cases heq
  exact h f hf rfl rfl

theorem occurrences_filter (out : List Frame) :
    occurrences id i (out.filter fun f => decide (f.transactionId = id)) =
      occurrences id i out := by
  rw [occurrences, occurrences, List.count_eq_countP, List.count_eq_countP, List.countP_map,
    List.countP_map, List.countP_filter]
  refine List.countP_congr fun f _ => ?_
  rw [Function.comp_apply, Bool.and_eq_true, beq_iff_eq, Prod.mk.injEq, decide_eq_true_iff]
  exact ⟨fun h => h.1, fun h => ⟨h, h.1⟩⟩

/-- A frame returned `n` times leaves `n` events. -/
theorem eventsOf_ofFrame (cause : Restart) (now : ℕ) (out : List Frame) :
    eventsOf (out.map (.ofFrame cause now)) id i =
      List.replicate (occurrences id i out) ⟨id, i, cause, now⟩ := by
  refine List.eq_replicate_iff.2 ⟨?_, fun e he => ?_⟩
  · rw [eventsOf, ← List.countP_eq_length_filter, List.countP_map, occurrences,
      List.count_eq_countP, List.countP_map]
    refine List.countP_congr fun f _ => ?_
    rw [Function.comp_apply, Function.comp_apply, decide_eq_true_iff, beq_iff_eq, Prod.mk.injEq]
    exact Iff.rfl
  · obtain ⟨he, hid, hseq⟩ := mem_eventsOf.1 he
    obtain ⟨f, -, rfl⟩ := List.mem_map.1 he
    cases hid
    cases hseq
    rfl

/-- A frame of a list without repetitions has one event. -/
theorem eventsOf_map {seqs : List ℕ} (h : seqs.Nodup) (cause : Restart) (now : ℕ) :
    eventsOf (seqs.map fun seq => ⟨id, seq, cause, now⟩) id i =
      if i ∈ seqs then [⟨id, i, cause, now⟩] else [] := by
  rw [eventsOf, List.filter_map]
  have hpick : seqs.filter ((fun e : ClockEvent => decide (e.id = id ∧ e.seq = i)) ∘
      fun seq => ⟨id, seq, cause, now⟩) = seqs.filter fun seq => decide (seq = i) :=
    List.filter_congr fun seq _ => by
      simp only [Function.comp_apply, true_and]
  rw [hpick, List.filter_eq, h.count]
  split
  · rfl
  · rfl

/-! ## Clocks of one copy -/

/-- The bookkeeping of a frame that is returned `n` times. -/
structure Ticks (now n : ℕ) (backsOff : Bool) (state state' : FrameState) : Prop where
  unconfirmed : state.confirmed = false
  last : state'.lastSentMs = if n = 0 then state.lastSentMs else now
  attempts : state'.attempts = state.attempts + if backsOff then n else 0

theorem Ticks.refl {state : FrameState} (backsOff : Bool) (h : state.confirmed = false) :
    Ticks now 0 backsOff state state :=
  ⟨h, rfl, by rw [ite_self, Nat.add_zero]⟩

theorem Ticks.trans {backsOff : Bool} {state state' state'' : FrameState}
    (h : Ticks now n backsOff state state') (h' : Ticks now m backsOff state' state'') :
    Ticks now (n + m) backsOff state state'' where
  unconfirmed := h.unconfirmed
  last := by
    rw [h'.last, h.last]
    by_cases hm : m = 0
    · rw [if_pos hm, hm, Nat.add_zero]
    · rw [if_neg hm, if_neg (by omega)]
  attempts := by
    rw [h'.attempts, h.attempts]
    cases backsOff with
    | true => exact Nat.add_assoc _ _ _
    | false => rfl

namespace PendingTxn

variable {txn txn' : PendingTxn} {state state' : FrameState} {pick : FrameState → Bool}

theorem states_of_map_confirmed {states states' : List FrameState}
    (h : states'.map FrameState.confirmed = states.map FrameState.confirmed)
    (hstate : states'[i]? = some state') :
    ∃ state, states[i]? = some state ∧ state.confirmed = state'.confirmed := by
  have hflag := congrArg (fun flags : List Bool => flags[i]?) h
  simp only [List.getElem?_map, hstate, Option.map_some] at hflag
  obtain ⟨state, hget, hsame⟩ := Option.map_eq_some_iff.1 hflag.symm
  exact ⟨state, hget, hsame⟩

theorem Numbered.steady (h : txn.Numbered id) (hsteady : Steady txn txn') : txn'.Numbered id where
  place i f hf := h.place i f (hsteady.frames ▸ hf)
  copies i state' hstate' hopen := by
    obtain ⟨state, hstate, hsame⟩ := states_of_map_confirmed hsteady.confirmed hstate'
    obtain ⟨f, hf⟩ := h.copies i state hstate (hsame.trans hopen)
    exact ⟨f, by rw [hsteady.frames]; exact hf⟩
  length := by rw [hsteady.states_length, hsteady.frames, h.length]

/-- A resend returns a frame that is not confirmed once if it picks it, and
else not at all. -/
theorem Numbered.occurrences_resend (h : txn.Numbered id) (hstate : txn.states[i]? = some state)
    (hopen : state.confirmed = false) (pick : FrameState → Bool) (now : ℕ) :
    occurrences id i (txn.resend pick now).2 = if pick state then 1 else 0 := by
  split
  · next hpick =>
    obtain ⟨f, hf⟩ := h.copies i state hstate hopen
    obtain ⟨rfl, rfl⟩ := h.place i f hf
    have hmem : f ∈ (txn.resend pick now).2 := mem_resend_iff.2 ⟨_, state, hstate, hpick, hf⟩
    refine List.count_eq_one_of_mem ?_ (List.mem_map_of_mem hmem)
    refine List.pairwise_map.2 ((h.pairwise_resend pick now).imp fun {a b} hlt heq => ?_)
    have hseq : a.seq.toNat = b.seq.toNat := congrArg Prod.snd heq
    rw [UInt32.lt_iff_toNat_lt, hseq] at hlt
    exact Nat.lt_irrefl _ hlt
  · next hpick =>
    refine occurrences_eq_zero fun f hf hid hseq => ?_
    obtain ⟨j, other, hother, hpicked, hframe⟩ := mem_resend_iff.1 hf
    have hj : j = i := (h.place j f hframe).2.symm.trans hseq
    rw [hj, hstate, Option.some.injEq] at hother
    exact hpick (hother ▸ hpicked)

theorem Numbered.ticks_resend (h : txn.Numbered id)
    (hstate' : (txn.resend pick now).1.states[i]? = some state')
    (hopen : state'.confirmed = false) :
    ∃ state, txn.states[i]? = some state ∧
      Ticks now (occurrences id i (txn.resend pick now).2) true state state' := by
  simp only [resend, List.getElem?_mapIdx, Option.map_eq_some_iff] at hstate'
  obtain ⟨state, hstate, hstate'⟩ := hstate'
  have hlt : i < txn.frames.length := h.length ▸ (List.getElem?_eq_some_iff.1 hstate).1
  refine ⟨state, hstate, ?_⟩
  by_cases hpick : pick state = true
  · rw [if_pos ⟨hlt, hpick⟩] at hstate'
    subst hstate'
    rw [h.occurrences_resend hstate hopen, if_pos hpick]
    exact ⟨hopen, rfl, rfl⟩
  · rw [if_neg fun hboth => hpick hboth.2] at hstate'
    subst hstate'
    rw [h.occurrences_resend hstate hopen, if_neg hpick]
    exact .refl true hopen

/-- The loop of a `NACK`: a frame that is not confirmed is returned as often
as it is listed, and its clock is started with it. -/
theorem Numbered.ticks_nacked (h : txn.Numbered id) {states : List FrameState}
    (hstate : states[i]? = some state) (hopen : state.confirmed = false)
    (hframe : txn.frames[i]? = some (some f)) (now : ℕ) (seqs : List UInt32) (out : List Frame) :
    ∃ m state', (txn.nacked now seqs (states, out)).1[i]? = some state' ∧
      occurrences id i (txn.nacked now seqs (states, out)).2 = occurrences id i out + m ∧
      Ticks now m false state state' := by
  induction seqs generalizing states out state with
  | nil => exact ⟨0, state, hstate, rfl, .refl false hopen⟩
  | cons seq seqs ih =>
    rw [nacked]
    split
    · exact ih hstate hopen out
    · next listed hlisted =>
      split
      · exact ih hstate hopen out
      · by_cases hi : seq.toNat = i
        · -- the frame itself is listed
          subst hi
          rw [hstate, Option.some.injEq] at hlisted
          subst hlisted
          have hset : (states.set seq.toNat { state with lastSentMs := now })[seq.toNat]? =
              some { state with lastSentMs := now } :=
            List.getElem?_set_self (List.getElem?_eq_some_iff.1 hstate).1
          obtain ⟨rfl, hseq⟩ := h.place _ f hframe
          have hone : occurrences f.transactionId seq.toNat [f] = 1 := by
            rw [occurrences, List.map_singleton, hseq, List.count_singleton_self]
          rw [hframe, Option.join_some]
          dsimp only
          obtain ⟨m, state', hget, hocc, hticks⟩ := ih hset hopen (out ++ [f])
          refine ⟨1 + m, state', hget, ?_, ?_⟩
          · rw [hocc, occurrences_append, hone, Nat.add_assoc]
          · have hfirst : Ticks now 1 false state { state with lastSentMs := now } :=
              ⟨hopen, rfl, rfl⟩
            exact hfirst.trans hticks
        · have hset : (states.set seq.toNat { listed with lastSentMs := now })[i]? =
              some state := by
            rw [List.getElem?_set_ne hi]
            exact hstate
          dsimp only
          split
          · exact ih hset hopen out
          · next frame hother =>
            have hplace := (h.place _ frame (Option.join_eq_some_iff.1 hother)).2
            have hzero : occurrences id i [frame] = 0 := by
              refine occurrences_eq_zero fun g hg _ hseq => hi ?_
              rw [List.mem_singleton.1 hg] at hseq
              exact hplace.symm.trans hseq
            obtain ⟨m, state', hget, hocc, hticks⟩ := ih hset hopen (out ++ [frame])
            refine ⟨m, state', hget, ?_, hticks⟩
            rw [hocc, occurrences_append, hzero, Nat.add_zero]

end PendingTxn

namespace TransactionSender

open PendingTxn

variable {s : TransactionSender} {txn txn' : PendingTxn} {state' : FrameState} {c : SenderCall}

/-- Every copy is numbered. -/
def Numbered (s : TransactionSender) : Prop :=
  ∀ id txn, s.pending.get? id = some txn → txn.Numbered id

theorem numbered_of_run {config : SenderConfig} {calls : List (SenderCall × ℕ)}
    (hrun : run step (new config) calls = some s) : s.Numbered := by
  intro id txn hget
  obtain ⟨framed, n, hkept⟩ := kept_of_run hrun hget
  exact hkept.numbered

theorem Numbered.ownsFrames (h : s.Numbered) : s.OwnsFrames := by
  intro id txn hget f hf
  obtain ⟨i, hi⟩ := List.mem_iff_getElem?.1 hf
  exact ((h id txn hget).place i f hi).1

/-! ## Clocks under one call -/

/-- What a call leaves of a frame that is not confirmed: its bookkeeping
moved with the events, or the frame was cut by the call. -/
inductive Restarted (now : ℕ) (id : TxId) (i : ℕ) (E : List ClockEvent) (old : Option PendingTxn)
    (state' : FrameState) : Prop
  | ticked {txn : PendingTxn} {state : FrameState} {n : ℕ} {cause : Restart}
      (hold : old = some txn) (hstate : txn.states[i]? = some state)
      (hevents : eventsOf E id i = List.replicate n ⟨id, i, cause, now⟩)
      (hticks : Ticks now n cause.backsOff state state')
  | cut (hnew : ∀ txn, old = some txn → txn.frames.length ≤ i)
      (hevents : eventsOf E id i = [⟨id, i, .sent, now⟩]) (hstate : state' = ⟨false, now, 0⟩)

theorem Restarted.quiet {old : Option PendingTxn} (hold : old = some txn)
    (hstate : txn.states[i]? = some state') (hopen : state'.confirmed = false)
    (hevents : eventsOf E id i = []) : Restarted now id i E old state' := by
  have hzero : eventsOf E id i = List.replicate 0 ⟨id, i, .sent, now⟩ := hevents
  exact .ticked hold hstate hzero (.refl _ hopen)

theorem cutInto_of_get? (h : s.pending.get? id = some txn) :
    s.cutInto id = txn.frames.length := by
  rw [cutInto, h]
  rfl

/-- What a framing call leaves of its transaction: the copy as it was, or
one that frames were cut from. -/
inductive Cuts (id : TxId) (now : ℕ) (old : Option PendingTxn) : PendingTxn → Prop
  | same {txn : PendingTxn} (hold : old = some txn) : Cuts id now old txn
  | grown {base : PendingTxn} {chunk rest : Bytes} {ps : List Bytes}
      (hbase : old = some base ∨ old = none ∧ base.frames = [] ∧ base.states = []) :
      Cuts id now old ((base.taken chunk).extend id ps rest now)

theorem cuts_appendChunk {chunk : Bytes}
    (hget : (s.appendChunk id chunk now).2.pending.get? id = some txn') :
    Cuts id now (s.pending.get? id) txn' := by
  cases h : s.appendChunk id chunk now with
  | mk res s' =>
    rw [h] at hget
    cases res with
    | error e =>
      rw [appendChunk_error h] at hget
      exact .same hget
    | ok out =>
      obtain ⟨txn, hold, -, -, rfl⟩ := appendChunk_ok h
      rw [withPending_pending, Table.get?_insert_self, Option.some.injEq] at hget
      subst hget
      exact .grown (.inl hold)

theorem cuts_finishTransaction
    (hget : (s.finishTransaction id now).2.pending.get? id = some txn') :
    Cuts id now (s.pending.get? id) txn' := by
  cases hold : s.pending.get? id with
  | none =>
    rw [finishTransaction_none hold, hold] at hget
    cases hget
  | some txn =>
    rw [finishTransaction_some hold, withPending_pending, Table.get?_insert_self,
      Option.some.injEq] at hget
    subst hget
    have hgrown : Cuts id now (some txn)
        ((txn.taken []).extend id (tailOf txn.partialBytes) [] now) := .grown (.inl rfl)
    rw [taken_nil] at hgrown
    exact hgrown

theorem cuts_beginTransaction {payload : Bytes}
    (hget : (s.beginTransaction id payload now).2.pending.get? id = some txn') :
    Cuts id now (s.pending.get? id) txn' := by
  rw [beginTransaction_eq] at hget
  split at hget
  · exact .same hget
  · split at hget
    · exact .same hget
    · next hdup =>
      have hold : s.pending.get? id = none := Option.not_isSome_iff_eq_none.1 hdup
      split at hget
      · exact .same hget
      · split at hget
        · -- the slot that is left open
          rw [withPending_pending, Table.get?_insert_self, Option.some.injEq] at hget
          subst hget
          have hgrown : Cuts id now (s.pending.get? id)
              (((opened (UInt32.ofNat payload.length) now).taken []).extend id [] [] now) :=
            .grown (.inr ⟨hold, rfl, rfl⟩)
          rw [taken_nil] at hgrown
          have hsame : (opened (UInt32.ofNat payload.length) now).extend id [] [] now =
              opened (UInt32.ofNat payload.length) now := PendingTxn.extend_nil _
          rw [hsame] at hgrown
          exact hgrown
        · rw [withPending_pending, Table.get?_insert_self, Option.some.injEq] at hget
          subst hget
          exact .grown (.inr ⟨hold, rfl, rfl⟩)

/-- Frames that are cut start their clocks; the others are left alone. -/
theorem Cuts.restarted {s' : TransactionSender} (h : Cuts id now (s.pending.get? id) txn')
    (hs : s.Numbered) (hget : s'.pending.get? id = some txn')
    (hstate' : txn'.states[i]? = some state') (hopen : state'.confirmed = false) :
    Restarted now id i ((List.range' (s.cutInto id) (s'.cutInto id - s.cutInto id)).map
      fun seq => ⟨id, seq, .sent, now⟩) (s.pending.get? id) state' := by
  have hevents : ∀ a k : ℕ, eventsOf ((List.range' a k).map fun seq =>
      ⟨id, seq, .sent, now⟩) id i = if a ≤ i ∧ i < a + k then [⟨id, i, .sent, now⟩] else [] := by
    intro a k
    rw [eventsOf_map (List.nodup_range' 1)]
    simp only [List.mem_range'_1]
  cases h with
  | same hold =>
    refine .quiet hold hstate' hopen ?_
    rw [cutInto_of_get? hold, cutInto_of_get? hget, Nat.sub_self, hevents, if_neg (by omega)]
  | @grown base chunk rest ps hbase =>
    have hlength : base.states.length = base.frames.length := by
      rcases hbase with hold | ⟨-, hframes, hstates⟩
      · exact (hs id base hold).length
      · rw [hframes, hstates]
        rfl
    have hbefore : s.cutInto id = base.frames.length := by
      rcases hbase with hold | ⟨hold, hframes, -⟩
      · exact cutInto_of_get? hold
      · rw [cutInto, hold, hframes]
        rfl
    have hafter : s'.cutInto id = base.frames.length + ps.length :=
      (cutInto_of_get? hget).trans (length_frames_extend _ _)
    change (base.states ++ List.replicate ps.length ⟨false, now, 0⟩)[i]? = some state' at hstate'
    rw [hbefore, hafter, Nat.add_sub_cancel_left]
    by_cases hi : i < base.states.length
    · rw [List.getElem?_append_left hi] at hstate'
      rcases hbase with hold | ⟨-, -, hstates⟩
      · refine .quiet hold hstate' hopen ?_
        rw [hevents, if_neg (by omega)]
      · rw [hstates] at hstate'
        cases hstate'
    · rw [List.getElem?_append_right (by omega), List.getElem?_replicate] at hstate'
      split at hstate'
      · next hlt =>
        cases hstate'
        refine .cut (fun txn hold => ?_) ?_ rfl
        · rcases hbase with hold' | ⟨hold', -, -⟩
          · rw [hold, Option.some.injEq] at hold'
            rw [hold', ← hlength]
            omega
          · rw [hold] at hold'
            cases hold'
        · rw [hevents, if_pos (by omega)]
      · cases hstate'

theorem restarted_setPaused {paused : Bool} (hs : s.Numbered)
    (hget : (s.setPaused id paused now).2.pending.get? id = some txn')
    (hstate' : txn'.states[i]? = some state') (hopen : state'.confirmed = false) :
    Restarted now id i ((SenderCall.setPaused id paused).clockEvents s now) (s.pending.get? id)
      state' := by
  cases hold : s.pending.get? id with
  | none =>
    rw [setPaused_none hold, hold] at hget
    cases hget
  | some txn =>
    unfold setPaused at hget
    rw [hold] at hget
    rw [withPending_pending, Table.get?_insert_self, Option.some.injEq] at hget
    subst hget
    cases paused with
    | true => exact .quiet rfl hstate' hopen rfl
    | false =>
      dsimp only at hstate'
      rw [if_neg Bool.false_ne_true, List.getElem?_map] at hstate'
      obtain ⟨state, hstate, rfl⟩ := Option.map_eq_some_iff.1 hstate'
      have hunconfirmed : state.confirmed = false := by
        split at hopen
        · exact hopen
        · next hfalse => exact Bool.not_eq_true _ ▸ hfalse
      have hlt : i < txn.frames.length :=
        (hs id txn hold).length ▸ (List.getElem?_eq_some_iff.1 hstate).1
      have hevents : eventsOf ((SenderCall.setPaused id false).clockEvents s now) id i =
          List.replicate 1 ⟨id, i, .unpaused, now⟩ := by
        rw [SenderCall.clockEvents, eventsOf_map List.nodup_range, cutInto_of_get? hold,
          if_pos (List.mem_range.2 hlt)]
        rfl
      refine .ticked rfl hstate hevents ⟨hunconfirmed, ?_, ?_⟩
      · rw [hunconfirmed]
        rfl
      · rw [hunconfirmed]
        rfl

theorem restarted_handleNack {seqs : List UInt32} (hs : s.Numbered)
    (hget : (s.handleNack id seqs now).2.pending.get? id = some txn')
    (hstate' : txn'.states[i]? = some state') (hopen : state'.confirmed = false) :
    Restarted now id i ((SenderCall.handleNack id seqs).clockEvents s now) (s.pending.get? id)
      state' := by
  have hevents : eventsOf ((SenderCall.handleNack id seqs).clockEvents s now) id i =
      List.replicate (occurrences id i (s.handleNack id seqs now).1) ⟨id, i, .nacked, now⟩ :=
    eventsOf_ofFrame .nacked now _
  cases hold : s.pending.get? id with
  | none =>
    rw [handleNack_none hold, hold] at hget
    cases hget
  | some txn =>
    have hnumbered := hs id txn hold
    have hnack : s.handleNack id seqs now =
        if txn.paused then ([], s.withPending (s.pending.insert id { txn with
          lastProgressMs := now }))
        else ((PendingTxn.nacked { txn with lastProgressMs := now } now seqs (txn.states, [])).2,
          s.withPending (s.pending.insert id { txn with
            lastProgressMs := now
            states := (PendingTxn.nacked { txn with lastProgressMs := now } now seqs
              (txn.states, [])).1 })) := by
      unfold handleNack
      rw [hold]
    rw [hnack] at hget hevents
    by_cases hpaused : txn.paused = true
    · rw [if_pos hpaused] at hget hevents
      rw [withPending_pending, Table.get?_insert_self, Option.some.injEq] at hget
      subst hget
      exact .quiet rfl hstate' hopen hevents
    · rw [if_neg hpaused] at hget hevents
      rw [withPending_pending, Table.get?_insert_self, Option.some.injEq] at hget
      subst hget
      obtain ⟨state, hstate, hsame⟩ :=
        states_of_map_confirmed (map_confirmed_nacked now seqs txn.states []) hstate'
      obtain ⟨f, hframe⟩ := hnumbered.copies i state hstate (hsame.trans hopen)
      have hfields : PendingTxn.Numbered { txn with lastProgressMs := now } id :=
        ⟨hnumbered.place, hnumbered.copies, hnumbered.length⟩
      obtain ⟨m, state'', hget', hocc, hticks⟩ :=
        hfields.ticks_nacked hstate (hsame.trans hopen) hframe now seqs []
      rw [hget', Option.some.injEq] at hstate'
      subst hstate'
      have hcount : occurrences id i [] = 0 := rfl
      rw [hocc, hcount, Nat.zero_add] at hevents
      exact .ticked rfl hstate hevents hticks

/-- What the clock returns of one transaction comes from its copy. -/
theorem Numbered.filter_dueRetransmissions (hs : s.Numbered) (now : ℕ) (id : TxId) :
    ((s.dueRetransmissions now).1.filter fun f => decide (f.transactionId = id)) =
      (s.pending.get? id).elim [] fun txn => (txn.dueRetransmissions s.config now).2 := by
  have howned : ∀ id' txn, s.pending.get? id' = some txn →
      ∀ f ∈ (txn.dueRetransmissions s.config now).2, f.transactionId = id' :=
    fun id' txn hget f hf => hs.ownsFrames id' txn hget f (PendingTxn.mem_dueRetransmissions hf)
  refine (Table.filter_flatMap_toList s.pending id fun id' txn hget hne f hf hid => ?_).trans ?_
  · exact hne ((howned id' txn hget f hf).symm.trans (of_decide_eq_true hid))
  · cases hget : s.pending.get? id with
    | none => rfl
    | some txn =>
      exact List.filter_eq_self.2 fun f hf => decide_eq_true (howned id txn hget f hf)

theorem restarted_dueRetransmissions (hs : s.Numbered)
    (hget : (s.dueRetransmissions now).2.pending.get? id = some txn')
    (hstate' : txn'.states[i]? = some state') (hopen : state'.confirmed = false) :
    Restarted now id i (SenderCall.dueRetransmissions.clockEvents s now) (s.pending.get? id)
      state' := by
  rw [get?_dueRetransmissions] at hget
  obtain ⟨txn, hold, rfl⟩ := Option.map_eq_some_iff.1 hget
  have hnumbered := hs id txn hold
  -- what the other transactions return is not a frame of this one
  have hocc : occurrences id i (s.dueRetransmissions now).1 =
      occurrences id i (txn.dueRetransmissions s.config now).2 := by
    rw [← occurrences_filter, hs.filter_dueRetransmissions, hold]
    rfl
  have hevents : eventsOf (SenderCall.dueRetransmissions.clockEvents s now) id i =
      List.replicate (occurrences id i (txn.dueRetransmissions s.config now).2)
        ⟨id, i, .timedOut, now⟩ := by
    rw [← hocc]
    exact eventsOf_ofFrame .timedOut now _
  unfold PendingTxn.dueRetransmissions at hstate' hevents
  split at hstate'
  · next hflags =>
    rw [if_pos hflags] at hevents
    exact .quiet hold hstate' hopen hevents
  · next hflags =>
    rw [if_neg hflags] at hevents
    obtain ⟨state, hstate, hticks⟩ := hnumbered.ticks_resend hstate' hopen
    exact .ticked hold hstate hevents hticks

/-- A report moves no clock of what it leaves unconfirmed. -/
theorem restarted_handleAck {entry : AckEntry}
    (hget : (s.handleAck entry now).2.pending.get? entry.transactionId = some txn')
    (hstate' : txn'.states[i]? = some state') (hopen : state'.confirmed = false) :
    Restarted now entry.transactionId i [] (s.pending.get? entry.transactionId) state' := by
  cases hold : s.pending.get? entry.transactionId with
  | none =>
    rw [handleAck_none hold, hold] at hget
    cases hget
  | some txn =>
    rw [handleAck_some hold] at hget
    split at hget
    · rw [withPending_pending, Table.get?_erase_self] at hget
      cases hget
    · rw [withPending_pending, Table.get?_insert_self, Option.some.injEq] at hget
      subst hget
      rw [acked_states, List.getElem?_mapIdx] at hstate'
      obtain ⟨state, hstate, rfl⟩ := Option.map_eq_some_iff.1 hstate'
      split at hopen
      · cases hopen
      · next hbeyond =>
        refine .quiet rfl ?_ (by rw [if_neg hbeyond]; exact hopen) rfl
        rw [if_neg hbeyond]
        exact hstate

section Verdicts

variable {entry : ResumeStatusEntry} {entries : List ResumeStatusEntry} {out : ResumeVerdicts}

theorem steady_of_ruled {status : ResumeStatus} (h : txn.ruled status now = some txn') :
    Steady txn txn' := by
  have hungate := (txn.subsides_ungate now).toSteady
  unfold ruled at h
  split at h
  · split at h
    · cases h
      exact hungate
    · cases h
      exact hungate.trans (steady_resend _)
  · cases h
  · cases h

theorem Numbered.applyVerdict (hs : s.Numbered) (entry : ResumeStatusEntry) (now : ℕ)
    (out : ResumeVerdicts) : (s.applyVerdict entry now out).2.Numbered := by
  intro id txn' hget
  by_cases hid : entry.transactionId = id
  · subst hid
    rw [get?_applyVerdict_self] at hget
    obtain ⟨txn, hold, hruled⟩ := Option.bind_eq_some_iff.1 hget
    exact (hs _ txn hold).steady (steady_of_ruled hruled)
  · rw [(s.stored_applyVerdict entry now out).get?_of_ne hid] at hget
    exact hs id txn' hget

theorem Numbered.transactionId_of_mem_sentFor (hs : s.Numbered) (hf : f ∈ s.sentFor entry) :
    f.transactionId = entry.transactionId := by
  unfold sentFor at hf
  split at hf
  · exact absurd hf List.not_mem_nil
  · next txn hget =>
    split at hf
    · obtain ⟨j, state, -, -, hframe⟩ := mem_unconfirmed_iff.1 hf
      exact ((hs _ txn hget).place j f hframe).1
    · exact absurd hf List.not_mem_nil

/-- One verdict, at one frame. -/
theorem ticks_applyVerdict (hs : s.Numbered)
    (hget : (s.applyVerdict entry now out).2.pending.get? id = some txn')
    (hstate' : txn'.states[i]? = some state') (hopen : state'.confirmed = false) :
    ∃ txn state, s.pending.get? id = some txn ∧ txn.states[i]? = some state ∧
      Ticks now (occurrences id i (s.sentFor entry)) true state state' := by
  by_cases hid : entry.transactionId = id
  · subst hid
    rw [get?_applyVerdict_self] at hget
    obtain ⟨txn, hold, hruled⟩ := Option.bind_eq_some_iff.1 hget
    refine ⟨txn, ?_⟩
    unfold sentFor
    rw [hold]
    dsimp only
    unfold ruled at hruled
    split at hruled
    · next hstatus =>
      split at hruled
      · next hpaused =>
        cases hruled
        rw [hpaused, if_neg (fun h => by cases h.2)]
        exact ⟨state', rfl, hstate', .refl true hopen⟩
      · next hpaused =>
        cases hruled
        have hungated : (txn.ungate now).Numbered entry.transactionId :=
          (hs _ txn hold).steady (txn.subsides_ungate now).toSteady
        obtain ⟨state, hstate, hticks⟩ := hungated.ticks_resend hstate' hopen
        rw [if_pos ⟨hstatus, Bool.not_eq_true _ ▸ hpaused⟩]
        rw [resend_unconfirmed] at hticks
        exact ⟨state, rfl, hstate, hticks⟩
    · cases hruled
    · cases hruled
  · rw [(s.stored_applyVerdict entry now out).get?_of_ne hid] at hget
    have hzero : occurrences id i (s.sentFor entry) = 0 := occurrences_eq_zero
      fun f hf hfid => absurd ((hs.transactionId_of_mem_sentFor hf).symm.trans hfid) hid
    rw [hzero]
    exact ⟨txn', state', hget, hstate', .refl true hopen⟩

theorem ticks_applyVerdictsFrom (hs : s.Numbered)
    (hget : (applyVerdictsFrom now entries out s).2.pending.get? id = some txn')
    (hstate' : txn'.states[i]? = some state') (hopen : state'.confirmed = false) :
    ∃ m txn state, occurrences id i (applyVerdictsFrom now entries out s).1.retransmit =
        occurrences id i out.retransmit + m ∧ s.pending.get? id = some txn ∧
      txn.states[i]? = some state ∧ Ticks now m true state state' := by
  induction entries generalizing s out with
  | nil => exact ⟨0, txn', state', rfl, hget, hstate', .refl true hopen⟩
  | cons entry rest ih =>
    rw [applyVerdictsFrom_cons] at hget ⊢
    obtain ⟨m, txn₁, state₁, hocc, hget₁, hstate₁, hticks₁⟩ :=
      ih (hs.applyVerdict entry now out) hget
    obtain ⟨txn, state, hold, hstate, hticks⟩ :=
      ticks_applyVerdict hs hget₁ hstate₁ hticks₁.unconfirmed
    refine ⟨_, txn, state, ?_, hold, hstate, hticks.trans hticks₁⟩
    rw [hocc, retransmit_applyVerdict, occurrences_append, Nat.add_assoc]

theorem restarted_applyResumeVerdicts (hs : s.Numbered)
    (hget : (s.applyResumeVerdicts entries now).2.pending.get? id = some txn')
    (hstate' : txn'.states[i]? = some state') (hopen : state'.confirmed = false) :
    Restarted now id i ((SenderCall.applyResumeVerdicts entries).clockEvents s now)
      (s.pending.get? id) state' := by
  obtain ⟨m, txn, state, hocc, hold, hstate, hticks⟩ :=
    ticks_applyVerdictsFrom hs hget hstate' hopen
  have hcount : occurrences id i [] = 0 := rfl
  have hevents : eventsOf ((SenderCall.applyResumeVerdicts entries).clockEvents s now) id i =
      List.replicate m ⟨id, i, .resumed, now⟩ := by
    rw [hcount, Nat.zero_add] at hocc
    rw [← hocc]
    exact eventsOf_ofFrame .resumed now _
  exact .ticked hold hstate hevents hticks

end Verdicts

/-- A frame that is returned again is retained by the transaction it names. -/
theorem Numbered.mem_clockEvents (hs : s.Numbered) {e : ClockEvent}
    (he : e ∈ c.clockEvents s now) :
    e.ms = now ∧ c.Touches e.id ∧
      (e.seq < s.cutInto e.id ∨ e.seq < (c.apply s now).2.cutInto e.id) := by
  -- a retained frame has a place
  have hplace : ∀ {cause : Restart} {f : Frame} {txn : PendingTxn},
      s.pending.get? f.transactionId = some txn → some f ∈ txn.frames →
      (ClockEvent.ofFrame cause now f).seq < s.cutInto (ClockEvent.ofFrame cause now f).id := by
    intro cause f txn hget hf
    obtain ⟨j, hj⟩ := List.mem_iff_getElem?.1 hf
    have hseq := ((hs _ txn hget).place j f hj).2
    have hlt := (List.getElem?_eq_some_iff.1 hj).1
    have hcut : s.cutInto f.transactionId = txn.frames.length := cutInto_of_get? hget
    exact lt_of_eq_of_lt hseq (lt_of_lt_of_eq hlt hcut.symm)
  have hcut : ∀ {id : TxId} {s' : TransactionSender} {e : ClockEvent},
      e ∈ (List.range' (s.cutInto id) (s'.cutInto id - s.cutInto id)).map (fun seq =>
        (⟨id, seq, .sent, now⟩ : ClockEvent)) →
      e.ms = now ∧ id = e.id ∧ (e.seq < s.cutInto e.id ∨ e.seq < s'.cutInto e.id) := by
    intro id s' e he
    obtain ⟨seq, hseq, rfl⟩ := List.mem_map.1 he
    rw [List.mem_range'_1] at hseq
    refine ⟨rfl, rfl, .inr ?_⟩
    dsimp only
    omega
  cases c with
  | openTransaction | abortTransaction | handleAck | declarePending | timedOutDeclarations =>
    exact absurd he List.not_mem_nil
  | appendChunk id chunk | finishTransaction id | beginTransaction id payload => exact hcut he
  | setPaused id paused =>
    cases paused with
    | true => exact absurd he List.not_mem_nil
    | false =>
      obtain ⟨seq, hseq, rfl⟩ := List.mem_map.1 he
      exact ⟨rfl, rfl, .inl (List.mem_range.1 hseq)⟩
  | handleNack id seqs =>
    obtain ⟨f, hf, rfl⟩ := List.mem_map.1 he
    obtain ⟨txn, hget, hcopy⟩ := mem_handleNack hf
    have hid : f.transactionId = id := hs.ownsFrames id txn hget f hcopy
    exact ⟨rfl, hid.symm, .inl (hplace (hid ▸ hget) hcopy)⟩
  | dueRetransmissions =>
    obtain ⟨f, hf, rfl⟩ := List.mem_map.1 he
    obtain ⟨txn, hget, hdue⟩ := mem_dueRetransmissions hs.ownsFrames hf
    exact ⟨rfl, trivial, .inl (hplace hget (PendingTxn.mem_dueRetransmissions hdue))⟩
  | applyResumeVerdicts entries =>
    obtain ⟨f, hf, rfl⟩ := List.mem_map.1 he
    obtain ⟨id, txn, hentry, hget, hcopy⟩ :=
      (s.applyResumeVerdicts_adjudicates entries now).retransmit f hf
    have hid : f.transactionId = id := hs.ownsFrames id txn hget f hcopy
    exact ⟨rfl, ⟨_, hentry, hid.symm⟩, .inl (hplace (hid ▸ hget) hcopy)⟩

/-- **What a call does to the clock of a frame.** -/
theorem apply_restarted (c : SenderCall) (hs : s.Numbered)
    (hget : (c.apply s now).2.pending.get? id = some txn')
    (hstate' : txn'.states[i]? = some state') (hopen : state'.confirmed = false) :
    Restarted now id i (c.clockEvents s now) (s.pending.get? id) state' := by
  by_cases htouches : c.Touches id
  · cases c with
    | openTransaction id' total =>
      cases htouches
      rw [SenderCall.apply, openTransaction_eq] at hget
      split at hget
      · exact .quiet hget hstate' hopen rfl
      · split at hget
        · exact .quiet hget hstate' hopen rfl
        · -- nothing is cut from a copy just opened
          rw [withPending_pending, Table.get?_insert_self, Option.some.injEq] at hget
          subst hget
          cases hstate'
    | appendChunk id' chunk =>
      cases htouches
      exact (cuts_appendChunk hget).restarted hs hget hstate' hopen
    | finishTransaction id' =>
      cases htouches
      exact (cuts_finishTransaction hget).restarted hs hget hstate' hopen
    | beginTransaction id' payload =>
      cases htouches
      exact (cuts_beginTransaction hget).restarted hs hget hstate' hopen
    | setPaused id' paused =>
      cases htouches
      exact restarted_setPaused hs hget hstate' hopen
    | abortTransaction id' =>
      cases htouches
      have hgone : (s.abortTransaction id).2.pending.get? id = none := Table.get?_erase_self _ _
      exact absurd (hget.symm.trans hgone) (Option.some_ne_none _)
    | handleAck entry =>
      cases htouches
      exact restarted_handleAck hget hstate' hopen
    | handleNack id' seqs =>
      cases htouches
      exact restarted_handleNack hs hget hstate' hopen
    | dueRetransmissions => exact restarted_dueRetransmissions hs hget hstate' hopen
    | declarePending =>
      obtain ⟨txn, hold, rfl⟩ :=
        Option.map_eq_some_iff.1 ((Table.get?_mapValues _ _ _).symm.trans hget)
      exact .quiet hold hstate' hopen rfl
    | timedOutDeclarations timeoutMs =>
      obtain ⟨txn, hold, rfl⟩ :=
        Option.map_eq_some_iff.1 ((Table.get?_mapValues _ _ _).symm.trans hget)
      refine .quiet hold ?_ hopen rfl
      split at hstate'
      · exact hstate'
      · exact hstate'
    | applyResumeVerdicts entries => exact restarted_applyResumeVerdicts hs hget hstate' hopen
  · rw [get?_apply_of_not_touches htouches] at hget
    refine .quiet hget hstate' hopen (eventsOf_eq_nil fun e he hid => ?_)
    exact absurd (hid ▸ (hs.mem_clockEvents he).2.1) htouches

/-- Nothing that was cut is taken back while the transaction is pending. -/
theorem cutInto_le_apply (c : SenderCall)
    (h : (c.apply s now).2.containsTransaction id = true) :
    s.cutInto id ≤ (c.apply s now).2.cutInto id := by
  obtain ⟨txn', hget⟩ := containsTransaction_iff.1 h
  have hchange := apply_change c s now id
  rw [cutInto_of_get? hget]
  rw [hget] at hchange
  unfold cutInto
  generalize s.pending.get? id = old at hchange ⊢
  generalize hnew : some txn' = copy at hchange
  cases hchange with
  | absent | released => cases hnew
  | rests hsteady hflags =>
    cases hnew
    exact Nat.le_of_eq (congrArg List.length hsteady.frames.symm)
  | acked =>
    cases hnew
    exact Nat.le_of_eq (List.length_mapIdx).symm
  | @grows old base chunk rest ps now hc hbase hroom hcut hne =>
    cases hnew
    rw [length_frames_extend]
    rcases hbase with rfl | ⟨rfl, -⟩
    · exact Nat.le_add_right _ _
    · exact Nat.zero_le _

end TransactionSender

/-! ## Clocks in a run -/

namespace Timed

open TransactionSender

variable {config : SenderConfig} {calls : List (SenderCall × ℕ)} {t t' : Timed} {c : SenderCall}

/-- The bookkeeping of every frame that is not confirmed is what its history
says. -/
structure Synced (t : Timed) : Prop where
  clock : ∀ id txn i state, t.sender.pending.get? id = some txn → txn.states[i]? = some state →
    state.confirmed = false →
      lastStart t.log id i = some state.lastSentMs ∧ resends t.log id i = state.attempts
  /-- The history is of frames that were cut. -/
  range : ∀ e ∈ t.log, e.seq < t.sender.cutInto e.id

theorem synced_new (config : SenderConfig) : (new config).Synced where
  clock id txn i state hget := by
    rw [new, TransactionSender.new, Table.get?_empty] at hget
    cases hget
  range e he := absurd he List.not_mem_nil

theorem eventsOf_step (hstep : step t (c, now) = some t')
    (hpending : t'.sender.containsTransaction id = true) :
    eventsOf t'.log id i = eventsOf (c.clockEvents t.sender now) id i ++ eventsOf t.log id i := by
  cases hstep
  rw [eventsOf_filter hpending, eventsOf_append]

theorem Synced.step (h : t.Synced) (hs : t.sender.Numbered)
    (hstep : step t (c, now) = some t') : t'.Synced where
  clock id txn' i state' hget hstate' hopen := by
    have hsender : t'.sender = (c.apply t.sender now).2 := by
      cases hstep
      rfl
    have hevents := eventsOf_step (i := i) hstep (containsTransaction_of_get? hget)
    rw [hsender] at hget
    unfold lastStart resends
    cases apply_restarted c hs hget hstate' hopen with
    | @ticked txn state n cause hold hstate hreplicate hticks =>
      obtain ⟨hlast, hresends⟩ := h.clock id txn i state hold hstate hticks.unconfirmed
      rw [hevents, hreplicate, List.countP_append, List.countP_replicate, hticks.attempts,
        hticks.last]
      constructor
      · cases n with
        | zero => exact hlast
        | succ n => rfl
      · rw [Nat.add_comm]
        exact congrArg (· + _) hresends
    | cut hnew hsent hfresh =>
      -- no event is older than the frame
      have hnone : eventsOf t.log id i = [] := by
        refine eventsOf_eq_nil fun e he hid hseq => ?_
        have hlt := h.range e he
        rw [hid, hseq] at hlt
        cases hold : t.sender.pending.get? id with
        | none =>
          rw [cutInto, hold] at hlt
          exact Nat.not_lt_zero _ hlt
        | some txn =>
          rw [cutInto_of_get? hold] at hlt
          have := hnew txn hold
          omega
      rw [hevents, hnone, hsent, hfresh]
      exact ⟨rfl, rfl⟩
  range e he := by
    cases hstep
    obtain ⟨hmem, hpending⟩ := List.mem_filter.1 he
    have hmono := cutInto_le_apply c hpending
    rcases List.mem_append.1 hmem with hnew | hold
    · rcases (hs.mem_clockEvents hnew).2.2 with hbefore | hafter
      · exact lt_of_lt_of_le hbefore hmono
      · exact hafter
    · exact lt_of_lt_of_le (h.range e hold) hmono

/-- The history is kept beside the sender. -/
theorem run_sender (hrun : run step t calls = some t') :
    run TransactionSender.step t.sender calls = some t'.sender := by
  induction calls generalizing t with
  | nil =>
    cases hrun
    rfl
  | cons a calls ih =>
    obtain ⟨u, hstep, hrest⟩ := run_cons_eq_some.1 hrun
    cases hstep
    exact ih hrest

theorem synced_of_run (hrun : run step (new config) calls = some t) : t.Synced := by
  suffices hboth : t.Synced ∧ ∃ calls, run TransactionSender.step (.new config) calls =
      some t.sender from hboth.1
  refine run_induct (I := fun t : Timed => t.Synced ∧ ∃ calls,
    run TransactionSender.step (.new config) calls = some t.sender) ?_
    ⟨synced_new config, [], rfl⟩ hrun
  rintro u ⟨c, now⟩ u' ⟨hsynced, before, hbefore⟩ hstep
  refine ⟨hsynced.step (numbered_of_run hbefore) hstep, before ++ [(c, now)], ?_⟩
  cases hstep
  exact run_snoc hbefore rfl

theorem config_of_run (hrun : run step (new config) calls = some t) :
    t.sender.config.rtoInitialMs = config.rtoInitialMs ∧
      t.sender.config.rtoMaxMs = config.rtoMaxMs := by
  have hconfig : t.sender.config = (TransactionSender.new config).config := by
    refine run_induct
      (I := fun u : Timed => u.sender.config = (TransactionSender.new config).config) ?_ rfl hrun
    rintro u ⟨c, now⟩ u' hu hstep
    cases hstep
    exact (config_apply c u.sender now).trans hu
  rw [hconfig]
  exact ⟨rfl, rfl⟩

/-- Where the calls come in the order of their instants, so do the events. -/
theorem sorted_of_run (hsorted : calls.Pairwise fun a b => a.2 ≤ b.2)
    (hrun : run step (new config) calls = some t) :
    t.log.Pairwise (fun e e' => e'.ms ≤ e.ms) ∧
      ∀ now, (∀ a ∈ calls, a.2 ≤ now) → ∀ e ∈ t.log, e.ms ≤ now := by
  -- from the back: the events of a call are newer than all before it
  induction calls using List.reverseRecOn generalizing t with
  | nil =>
    cases hrun
    exact ⟨List.Pairwise.nil, fun _ _ e he => absurd he List.not_mem_nil⟩
  | append_singleton calls a ih =>
    obtain ⟨hbefore, -, hle⟩ := List.pairwise_append.1 hsorted
    rw [run_append, Option.bind_eq_some_iff] at hrun
    obtain ⟨u, hu, hlast⟩ := hrun
    obtain ⟨u', hstep, hnil⟩ := run_cons_eq_some.1 hlast
    cases hnil
    obtain ⟨hlog, hbound⟩ := ih hbefore hu
    have hold := hbound a.2 fun b hb => hle b hb a List.mem_cons_self
    have hs := numbered_of_run (run_sender hu)
    have hnew : ∀ e ∈ a.1.clockEvents u.sender a.2, e.ms = a.2 :=
      fun e he => (hs.mem_clockEvents he).1
    cases hstep
    constructor
    · refine List.Pairwise.filter _ (List.pairwise_append.2 ⟨?_, hlog, fun e he e' he' => ?_⟩)
      · exact List.pairwise_of_forall_mem_list fun e he e' he' =>
          ((hnew e' he').trans (hnew e he).symm).le
      · rw [hnew e he]
        exact hold e' he'
    · intro now hnow e he
      have ha := hnow a (List.mem_append_right _ List.mem_cons_self)
      rcases List.mem_append.1 (List.mem_filter.1 he).1 with he | he
      · rw [hnew e he]
        exact ha
      · exact (hold e he).trans ha

/-! ## What the clock returns -/

/-- The timeout of a frame that was sent again `k` times: doubled each time,
and capped. -/
def timeout (config : SenderConfig) (k : ℕ) : ℕ :=
  min (config.rtoInitialMs * 2 ^ min k 62) config.rtoMaxMs

/-- The saturation of `current_rto` is above the cap. -/
theorem currentRto_eq (hmax : config.rtoMaxMs < 2 ^ 64) (k : ℕ) :
    currentRto config.rtoInitialMs config.rtoMaxMs k = timeout config k := by
  unfold currentRto timeout
  omega

theorem ms_of_lastStart {last : ℕ} (h : lastStart log id i = some last) :
    ∃ e ∈ log, e.ms = last := by
  obtain ⟨e, he, rfl⟩ := Option.map_eq_some_iff.1 h
  exact ⟨e, (mem_eventsOf.1 (List.mem_of_head? he)).1, rfl⟩

/-- The last start is the newest event. -/
theorem ms_le_lastStart {last : ℕ} {e : ClockEvent}
    (hsorted : log.Pairwise fun e e' => e'.ms ≤ e.ms) (h : lastStart log id i = some last)
    (he : e ∈ eventsOf log id i) : e.ms ≤ last := by
  have hevents : (eventsOf log id i).Pairwise fun e e' => e'.ms ≤ e.ms := hsorted.filter _
  unfold lastStart at h
  cases hlist : eventsOf log id i with
  | nil =>
    rw [hlist] at h
    cases h
  | cons first rest =>
    rw [hlist] at h hevents he
    cases h
    rcases List.mem_cons.1 he with rfl | hrest
    · exact Nat.le_refl _
    · exact (List.pairwise_cons.1 hevents).1 e hrest

/-- **When a frame is due**, by its history. -/
theorem mem_dueRetransmissions_iff (hmax : config.rtoMaxMs < 2 ^ 64)
    (hsorted : calls.Pairwise fun a b => a.2 ≤ b.2)
    (hrun : run step (new config) calls = some t) (hnow : ∀ a ∈ calls, a.2 ≤ now) :
    f ∈ (t.sender.dueRetransmissions now).1 ↔ ∃ txn last,
      t.sender.pending.get? f.transactionId = some txn ∧ f ∈ txn.unconfirmed ∧
      txn.paused = false ∧ txn.awaitingResume = false ∧
      lastStart t.log f.transactionId f.seq.toNat = some last ∧
      last + timeout config (resends t.log f.transactionId f.seq.toNat) ≤ now := by
  have hs := numbered_of_run (run_sender hrun)
  have hsynced := synced_of_run hrun
  obtain ⟨hinitial, hcap⟩ := config_of_run hrun
  have hbound := (sorted_of_run hsorted hrun).2 now hnow
  -- a frame at its place is due when its history says so
  have hdue : ∀ {txn : PendingTxn} {i : ℕ} {state : FrameState},
      t.sender.pending.get? f.transactionId = some txn → txn.states[i]? = some state →
      txn.frames[i]? = some (some f) →
      (state.isDue t.sender.config now = true ↔ state.confirmed = false ∧ ∃ last,
        lastStart t.log f.transactionId f.seq.toNat = some last ∧
        last + timeout config (resends t.log f.transactionId f.seq.toNat) ≤ now) := by
    intro txn i state hget hstate hframe
    have hseq : f.seq.toNat = i := ((hs _ txn hget).place i f hframe).2
    unfold FrameState.isDue
    rw [Bool.and_eq_true, Bool.not_eq_true', decide_eq_true_iff, hinitial, hcap,
      currentRto_eq hmax]
    refine and_congr_right fun hopen => ?_
    obtain ⟨hlast, hresends⟩ := hsynced.clock _ txn i state hget hstate hopen
    obtain ⟨e, he, hms⟩ := ms_of_lastStart hlast
    have hle := hbound e he
    rw [hseq, hlast, hresends]
    constructor
    · intro hover
      exact ⟨state.lastSentMs, rfl, by omega⟩
    · rintro ⟨last, hsome, hover⟩
      rw [Option.some.injEq] at hsome
      omega
  constructor
  · intro hf
    obtain ⟨txn, hget, hmem⟩ := mem_dueRetransmissions hs.ownsFrames hf
    unfold PendingTxn.dueRetransmissions at hmem
    split at hmem
    · exact absurd hmem List.not_mem_nil
    · next hflags =>
      rw [Bool.or_eq_true, not_or, Bool.not_eq_true, Bool.not_eq_true] at hflags
      obtain ⟨i, state, hstate, hpick, hframe⟩ := PendingTxn.mem_resend_iff.1 hmem
      obtain ⟨hopen, last, hlast, hover⟩ := (hdue hget hstate hframe).1 hpick
      exact ⟨txn, last, hget, PendingTxn.mem_unconfirmed_iff.2 ⟨i, state, hstate, hopen, hframe⟩,
        hflags.1, hflags.2, hlast, hover⟩
  · rintro ⟨txn, last, hget, hmem, hpaused, hgate, hlast, hover⟩
    obtain ⟨i, state, hstate, hopen, hframe⟩ := PendingTxn.mem_unconfirmed_iff.1 hmem
    refine List.mem_flatMap.2 ⟨(f.transactionId, txn), Table.mem_toList.2 hget, ?_⟩
    unfold PendingTxn.dueRetransmissions
    rw [hpaused, hgate]
    exact PendingTxn.mem_resend_iff.2
      ⟨i, state, hstate, (hdue hget hstate hframe).2 ⟨hopen, last, hlast, hover⟩, hframe⟩

/-- What the clock returns of one transaction goes by its seqs. -/
theorem pairwise_dueRetransmissions {s : TransactionSender} (hs : s.Numbered) (now : ℕ)
    (id : TxId) : ((s.dueRetransmissions now).1.filter fun f =>
      decide (f.transactionId = id)).Pairwise fun f g => f.seq < g.seq := by
  rw [hs.filter_dueRetransmissions]
  cases hget : s.pending.get? id with
  | none => exact List.Pairwise.nil
  | some txn =>
    rw [Option.elim_some]
    unfold PendingTxn.dueRetransmissions
    split
    · exact List.Pairwise.nil
    · exact (hs id txn hget).pairwise_resend _ now

theorem nodup_dueRetransmissions {s : TransactionSender} (hs : s.Numbered) (now : ℕ) :
    (s.dueRetransmissions now).1.Nodup := by
  rw [List.nodup_iff_count_le_one]
  intro f
  have hown := pairwise_dueRetransmissions hs now f.transactionId
  have hnodup : ((s.dueRetransmissions now).1.filter fun g =>
      decide (g.transactionId = f.transactionId)).Nodup :=
    hown.imp fun hlt heq => by
      rw [heq] at hlt
      exact absurd hlt (UInt32.lt_irrefl _)
  have hself : (fun g : Frame => decide (g.transactionId = f.transactionId)) f = true :=
    decide_eq_true rfl
  have hcount := List.nodup_iff_count_le_one.1 hnodup f
  rw [List.count_filter (p := fun g : Frame => decide (g.transactionId = f.transactionId)) hself]
    at hcount
  exact hcount

/-- **The retransmission schedule.** In every run whose instants do not
decrease, the clock returns a frame exactly when the frame is not confirmed,
its transaction is neither paused nor gated, and its timeout has run out
since its clock was last started; each such frame once, and those of a
transaction in the order of their seqs. So whatever was sent of the frame
before lies back by its timeout at least. -/
theorem dueRetransmissions_schedule (hmax : config.rtoMaxMs < 2 ^ 64)
    (hsorted : calls.Pairwise fun a b => a.2 ≤ b.2)
    (hrun : run step (new config) calls = some t) (hnow : ∀ a ∈ calls, a.2 ≤ now) :
    (∀ f, f ∈ (t.sender.dueRetransmissions now).1 ↔ ∃ txn last,
      t.sender.pending.get? f.transactionId = some txn ∧ f ∈ txn.unconfirmed ∧
      txn.paused = false ∧ txn.awaitingResume = false ∧
      lastStart t.log f.transactionId f.seq.toNat = some last ∧
      last + timeout config (resends t.log f.transactionId f.seq.toNat) ≤ now) ∧
    (t.sender.dueRetransmissions now).1.Nodup ∧
    (∀ id, ((t.sender.dueRetransmissions now).1.filter fun f =>
      decide (f.transactionId = id)).Pairwise fun f g => f.seq < g.seq) ∧
    ∀ f ∈ (t.sender.dueRetransmissions now).1,
      ∀ e ∈ eventsOf t.log f.transactionId f.seq.toNat,
        e.ms + timeout config (resends t.log f.transactionId f.seq.toNat) ≤ now := by
  have hs := numbered_of_run (run_sender hrun)
  refine ⟨fun f => mem_dueRetransmissions_iff hmax hsorted hrun hnow,
    nodup_dueRetransmissions hs now, pairwise_dueRetransmissions hs now, fun f hf e he => ?_⟩
  obtain ⟨-, last, -, -, -, -, hlast, hover⟩ :=
    (mem_dueRetransmissions_iff hmax hsorted hrun hnow).1 hf
  have hle := ms_le_lastStart (sorted_of_run hsorted hrun).1 hlast he
  omega

namespace Sample

/-- One frame, sent at 1 and timed out at 2001. -/
def timedOut : List (SenderCall × ℕ) :=
  [(.openTransaction zeroId 2, 0), (.appendChunk zeroId [1, 2], 1), (.dueRetransmissions, 2001)]

end Sample

/-- The frame is due again at 6001, and not before. -/
theorem dueRetransmissions_schedule_sample :
    ∃ t, run step (new { frameSize := 2 }) Sample.timedOut = some t ∧
      t.log.map (fun e => (e.cause, e.ms)) = [(.timedOut, 2001), (.sent, 1)] ∧
      (t.sender.dueRetransmissions 6000).1 = [] ∧
      (t.sender.dueRetransmissions 6001).1 = [dataFrame zeroId 2 0 [1, 2]] ∧
      ∀ e ∈ eventsOf t.log zeroId 0, e.ms + 4000 ≤ 6001 := by
  obtain ⟨t, hrun, hlog, hbefore, hdue, hresends⟩ :
      ∃ t, run step (new { frameSize := 2 }) Sample.timedOut = some t ∧
        t.log.map (fun e => (e.cause, e.ms)) = [(.timedOut, 2001), (.sent, 1)] ∧
        (t.sender.dueRetransmissions 6000).1 = [] ∧
        (t.sender.dueRetransmissions 6001).1 = [dataFrame zeroId 2 0 [1, 2]] ∧
        resends t.log zeroId 0 = 1 := by decide
  have hnow : ∀ a ∈ Sample.timedOut, a.2 ≤ 6001 := by decide
  have hspaced := (dueRetransmissions_schedule (by decide) (by decide) hrun hnow).2.2.2
  refine ⟨_, hrun, hlog, hbefore, hdue, fun e he => ?_⟩
  have hpast := hspaced _ (hdue ▸ List.mem_cons_self) e he
  have hseq : (dataFrame zeroId 2 0 [1, 2]).seq.toNat = 0 := rfl
  rw [dataFrame_transactionId, hseq, hresends] at hpast
  exact hpast

end Timed

end Reliability

end Xacpp
