import Xacpp.Carrier.Queues
/-!
# The pending table and the calls

A slot enters the pending table with its call, and leaves it with the
response, with a tear-down, or with the call that takes it back. Between the
two the call has not failed, and a `send` has not returned (`Owned`). The
one exit that forgets the slot is the read of an empty egress entry: the
call returns there with its slot in the table. `FindsEgress` asks that no
call comes to it.
-/

namespace Xacpp

namespace Carrier

/-- The call, standing where it does, may have a slot in the table. -/
def Call.MayHold (call : Call) : Prop :=
  match call.pc with
  | .insert | .returned (.error _) => False
  | .returned (.ok _) => call.kind = .sendFaf
  | .awaitWrite _ | .awaitResponse _ => call.kind = .send
  | .readEgress | .check _ | .enqueue _ | .remove .. => True

namespace Requests

variable {r r' : Requests} {parse : Bytes → Option UInt64} {a : Action} {n k : ℕ}

/-! ## Whose the slots are -/

/-- **Every slot is its call's**: it sits under the call's id and the call
may still hold it. A call that was answered has no slot. -/
structure Owned (b : Books) : Prop where
  slot : ∀ id slot, b.pending.get? id = some slot → ∃ call, b.calls.get? slot.call = some call ∧
    call.id = id ∧ call.kind.slot slot.call = slot ∧ call.MayHold
  answered : ∀ k ∈ b.responded, (∃ call, b.calls.get? k = some call ∧ call.pc ≠ .insert) ∧
    ∀ id, b.pending.get? id ≠ some (.respond k)

theorem Owned.new (transport : Transport) : Owned (new transport).books := by
  constructor
  · intro id slot hget
    change (∅ : Table UInt64 PendingSlot).get? id = some slot at hget
    rw [Table.get?_empty] at hget
    cases hget
  · exact fun k hk => absurd hk (Finset.notMem_empty k)

/-- A table with fewer slots. -/
theorem Owned.of_subset {b : Books} (h : Owned b) {pending : Table UInt64 PendingSlot}
    (hsub : ∀ id slot, pending.get? id = some slot → b.pending.get? id = some slot) :
    Owned { b with pending := pending } where
  slot id slot hget := h.slot id slot (hsub id slot hget)
  answered k hk := ⟨(h.answered k hk).1, fun id hget => (h.answered k hk).2 id (hsub id _ hget)⟩

/-- A response arrives: its call has no slot any more. -/
theorem Owned.respond (h : Owned r.books) (id : UInt64) : Owned (r.respond id).books := by
  unfold Requests.respond
  split
  · next k hslot =>
    refine ⟨(h.of_subset fun _ _ hget => (Table.of_get?_erase hget).2).slot, fun k' hk' => ?_⟩
    rcases Finset.mem_insert.1 hk' with rfl | hk'
    · obtain ⟨call, hcall, hid, -, hholds⟩ := h.slot id _ hslot
      refine ⟨⟨call, hcall, fun hpc => ?_⟩, fun id' hget => ?_⟩
      · rw [Call.MayHold, hpc] at hholds
        exact hholds
      · -- both slots sit under the call's id
        obtain ⟨call', hcall', hid', -⟩ := h.slot id' _ (Table.of_get?_erase hget).2
        rw [show call' = call from Option.some.inj (hcall'.symm.trans hcall), hid] at hid'
        subst hid'
        exact absurd hget (by simp [books])
    · obtain ⟨hcall, hno⟩ := h.answered k' hk'
      exact ⟨hcall, fun id' hget => hno id' (Table.of_get?_erase hget).2⟩
  · exact h.of_subset fun _ _ hget => (Table.of_get?_erase hget).2
  · exact h

theorem Owned.loses {b : Books} (h : Owned r.books) (hloses : Loses r b) : Owned b := by
  cases hloses with
  | none => exact h
  | all =>
    refine h.of_subset fun id slot hget => ?_
    change (∅ : Table UInt64 PendingSlot).get? id = some slot at hget
    rw [Table.get?_empty] at hget
    cases hget
  | one id => exact h.respond id

/-- A call moves on, with nothing added to the table: the slot that is left
to it, if one is, it may still hold. -/
theorem Owned.setCall (h : Owned r.books) {call : Call} {pc : CallPc}
    {pending : Table UInt64 PendingSlot} (hget : r.calls.get? k = some call)
    (hpc : pc ≠ .insert)
    (hsub : ∀ id slot, pending.get? id = some slot → r.pending.get? id = some slot)
    (hholds : pending.get? call.id = some (call.kind.slot k) → call.MayHold →
      Call.MayHold { call with pc := pc }) :
    Owned ({ r with pending := pending }.setCall k call pc).books := by
  constructor
  · intro id slot hslot
    obtain ⟨owner, howner, hid, heq, hheld⟩ := h.slot id slot (hsub id slot hslot)
    change ∃ c, (r.calls.insert k _).get? slot.call = some c ∧ _
    by_cases hk : slot.call = k
    · rw [hk] at howner heq ⊢
      obtain rfl : call = owner := Option.some.inj (hget.symm.trans howner)
      rw [← hid, ← heq] at hslot
      exact ⟨_, Table.get?_insert_self _ _ _, hid, heq, hholds hslot hheld⟩
    · rw [Table.get?_insert_of_ne _ _ hk]
      exact ⟨owner, howner, hid, heq, hheld⟩
  · intro k' hk'
    obtain ⟨⟨owner, howner, hpc'⟩, hno⟩ := h.answered k' hk'
    refine ⟨?_, fun id hslot => hno id (hsub id _ hslot)⟩
    change ∃ c, (r.calls.insert k _).get? k' = some c ∧ _
    by_cases hk : k' = k
    · rw [hk]
      exact ⟨_, Table.get?_insert_self _ _ _, hpc⟩
    · rw [Table.get?_insert_of_ne _ _ hk]
      exact ⟨owner, howner, hpc'⟩

/-- A new call. -/
theorem Owned.start (h : Owned r.books) (hfresh : r.calls.get? k = none) (call : Call) :
    Owned { r.books with calls := r.calls.insert k call } := by
  constructor
  · intro id slot hslot
    obtain ⟨owner, howner, hheld⟩ := h.slot id slot hslot
    refine ⟨owner, ?_, hheld⟩
    have hk : slot.call ≠ k := by
      rintro rfl
      rw [books, hfresh] at howner
      cases howner
    exact (Table.get?_insert_of_ne _ _ hk).trans howner
  · intro k' hk'
    obtain ⟨⟨owner, howner, hpc⟩, hno⟩ := h.answered k' hk'
    refine ⟨⟨owner, ?_, hpc⟩, hno⟩
    have hk : k' ≠ k := by
      rintro rfl
      rw [books, hfresh] at howner
      cases howner
    exact (Table.get?_insert_of_ne _ _ hk).trans howner

/-- A call puts its slot into the table. -/
theorem Owned.insert (h : Owned r.books) {call : Call} (hget : r.calls.get? k = some call)
    (hpc : call.pc = .insert) :
    Owned ({ r with pending := r.pending.insert call.id (call.kind.slot k) }.setCall k call
      .readEgress).books := by
  have hcall : (call.kind.slot k).call = k := by cases call.kind <;> rfl
  constructor
  · intro id slot hslot
    change ∃ c, (r.calls.insert k _).get? slot.call = some c ∧ _
    rcases Table.of_get?_insert hslot with ⟨rfl, rfl⟩ | ⟨-, hslot⟩
    · rw [hcall]
      exact ⟨_, Table.get?_insert_self _ _ _, rfl, rfl, trivial⟩
    · obtain ⟨owner, howner, hid, heq, hheld⟩ := h.slot id slot hslot
      -- a call that has not put its slot in has none
      have hk : slot.call ≠ k := by
        intro hk
        rw [hk] at howner
        obtain rfl : call = owner := Option.some.inj (hget.symm.trans howner)
        rw [Call.MayHold, hpc] at hheld
        exact hheld
      rw [Table.get?_insert_of_ne _ _ hk]
      exact ⟨owner, howner, hid, heq, hheld⟩
  · intro k' hk'
    obtain ⟨⟨owner, howner, hpc'⟩, hno⟩ := h.answered k' hk'
    have hk : k' ≠ k := by
      rintro rfl
      obtain rfl : call = owner := Option.some.inj (hget.symm.trans howner)
      exact hpc' hpc
    refine ⟨⟨owner, (Table.get?_insert_of_ne _ _ hk).trans howner, hpc'⟩, fun id hslot => ?_⟩
    rcases Table.of_get?_insert hslot with ⟨-, heq⟩ | ⟨-, hslot⟩
    · rw [← heq] at hcall
      exact hk hcall
    · exact hno id hslot

/-! ## Every stretch of a call -/

/-- A call that reads the egress entry finds one. -/
def FindsEgress (r : Requests) : Action → Prop
  | .advance k => (r.calls.get? k).map Call.pc = some .readEgress →
    r.transport.shared.egress ≠ none
  | _ => True

instance decidableFindsEgress (r : Requests) : ∀ a, Decidable (FindsEgress r a)
  | .advance _ => inferInstanceAs (Decidable (_ = _ → _ ≠ _))
  | .start .. | .transport _ | .drain .. | .enqueue .. => isTrue trivial

theorem Owned.call (h : Owned r.books) {call : Call} (hget : r.calls.get? k = some call)
    (hfinds : FindsEgress r (.advance k)) (hadvance : r.advanceCall k call = some r') :
    Owned r'.books := by
  have hmove : ∀ {pc : CallPc}, pc ≠ .insert →
      (r.pending.get? call.id = some (call.kind.slot k) → call.MayHold →
        Call.MayHold { call with pc := pc }) → Owned (r.setCall k call pc).books :=
    fun hpc hholds => h.setCall hget hpc (fun _ _ => id) hholds
  unfold advanceCall at hadvance
  cases hpc : call.pc with
  | insert =>
    rw [hpc] at hadvance
    cases hadvance
    exact h.insert hget hpc
  | readEgress =>
    rw [FindsEgress, hget, Option.map_some, hpc] at hfinds
    rw [hpc] at hadvance
    dsimp only at hadvance
    split at hadvance
    · next hnone => exact absurd hnone (hfinds rfl)
    · cases hadvance
      exact hmove (fun h => by cases h) fun _ _ => trivial
  | check n =>
    rw [hpc] at hadvance
    dsimp only at hadvance
    split at hadvance
    · cases hadvance
      exact hmove (fun h => by cases h) fun _ _ => trivial
    · cases hadvance
      exact hmove (fun h => by cases h) fun _ _ => trivial
  | enqueue n =>
    rw [hpc] at hadvance
    dsimp only at hadvance
    split at hadvance
    · cases hadvance
      exact hmove (fun h => by cases h) fun _ _ => trivial
    · split at hadvance
      · next hkind =>
        cases hadvance
        rw [books_push_setCall]
        exact hmove (fun h => by cases h) fun _ _ => hkind
      · next hkind =>
        cases hadvance
        rw [books_push_setCall]
        exact hmove (fun h => by cases h) fun _ _ => hkind
  | awaitWrite n =>
    rw [hpc] at hadvance
    dsimp only at hadvance
    split at hadvance
    · cases hadvance
      refine hmove (fun h => by cases h) fun _ hheld => ?_
      rw [Call.MayHold, hpc] at hheld
      exact hheld
    · cases hadvance
      exact hmove (fun h => by cases h) fun _ _ => trivial
    · split at hadvance
      · cases hadvance
        exact hmove (fun h => by cases h) fun _ _ => trivial
      · cases hadvance
  | remove n e =>
    rw [hpc] at hadvance
    cases hadvance
    refine h.setCall hget (fun h => by cases h)
      (fun _ _ hget => (Table.of_get?_erase hget).2) fun hslot => ?_
    rw [Table.get?_erase_self] at hslot
    cases hslot
  | awaitResponse n =>
    rw [hpc] at hadvance
    dsimp only at hadvance
    split at hadvance
    · next hanswered =>
      cases hadvance
      refine hmove (fun h => by cases h) fun hslot hheld => ?_
      rw [Call.MayHold, hpc] at hheld
      rw [hheld] at hslot
      exact absurd hslot ((h.answered k hanswered).2 call.id)
    · split at hadvance
      · cases hadvance
      · next hdropped =>
        cases hadvance
        refine hmove (fun h => by cases h) fun hslot hheld => ?_
        rw [Call.MayHold, hpc] at hheld
        rw [hheld] at hslot
        exact absurd hslot hdropped
  | returned result =>
    rw [hpc] at hadvance
    cases hadvance

theorem Owned.step (h : Owned r.books) (hfinds : FindsEgress r a)
    (hstep : step parse r a = some r') : Owned r'.books := by
  have hmoves := (step_effect hstep).1
  generalize r'.books = b at hmoves ⊢
  cases hmoves with
  | start hfresh => exact h.start hfresh _
  | call hget hadvance => exact h.call hget hfinds hadvance
  | task hloses => exact h.loses hloses

/-- **The pending table holds the calls'.** In every run in which no call
reads an empty egress entry, a call that has failed has no slot in the
table, and the calls whose oneshots are in the table are `send` calls that
have not returned. -/
theorem pending_owned {transport : Transport} {acts : List Action}
    (hmeets : RunMeets (step parse) FindsEgress (new transport) acts)
    (hrun : run (step parse) (new transport) acts = some r) :
    (∀ k call e, r.calls.get? k = some call → call.pc = .returned (.error e) →
      ∀ id slot, r.pending.get? id = some slot → slot.call ≠ k) ∧
    ∀ id k, r.pending.get? id = some (.respond k) →
      ∃ call, r.calls.get? k = some call ∧ call.kind = .send ∧
        ∀ result, call.pc ≠ .returned result := by
  have howned : Owned r.books :=
    run_induct_of (I := fun r => Owned r.books) (fun _ _ _ h hfinds hstep => h.step hfinds hstep)
      (Owned.new transport) hmeets hrun
  constructor
  · rintro k call e hget hpc id slot hslot rfl
    obtain ⟨owner, howner, -, -, hheld⟩ := howned.slot id slot hslot
    obtain rfl : call = owner := Option.some.inj (hget.symm.trans howner)
    rw [Call.MayHold, hpc] at hheld
    exact hheld
  · intro id k hslot
    obtain ⟨call, hget, -, heq, hheld⟩ := howned.slot id _ hslot
    have hkind : call.kind = .send := by
      cases hkind : call.kind with
      | send => rfl
      | sendFaf =>
        rw [hkind] at heq
        cases heq
    refine ⟨call, hget, hkind, fun result hpc => ?_⟩
    rw [Call.MayHold, hpc] at hheld
    cases result with
    | error e => exact hheld
    | ok _ =>
      rw [hkind] at hheld
      cases hheld

namespace Sample

/-- `connect` to its return, on a transport that keeps `handles` handles. -/
def connected (handles : ℕ) : List Action :=
  .transport .connect :: List.replicate (4 + handles) (.transport (.advance true))

/-- A `send` whose write fails, to its return. -/
def unwritten : List Action :=
  .start 0 .send true :: List.replicate 4 (.advance 0) ++ [.drain 0 false, .advance 0, .advance 0]

end Sample

/-- On either transport a `send` whose write fails takes its slot back. -/
theorem pending_owned_sample :
    (∃ r, run (step fun _ => none) (new (.socket .connectTo))
        (Sample.connected 1 ++ Sample.unwritten) = some r ∧
      (r.calls.get? 0).map Call.pc = some (.returned (.error .closed)) ∧
      ∀ id slot, r.pending.get? id = some slot → slot.call ≠ 0) ∧
    ∃ r, run (step fun _ => none) (new (.stdio .new))
        (Sample.connected 2 ++ Sample.unwritten) = some r ∧
      (r.calls.get? 0).map Call.pc = some (.returned (.error .closed)) ∧
      ∀ id slot, r.pending.get? id = some slot → slot.call ≠ 0 := by
  obtain ⟨r, hrun, hpc⟩ : ∃ r, run (step fun _ => none) (new (.socket .connectTo))
        (Sample.connected 1 ++ Sample.unwritten) = some r ∧
      (r.calls.get? 0).map Call.pc = some (.returned (.error .closed)) := by decide +kernel
  obtain ⟨r', hrun', hpc'⟩ : ∃ r, run (step fun _ => none) (new (.stdio .new))
        (Sample.connected 2 ++ Sample.unwritten) = some r ∧
      (r.calls.get? 0).map Call.pc = some (.returned (.error .closed)) := by decide +kernel
  refine ⟨⟨_, hrun, hpc, fun id slot hslot => ?_⟩, _, hrun', hpc', fun id slot hslot => ?_⟩
  · obtain ⟨call, hget, hreturned⟩ := Option.map_eq_some_iff.1 hpc
    exact (pending_owned (by decide +kernel) hrun).1 0 call _ hget hreturned id slot hslot
  · obtain ⟨call, hget, hreturned⟩ := Option.map_eq_some_iff.1 hpc'
    exact (pending_owned (by decide +kernel) hrun').1 0 call _ hget hreturned id slot hslot

/-- **A slot is left behind**: before `connect`, and after `disconnect` has
taken the egress entry, a call fails where it reads that entry, and its slot
stays in the table. -/
theorem slot_left_behind :
    (∃ r, run (step fun _ => none) (new (.socket .connectTo))
        [.start 0 .send true, .advance 0, .advance 0, .start 1 .sendFaf true, .advance 1,
          .advance 1] = some r ∧
      (r.calls.get? 0).map Call.pc = some (.returned (.error .notConnected)) ∧
      r.pending.get? 1 = some (.respond 0) ∧
      (r.calls.get? 1).map Call.pc = some (.returned (.error .notConnected)) ∧
      r.pending.get? 2 = some (.drop 1)) ∧
    ∃ r, run (step fun _ => none) (new (.stdio .new))
        (Sample.connected 2 ++ .transport .disconnect ::
          List.replicate 5 (.transport (.advance true)) ++
          [.start 0 .send true, .advance 0, .advance 0]) = some r ∧
      (r.calls.get? 0).map Call.pc = some (.returned (.error .notConnected)) ∧
      r.pending.get? 1 = some (.respond 0) := by
  decide +kernel

end Requests

end Carrier

end Xacpp
