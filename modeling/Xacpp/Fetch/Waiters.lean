import Xacpp.Fetch.Steps
/-!
# Waiting on a slot

`ResolveSlot::wait` looks at the result under its lock, lets go of the lock,
and only then asks for a `Notified`. `notify_waiters` wakes the `Notified`s
there are and leaves nothing behind for one that is created later, so a
waiter between the two misses it. Where the notification never finds a
waiter there (`Attentive`), no waiter is parked after it.
-/

namespace Xacpp

namespace Fetch

/-- The task has seen no result in the slot and is about to park. -/
def Task.parks (slot : ℕ) : Task → Bool
  | .fetch _ (.park k) => decide (k = slot)
  | _ => false

/-- The task is at one of the three places that the notification is about. -/
def Task.watched : Task → Bool
  | .fetch _ (.notify _) | .fetch _ (.park _) | .fetch _ (.parked _ _) => true
  | _ => false

namespace FetchService

variable {f f' : FetchService} {t : ℕ} {task : Task} {a : Action}

/-- The notification of a slot finds no waiter between its look at the
result and its `Notified`. -/
def Attentive (f : FetchService) : Action → Prop
  | .advance t =>
    match f.tasks.get? t with
    | some (.fetch _ (.notify _)) => ∀ e ∈ f.tasks.toList, e.2.parks t = false
    | _ => True
  | _ => True

instance (f : FetchService) (a : Action) : Decidable (Attentive f a) := by
  unfold Attentive
  split
  · split <;> infer_instance
  · infer_instance

/-- Who is notified has a result, and nobody parks after the notification. -/
structure Attended (f : FetchService) : Prop where
  filled : ∀ k slot, f.slots.get? k = some slot → slot.notified = true → slot.result.isSome = true
  notifying : ∀ t uri outcome slot, f.tasks.get? t = some (.fetch uri (.notify outcome)) →
    f.slots.get? t = some slot → slot.result.isSome = true
  parking : ∀ t uri k slot, f.tasks.get? t = some (.fetch uri (.park k)) →
    f.slots.get? k = some slot → slot.notified = false
  parked : ∀ t uri k late, f.tasks.get? t = some (.fetch uri (.parked k late)) → late = false

theorem attended_new : Attended new where
  filled k slot h := by simp at h
  notifying t uri outcome slot h := by simp at h
  parking t uri k slot h := by simp at h
  parked t uri k late h := by simp at h

/-- A task goes on, the slots being what they were. -/
theorem Attended.of_insert (h : Attended f) (hslots : f'.slots = f.slots)
    (htasks : f'.tasks = f.tasks.insert t task)
    (hnotify : ∀ uri outcome, task ≠ .fetch uri (.notify outcome))
    (hpark : ∀ uri k slot, task = .fetch uri (.park k) → f.slots.get? k = some slot →
      slot.notified = false)
    (hparked : ∀ uri k late, task = .fetch uri (.parked k late) → late = false) : Attended f' := by
  refine ⟨?_, fun t' uri outcome slot hget hslot => ?_, fun t' uri k slot hget hslot => ?_,
    fun t' uri k late hget => ?_⟩
  · rw [hslots]
    exact h.filled
  · rw [htasks, Table.get?_insert] at hget
    rw [hslots] at hslot
    split at hget
    · exact absurd (Option.some.inj hget) (hnotify uri outcome)
    · exact h.notifying t' uri outcome slot hget hslot
  · rw [htasks, Table.get?_insert] at hget
    rw [hslots] at hslot
    split at hget
    · exact hpark uri k slot (Option.some.inj hget) hslot
    · exact h.parking t' uri k slot hget hslot
  · rw [htasks, Table.get?_insert] at hget
    split at hget
    · exact hparked uri k late (Option.some.inj hget)
    · exact h.parked t' uri k late hget

/-- A task that comes to none of the three places. -/
theorem Attended.of_elsewhere (h : Attended f) (hslots : f'.slots = f.slots)
    (htasks : f'.tasks = f.tasks.insert t task) (hfree : task.watched = false) : Attended f' := by
  refine h.of_insert hslots htasks (fun uri outcome htask => ?_) (fun uri k _ htask => ?_)
    (fun uri k late htask => ?_)
  all_goals
    rw [htask] at hfree
    cases hfree

theorem Attended.moves {old : Task} (h : Attended f) (hget : f.tasks.get? t = some old)
    (hmoves : Moves f t old task) : Attended (f.setTask t task) := by
  cases hmoves with
  | @misreads uri k hnone =>
    refine h.of_insert rfl rfl (fun _ _ htask => by cases htask) (fun _ _ slot htask hslot => ?_)
      (fun _ _ _ htask => by cases htask)
    cases htask
    -- a slot that was notified has a result
    by_contra hnotified
    have hsome := h.filled k slot hslot (Bool.eq_true_of_not_eq_false hnotified)
    rw [hslot, Option.bind_some] at hnone
    rw [hnone] at hsome
    cases hsome
  | @parks uri k =>
    refine h.of_insert rfl rfl (fun _ _ htask => by cases htask) (fun _ _ _ htask => by cases htask)
      (fun _ _ late htask => ?_)
    cases htask
    cases hslot : f.slots.get? k with
    | none => rfl
    | some slot => exact h.parking t uri k slot hget hslot
  | finds | joins | misses | builds | fails | reads | answers | returns | beginReturns | refuses
  | flowReturns | abortReturns | findsBegun | owns | stops | leaves | unwraps =>
    exact h.of_elsewhere rfl rfl rfl

theorem not_watched_of_begins (h : task.Begins) : task.watched = false := by
  cases task with
  | fetch uri pc =>
    have hpc : pc = .check := h
    rw [hpc]
    rfl
  | fetchBegin | fetchFlow | fetchAbort | serving => rfl

theorem not_watched_of_cancelled {old : Task} (h : cancelled old = some task) :
    task.watched = false := by
  unfold cancelled at h
  split at h <;> cases h <;> rfl

/-- What a task is after a wake-up is what it was, or a waiter that looks
again. -/
theorem of_wake {k : ℕ} {old : Task} (h : wake k old = task)
    (hwait : ∀ uri, task ≠ .fetch uri (.wait k)) :
    old = task := by
  unfold wake at h
  split at h
  · next uri slot late =>
    split at h
    · next hk =>
      subst hk
      exact absurd h.symm (hwait uri)
    · exact h
  · exact h

/-- The notification wakes who is parked, and finds nobody about to park. -/
theorem Attended.notifies {uri : String} {outcome : Outcome} (h : Attended f)
    (hget : f.tasks.get? t = some (.fetch uri (.notify outcome)))
    (hattentive : ∀ e ∈ f.tasks.toList, e.2.parks t = false) :
    Attended ({ f with
      slots := f.slots.modify t fun slot => { slot with notified := true }
      tasks := f.tasks.mapValues fun _ => wake t }.setTask t
        (.fetch uri (.returning outcome))) := by
  -- a task at one of the three places was there before
  have hbefore : ∀ t' task, task.watched = true →
      ((f.tasks.mapValues fun _ => wake t).insert t (.fetch uri (.returning outcome))).get? t' =
        some task → t' ≠ t ∧ f.tasks.get? t' = some task := by
    intro t' task hwatched htask
    rw [Table.get?_insert] at htask
    split at htask
    · cases htask
      cases hwatched
    · next hne =>
      rw [Table.get?_mapValues, Option.map_eq_some_iff] at htask
      obtain ⟨old, hold, hwake⟩ := htask
      have heq : old = task := of_wake hwake fun uri hwait => by
        rw [hwait] at hwatched
        cases hwatched
      exact ⟨hne, heq ▸ hold⟩
  have hslot : ∀ k slot, (f.slots.modify t fun slot => { slot with notified := true }).get? k =
      some slot → ∃ slot', f.slots.get? k = some slot' ∧ slot.result = slot'.result ∧
        (k ≠ t → slot = slot') := by
    intro k slot hk
    rw [Table.get?_modify] at hk
    split at hk
    · next hkt =>
      obtain ⟨slot', hslot', rfl⟩ := Option.map_eq_some_iff.1 hk
      exact ⟨slot', hkt ▸ hslot', rfl, fun hne => absurd hkt hne⟩
    · exact ⟨slot, hk, rfl, fun _ => rfl⟩
  refine ⟨fun k slot hk hnotified => ?_, fun t' u o slot ht' hk => ?_, fun t' u k slot ht' hk => ?_,
    fun t' u k late ht' => ?_⟩
  · obtain ⟨slot', hslot', hresult, hsame⟩ := hslot k slot hk
    rw [hresult]
    by_cases hkt : k = t
    · exact h.notifying t uri outcome slot' hget (hkt ▸ hslot')
    · exact h.filled k slot' hslot' (hsame hkt ▸ hnotified)
  · obtain ⟨-, hold⟩ := hbefore t' _ rfl ht'
    obtain ⟨slot', hslot', hresult, -⟩ := hslot t' slot hk
    rw [hresult]
    exact h.notifying t' u o slot' hold hslot'
  · obtain ⟨-, hold⟩ := hbefore t' _ rfl ht'
    obtain ⟨slot', hslot', -, hsame⟩ := hslot k slot hk
    have hkt : k ≠ t := by
      intro hkt
      have hparks := hattentive _ (Table.mem_toList.2 hold)
      simp [Task.parks, hkt] at hparks
    rw [hsame hkt]
    exact h.parking t' u k slot' hold hslot'
  · obtain ⟨-, hold⟩ := hbefore t' _ rfl ht'
    exact h.parked t' u k late hold

/-- The placeholder's slot is new: nobody has been notified of it. -/
theorem Attended.places {uri : String} (h : Attended f) :
    Attended ({ f with
      byUri := f.byUri.insert uri (.resolving t)
      slots := f.slots.insert t ⟨none, false⟩ }.setTask t (.fetch uri .resolve)) := by
  have hbefore : ∀ t' task, task.watched = true →
      (f.tasks.insert t (.fetch uri .resolve)).get? t' = some task →
        t' ≠ t ∧ f.tasks.get? t' = some task := by
    intro t' task hwatched htask
    rw [Table.get?_insert] at htask
    split at htask
    · cases htask
      cases hwatched
    · next hne => exact ⟨hne, htask⟩
  have hslot : ∀ k slot, (f.slots.insert t ⟨none, false⟩).get? k = some slot →
      f.slots.get? k = some slot ∨ k = t ∧ slot.notified = false := by
    intro k slot hk
    rw [Table.get?_insert] at hk
    split at hk
    · next hkt =>
      cases hk
      exact .inr ⟨hkt, rfl⟩
    · exact .inl hk
  refine ⟨fun k slot hk hnotified => ?_, fun t' u o slot ht' hk => ?_, fun t' u k slot ht' hk => ?_,
    fun t' u k late ht' => h.parked t' u k late (hbefore t' _ rfl ht').2⟩
  · rcases hslot k slot hk with hold | ⟨-, hfalse⟩
    · exact h.filled k slot hold hnotified
    · rw [hfalse] at hnotified
      cases hnotified
  · obtain ⟨hne, hold⟩ := hbefore t' _ rfl ht'
    rcases hslot t' slot hk with hkept | ⟨heq, -⟩
    · exact h.notifying t' u o slot hold hkept
    · exact absurd heq hne
  · obtain ⟨-, hold⟩ := hbefore t' _ rfl ht'
    rcases hslot k slot hk with hkept | ⟨-, hfalse⟩
    · exact h.parking t' u k slot hold hkept
    · exact hfalse

/-- The result is in the slot before the notification. -/
theorem Attended.fills {uri : String} {outcome : Outcome} (h : Attended f) :
    Attended ({ f with
      slots := f.slots.modify t fun slot => { slot with result := some outcome } }.setTask t
        (.fetch uri (.notify outcome))) := by
  have hslot : ∀ k slot,
      (f.slots.modify t fun slot => { slot with result := some outcome }).get? k = some slot →
        (k = t → slot.result.isSome = true) ∧ ∃ slot', f.slots.get? k = some slot' ∧
          slot.notified = slot'.notified ∧
            (slot'.result.isSome = true → slot.result.isSome = true) := by
    intro k slot hk
    rw [Table.get?_modify] at hk
    split at hk
    · next hkt =>
      obtain ⟨slot', hslot', rfl⟩ := Option.map_eq_some_iff.1 hk
      exact ⟨fun _ => rfl, slot', hkt ▸ hslot', rfl, fun _ => rfl⟩
    · next hne => exact ⟨fun heq => absurd heq hne, slot, hk, rfl, fun hsome => hsome⟩
  refine ⟨fun k slot hk hnotified => ?_, fun t' u o slot ht' hk => ?_, fun t' u k slot ht' hk => ?_,
    fun t' u k late ht' => ?_⟩
  · obtain ⟨-, slot', hslot', hsame, hresult⟩ := hslot k slot hk
    exact hresult (h.filled k slot' hslot' (hsame ▸ hnotified))
  · obtain ⟨hself, slot', hslot', -, hresult⟩ := hslot t' slot hk
    rw [setTask, Table.get?_insert] at ht'
    split at ht'
    · next heq => exact hself heq
    · exact hresult (h.notifying t' u o slot' ht' hslot')
  · obtain ⟨-, slot', hslot', hsame, -⟩ := hslot k slot hk
    rw [setTask, Table.get?_insert] at ht'
    split at ht'
    · cases ht'
    · rw [hsame]
      exact h.parking t' u k slot' ht' hslot'
  · rw [setTask, Table.get?_insert] at ht'
    split at ht'
    · cases ht'
    · exact h.parked t' u k late ht'

theorem Attended.effect (h : Attended f) (hattentive : Attentive f a) (heffect : Effect f a f') :
    Attended f' := by
  cases heffect with
  | spawns hbegins => exact h.of_elsewhere rfl rfl (not_watched_of_begins hbegins)
  | moves hget hmoves => exact h.moves hget hmoves
  | cancels hget hcancel => exact h.of_elsewhere rfl rfl (not_watched_of_cancelled hcancel)
  | opens | publishes | accepts | evicts | claims | starts => exact h.of_elsewhere rfl rfl rfl
  | controls change hget hcontrols => cases hcontrols <;> exact h.of_elsewhere rfl rfl rfl
  | skips hget hskips => cases hskips <;> exact h.of_elsewhere rfl rfl rfl
  | ends hget hends => cases hends <;> exact h.of_elsewhere rfl rfl rfl
  | @retracts t uri e hget =>
    have hsame := f.sameBut_publish_error t uri e
    exact h.of_elsewhere hsame.slots (congrArg (Table.insert · t _) hsame.tasks) rfl
  | @removes t uri txid aborted hget =>
    have hsame := f.sameBut_removeServing txid
    exact h.of_elsewhere hsame.slots (congrArg (Table.insert · t _) hsame.tasks) rfl
  | @hands t txidHex serving hget =>
    have hmoved : Attended (f.setTask t (.fetchBegin txidHex (.spawned serving))) :=
      h.of_elsewhere rfl rfl rfl
    exact hmoved.of_elsewhere rfl rfl rfl
  | places hget hnone => exact h.places
  | fills hget => exact h.fills
  | @notifies t uri outcome hget =>
    refine h.notifies hget ?_
    rw [Attentive, hget] at hattentive
    exact hattentive

/-- **No lost wake-up** where the notification of a slot never finds a
waiter between its look at the result and its `Notified`: nobody is parked
on a `Notified` created after the notification. -/
theorem parked_in_time {acts : List Action} (hmeets : RunMeets step Attentive new acts)
    (hrun : run step new acts = some f) :
    ¬ ∃ t uri k slot, f.slots.get? k = some slot ∧ slot.result.isSome = true ∧
      slot.notified = true ∧ f.tasks.get? t = some (.fetch uri (.parked k true)) := by
  have hattended : Attended f := run_induct_of (I := Attended)
    (fun _ _ _ h hC hstep => h.effect hC (step_effect hstep)) attended_new hmeets hrun
  rintro ⟨t, uri, k, slot, -, -, -, hparked⟩
  have hlate := hattended.parked t uri k true hparked
  cases hlate

namespace Sample

def resource : ResolvedResource := ⟨4, "00", "text/plain"⟩

/-- Task 0 resolves a uri, and task 1 comes to wait for it. -/
def joining : List Action :=
  [.fetch "res", .advance 0, .advance 0, .fetch "res", .advance 1]

/-- Task 0 resolves and builds, publishes, fills its slot and notifies. -/
def resolving : List Action :=
  [.resolved 0 (.ok resource), .opened 0 (.ok zeroId), .advance 0, .advance 0, .advance 0]

end Sample

theorem parked_in_time_sample :
    ∃ f, run step new (Sample.joining ++ [.advance 1, .advance 1] ++ Sample.resolving ++
        [.advance 1]) = some f ∧
      (∃ outcome, f.tasks.get? 1 = some (.fetch "res" (.answer 0 outcome))) ∧
      ¬ ∃ t uri k slot, f.slots.get? k = some slot ∧ slot.result.isSome = true ∧
        slot.notified = true ∧ f.tasks.get? t = some (.fetch uri (.parked k true)) := by
  have hmeets : RunMeets step Attentive new (Sample.joining ++ [.advance 1, .advance 1] ++
      Sample.resolving ++ [.advance 1]) := by decide +kernel
  obtain ⟨f, hrun, htask⟩ : ∃ f, run step new (Sample.joining ++ [.advance 1, .advance 1] ++
        Sample.resolving ++ [.advance 1]) = some f ∧
      f.tasks.get? 1 =
        some (.fetch "res" (.answer 0 (.ok (serve "res" Sample.resource zeroId)))) := by
    decide +kernel
  exact ⟨_, hrun, ⟨_, htask⟩, parked_in_time hmeets hrun⟩

/-- The waiter sees no result; the resolver fills the slot and notifies;
the waiter parks, and nobody will wake it. -/
theorem parked_after_notification :
    ∃ f slot, run step new (Sample.joining ++ [.advance 1] ++ Sample.resolving ++ [.advance 1]) =
        some f ∧
      f.slots.get? 0 = some slot ∧ slot.result.isSome = true ∧ slot.notified = true ∧
        f.tasks.get? 1 = some (.fetch "res" (.parked 0 true)) := by
  decide +kernel

end FetchService

end Fetch

end Xacpp
