import Xacpp.Transfer.Ledger
/-!
# Completion callbacks

A callback registered by `send_binary` is owed exactly one firing, and it
is owed while its copy is pending. Four paths release a copy; three of them
take the callback in the same section. The fourth does not always: a
response whose retransmissions cannot all be written ends before it takes
the callbacks of what its verdicts closed, and the last run below loses one
that way. Where every such response closes no transaction with a callback,
and callbacks are not registered under the id of a sink, the account is an
invariant.
-/

namespace Xacpp

namespace Transfer

open Reliability

/-- The event fires the callback of the `send_binary` that task `n` runs. -/
def Event.fires (n : ℕ) : Event → Bool
  | .fired (.user m) _ => decide (m = n)
  | _ => false

/-- The callback was passed to a `send_binary`. -/
def Callback.ofUser : Callback → Bool
  | .user _ => true
  | .finish _ => false

/-- The id under which the task's next stretch registers a callback. -/
def Task.registers? : Task → Option TxId
  | .sendBinary txid _ true _ .lock => some txid
  | _ => none

theorem Event.isEntry_of_fires {n : ℕ} (e : Event) (h : e.fires n = true) : e.isEntry = true := by
  cases e <;> first | rfl | cases h

namespace Session

variable {s s' : Session} {a : Action} {n now : ℕ} {txid : TxId}
variable {table : Table TxId Callback} {closed : List (TxId × Settlement)} {taken : Bool}

/-- **What keeps the callbacks.** A `send_binary` with a callback does not
reuse the id of a sink, and a response whose retransmissions cannot all be
written closes no transaction with such a callback. -/
def KeepsCallbacks (s : Session) : Action → Prop
  | .advance k _ _ => ∀ t ∈ s.tasks.get? k, ∀ txid ∈ t.registers?, txid ∉ s.sinks
  | .inbound _ frame now outcomes =>
    frame.frameType = .resumeResponse →
      ∀ entries ∈ (decodeResumeResponse frame.payload).toOption,
        ((Port.new outcomes).writeAll
            (s.state.sender.applyResumeVerdicts entries now).1.retransmit).1 = true ∨
          ∀ c ∈ Handling.settlements (s.state.sender.applyResumeVerdicts entries now).1,
            ∀ cb ∈ s.state.completions.get? c.1, cb.ofUser = false
  | _ => True

instance decidableKeepsCallbacks (s : Session) : ∀ a, Decidable (KeepsCallbacks s a)
  | .advance k _ _ =>
    inferInstanceAs (Decidable (∀ t ∈ s.tasks.get? k, ∀ txid ∈ t.registers?, txid ∉ s.sinks))
  | .inbound _ frame _ _ => inferInstanceAs (Decidable (frame.frameType = .resumeResponse → _))
  | .openBinarySink .. | .sinkResume .. | .start .. | .activity .. | .onBinary
  | .onBinaryStream | .close .. | .seeClosed .. => isTrue trivial

/-! ## Counting the firings of a section -/

theorem countP_fires_settled (closed : List (TxId × Settlement)) (n : ℕ) :
    (closed.map (Function.uncurry Event.settled)).countP (Event.fires n) = 0 := by
  rw [List.countP_map]
  exact List.countP_eq_zero.2 fun c _ hc => by cases hc

theorem countP_fires_firings (table : Table TxId Callback) (closed : List (TxId × Settlement))
    (n : ℕ) :
    ((firings table closed).map (Function.uncurry Event.fired)).countP (Event.fires n) =
      closed.countP fun c => decide (table.get? c.1 = some (.user n)) := by
  induction closed with
  | nil => rfl
  | cons c closed ih =>
    rw [firings, List.filterMap_cons, List.countP_cons]
    cases hget : table.get? c.1 with
    | none => simpa [firings] using ih
    | some cb =>
      simp only [Option.map_some, List.map_cons, List.countP_cons]
      rw [firings] at ih
      rw [ih]
      cases cb <;> simp [Event.fires, Function.uncurry]

/-- Nothing of the callback is closed: it does not fire. -/
theorem countP_settleEntries_of_not (h : ∀ c ∈ closed, table.get? c.1 ≠ some (.user n)) :
    (settleEntries table closed taken).reverse.countP (Event.fires n) = 0 := by
  rw [List.countP_reverse, settleEntries, List.countP_append, countP_fires_settled]
  split
  · rw [countP_fires_firings, Nat.zero_add]
    exact List.countP_eq_zero.2 fun c hc hd => h c hc (of_decide_eq_true hd)
  · rfl

/-- Its transaction is closed: it fires once. -/
theorem countP_settleEntries_of_mem (hnodup : (closed.map Prod.fst).Nodup)
    (hmem : txid ∈ closed.map Prod.fst) (hget : table.get? txid = some (.user n))
    (hunique : ∀ id, table.get? id = some (.user n) → id = txid) :
    (settleEntries table closed true).reverse.countP (Event.fires n) = 1 := by
  rw [List.countP_reverse, settleEntries, List.countP_append, countP_fires_settled, if_pos rfl,
    countP_fires_firings, Nat.zero_add]
  have hcongr : (closed.countP fun c => decide (table.get? c.1 = some (.user n))) =
      (closed.map Prod.fst).count txid := by
    rw [List.count, List.countP_map]
    refine List.countP_congr fun c _ => ?_
    simp only [decide_eq_true_eq, Function.comp_apply, beq_iff_eq]
    exact ⟨hunique c.1, fun heq => heq ▸ hget⟩
  rw [hcongr]
  exact List.count_eq_one_of_mem hnodup hmem

/-! ## The account -/

/-- **The account of the callbacks.** One in the table is owed: its copy is
pending and it has not fired. One that was registered and is no longer in
the table has fired once. -/
structure Accounted (s : Session) : Prop where
  owed : ∀ txid n, s.state.completions.get? txid = some (.user n) →
    s.state.sender.containsTransaction txid = true ∧ txid ∉ s.sinks ∧
      .registered txid (.user n) ∈ s.log ∧ s.log.countP (Event.fires n) = 0
  paid : ∀ txid n, .registered txid (.user n) ∈ s.log →
    s.state.completions.get? txid = some (.user n) ∨ s.log.countP (Event.fires n) = 1
  unique : ∀ id id' n, .registered id (.user n) ∈ s.log → .registered id' (.user n) ∈ s.log →
    id = id'
  entered : ∀ txid n, .registered txid (.user n) ∈ s.log →
    ∃ t, s.tasks.get? n = some t ∧ t.unsent = false
  unfired : ∀ n, (∀ txid, .registered txid (.user n) ∉ s.log) →
    s.log.countP (Event.fires n) = 0
  finishes : FinishesSinks s

theorem Accounted.new (config : TransferConfig) (now : ℕ) : Accounted (.new config now) where
  owed _ _ hget := by cases hget
  paid _ _ hmem := absurd hmem List.not_mem_nil
  unique _ _ _ hmem := absurd hmem List.not_mem_nil
  entered _ _ hmem := absurd hmem List.not_mem_nil
  unfired _ _ := rfl
  finishes _ _ _ hget := by cases hget

/-- A table holds a callback of a caller under one id only. -/
theorem Accounted.get?_unique (h : Accounted s) {id id' : TxId}
    (hid : s.state.completions.get? id = some (.user n))
    (hid' : s.state.completions.get? id' = some (.user n)) : id = id' :=
  h.unique id id' n (h.owed id n hid).2.2.1 (h.owed id' n hid').2.2.1

theorem Accounted.entered_step (h : Accounted s) (hstep : Session.step s a = some s')
    (hmem : .registered txid (.user n) ∈ s.log) :
    ∃ t, s'.tasks.get? n = some t ∧ t.unsent = false := by
  obtain ⟨t, hget, hsent⟩ := h.entered txid n hmem
  obtain ⟨t', hget', -, hkeeps⟩ := tasks_persist hstep hget
  exact ⟨t', hget', hkeeps hsent⟩

/-- A step that registers and fires no callback of a caller, and leaves
those in the table and their copies. -/
theorem Accounted.kept (h : Accounted s) (hstep : Session.step s a = some s')
    {entries : List Event} (hentries : Enters s s' entries)
    (hreg : ∀ id m, .registered id (.user m) ∉ entries)
    (hfires : ∀ m, entries.countP (Event.fires m) = 0)
    (htable : ∀ id m, s'.state.completions.get? id = some (.user m) ↔
      s.state.completions.get? id = some (.user m))
    (hpending : ∀ id, s.state.sender.containsTransaction id = true →
      s'.state.sender.containsTransaction id = true)
    (hsinks : ∀ id ∈ s'.sinks, id ∈ s.sinks ∨ s.state.sender.containsTransaction id = false) :
    Accounted s' := by
  have hmem : ∀ id m, .registered id (.user m) ∈ s'.log ↔ .registered id (.user m) ∈ s.log := by
    intro id m
    rw [hentries.mem rfl]
    exact or_iff_right (hreg id m)
  have hcount : ∀ m, s'.log.countP (Event.fires m) = s.log.countP (Event.fires m) := by
    intro m
    rw [hentries.countP Event.isEntry_of_fires, hfires m, Nat.zero_add]
  constructor
  · intro id m hget
    obtain ⟨hpend, hsink, hreg, hzero⟩ := h.owed id m ((htable id m).1 hget)
    refine ⟨hpending id hpend, fun hin => ?_, (hmem id m).2 hreg, (hcount m).trans hzero⟩
    rcases hsinks id hin with hin | hout
    · exact hsink hin
    · rw [hpend] at hout
      cases hout
  · intro id m hin
    rw [htable, hcount]
    exact h.paid id m ((hmem id m).1 hin)
  · intro id id' m hin hin'
    exact h.unique id id' m ((hmem id m).1 hin) ((hmem id' m).1 hin')
  · intro id m hin
    exact h.entered_step hstep ((hmem id m).1 hin)
  · intro m hnone
    rw [hcount]
    exact h.unfired m fun id hin => hnone id ((hmem id m).2 hin)
  · exact h.finishes.step hstep

/-- A section closes copies, and takes the callback of each of them or
closes none that a caller waits for. -/
theorem Accounted.settled (h : Accounted s) (hstep : Session.step s a = some s')
    (hnodup : (closed.map Prod.fst).Nodup)
    (hpending : ∀ id, s'.state.sender.containsTransaction id = true ↔
      s.state.sender.containsTransaction id = true ∧ id ∉ closed.map Prod.fst)
    (htable : ∀ id, s'.state.completions.get? id =
      if taken = true ∧ id ∈ closed.map Prod.fst then none else s.state.completions.get? id)
    (hsinks : s'.sinks = s.sinks)
    (hentries : Enters s s' (settleEntries s.state.completions closed taken).reverse)
    (htaken : taken = true ∨ ∀ id ∈ closed.map Prod.fst, ∀ m,
      s.state.completions.get? id ≠ some (.user m)) : Accounted s' := by
  have hreg : ∀ id m, .registered id (.user m) ∈ s'.log ↔ .registered id (.user m) ∈ s.log := by
    intro id m
    rw [hentries.mem rfl]
    refine or_iff_right fun hin => ?_
    rw [List.mem_reverse, settleEntries, List.mem_append] at hin
    rcases hin with hin | hin
    · obtain ⟨c, -, hc⟩ := List.mem_map.1 hin
      cases hc
    · split at hin
      · obtain ⟨c, -, hc⟩ := List.mem_map.1 hin
        cases hc
      · cases hin
  have hcount : ∀ m, s'.log.countP (Event.fires m) =
      (settleEntries s.state.completions closed taken).reverse.countP (Event.fires m) +
        s.log.countP (Event.fires m) := fun m => hentries.countP Event.isEntry_of_fires
  -- a callback fires exactly if its own transaction is among the closed
  have hstays : ∀ m, (∀ id ∈ closed.map Prod.fst, s.state.completions.get? id ≠ some (.user m)) →
      s'.log.countP (Event.fires m) = s.log.countP (Event.fires m) := by
    intro m hnone
    rw [hcount, countP_settleEntries_of_not fun c hc => hnone c.1 (List.mem_map_of_mem hc),
      Nat.zero_add]
  constructor
  · intro id m hget'
    rw [htable] at hget'
    split at hget'
    · cases hget'
    · next hkept =>
      obtain ⟨hpend, hsink, hin, hzero⟩ := h.owed id m hget'
      have hopen : id ∉ closed.map Prod.fst := by
        intro hclosed
        rcases htaken with htrue | hnone
        · exact hkept ⟨htrue, hclosed⟩
        · exact hnone id hclosed m hget'
      refine ⟨(hpending id).2 ⟨hpend, hopen⟩, hsinks ▸ hsink, (hreg id m).2 hin, ?_⟩
      rw [hstays m fun id' hid' hget => hopen (h.get?_unique hget' hget ▸ hid')]
      exact hzero
  · intro id m hin
    rw [htable]
    rcases h.paid id m ((hreg id m).1 hin) with hget | hone
    · by_cases hclosed : id ∈ closed.map Prod.fst
      · rcases htaken with rfl | hnone
        · refine .inr ?_
          rw [hcount, (h.owed id m hget).2.2.2, countP_settleEntries_of_mem hnodup hclosed hget
            fun id' hget' => h.get?_unique hget' hget]
        · exact absurd hget (hnone id hclosed m)
      · exact .inl (by rw [if_neg fun hc => hclosed hc.2]; exact hget)
    · refine .inr ?_
      rw [hstays m fun id' _ hget => ?_]
      · exact hone
      · rw [(h.owed id' m hget).2.2.2] at hone
        cases hone
  · intro id id' m hin hin'
    exact h.unique id id' m ((hreg id m).1 hin) ((hreg id' m).1 hin')
  · intro id m hin
    exact h.entered_step hstep ((hreg id m).1 hin)
  · intro m hnone
    have hnever : ∀ id, .registered id (.user m) ∉ s.log := fun id hin =>
      hnone id ((hreg id m).2 hin)
    rw [hstays m fun id _ hget => hnever id (h.owed id m hget).2.2.1]
    exact h.unfired m hnever
  · exact h.finishes.step hstep

/-- A `send_binary` registers its callback. Its task had not entered its
locked section, so nothing was ever registered for it. -/
theorem Accounted.sent (h : Accounted s) {k now : ℕ} {outcomes : List Bool} {payload : Bytes}
    {conn : ℕ} (hstep : Session.step s (.advance k now outcomes) = some s')
    (htask : s.tasks.get? k = some (.sendBinary txid payload true conn .lock))
    (hnew : s.state.sender.containsTransaction txid = false) (hsink : txid ∉ s.sinks)
    (hpending : ∀ id, s'.state.sender.containsTransaction id = true ↔
      s.state.sender.containsTransaction id = true ∨ id = txid)
    (htable : s'.state.completions = s.state.completions.insert txid (.user k))
    (hsinks : s'.sinks = s.sinks)
    (hentries : Enters s s' [.registered txid (.user k), .opened txid]) : Accounted s' := by
  have hnever : ∀ id, .registered id (.user k) ∉ s.log := by
    intro id hin
    obtain ⟨t, hget, hsent⟩ := h.entered id k hin
    rw [htask, Option.some.injEq] at hget
    rw [← hget] at hsent
    cases hsent
  have hreg : ∀ id m, .registered id (.user m) ∈ s'.log ↔
      (id = txid ∧ m = k) ∨ .registered id (.user m) ∈ s.log := by
    intro id m
    rw [hentries.mem rfl]
    simp
  have hcount : ∀ m, s'.log.countP (Event.fires m) = s.log.countP (Event.fires m) := by
    intro m
    rw [hentries.countP Event.isEntry_of_fires]
    simp [Event.fires]
  have hget' : ∀ id, id ≠ txid →
      s'.state.completions.get? id = s.state.completions.get? id := fun id hne => by
    rw [htable]
    exact Table.get?_insert_of_ne _ _ hne
  have hself : s'.state.completions.get? txid = some (.user k) := by
    rw [htable]
    exact Table.get?_insert_self _ _ _
  constructor
  · intro id m hget
    rw [hreg, hcount, hsinks, hpending]
    by_cases hid : id = txid
    · subst hid
      rw [hself, Option.some.injEq, Callback.user.injEq] at hget
      subst hget
      exact ⟨.inr rfl, hsink, .inl ⟨rfl, rfl⟩, h.unfired k hnever⟩
    · rw [hget' id hid] at hget
      obtain ⟨hpend, hout, hin, hzero⟩ := h.owed id m hget
      exact ⟨.inl hpend, hout, .inr hin, hzero⟩
  · intro id m hin
    rw [hcount]
    rcases (hreg id m).1 hin with ⟨rfl, rfl⟩ | hin
    · exact .inl hself
    · refine (h.paid id m hin).imp_left fun hget => ?_
      have hne : id ≠ txid := by
        rintro rfl
        rw [(h.owed id m hget).1] at hnew
        cases hnew
      exact (hget' id hne).trans hget
  · intro id id' m hin hin'
    rcases (hreg id m).1 hin with ⟨rfl, rfl⟩ | hin
    · rcases (hreg id' _).1 hin' with ⟨rfl, -⟩ | hin'
      · rfl
      · exact absurd hin' (hnever id')
    · rcases (hreg id' m).1 hin' with ⟨-, rfl⟩ | hin'
      · exact absurd hin (hnever id)
      · exact h.unique id id' m hin hin'
  · intro id m hin
    rcases (hreg id m).1 hin with ⟨-, rfl⟩ | hin
    · cases step_steps hstep with
      | idle hsame htasks =>
        have hold : s'.state.completions = s.state.completions := congrArg Core.completions hsame
        rw [hold] at hself
        exact absurd (h.owed txid _ hself).2.2.1 (hnever txid)
      | advanced hget hstretch =>
        obtain ⟨t', hts⟩ := hstretch.tasks
        exact ⟨t', hts.self, hts.sent⟩
    · exact h.entered_step hstep hin
  · intro m hnone
    rw [hcount]
    exact h.unfired m fun id hin => hnone id ((hreg id m).2 (.inr hin))
  · exact h.finishes.step hstep

/-- Under the guard a response that is cut short closes no copy a caller
waits for. -/
theorem KeepsCallbacks.cutShort (hkeeps : KeepsCallbacks s a) (hcut : CutShort s closed a) :
    ∀ id ∈ closed.map Prod.fst, ∀ m, s.state.completions.get? id ≠ some (.user m) := by
  obtain ⟨htype, hdec, rfl, hfails⟩ := hcut
  intro id hid m hget
  obtain ⟨c, hc, rfl⟩ := List.mem_map.1 hid
  have hall := hkeeps htype _ (by rw [hdec]; rfl)
  rcases hall with hwritten | hnone
  · rw [hfails] at hwritten
    cases hwritten
  · cases hnone c hc _ hget

/-- **The account is kept by every step that meets the guard.** -/
theorem Accounted.step (h : Accounted s) (hkeeps : KeepsCallbacks s a)
    (hstep : Session.step s a = some s') : Accounted s' := by
  cases step_ledger hstep with
  | settled hnodup hheld hpending htable hsinks hentries htaken hdenied =>
    exact h.settled hstep hnodup hpending htable hsinks hentries (htaken.imp_right hkeeps.cutShort)
  | opened hnew hpending htable hsinks hentries =>
    refine h.kept hstep hentries (by simp) (fun m => by simp [Event.fires])
      (fun id m => by rw [htable]) (fun id hid => (hpending id).2 (.inl hid)) fun id hid => ?_
    rcases hsinks.2 id hid with hold | rfl
    · exact .inl hold
    · exact .inr hnew
  | sent haction htask hnew hpending htable hsinks hentries =>
    subst haction
    exact h.sent hstep htask hnew (hkeeps _ htask _ rfl) hpending htable hsinks hentries
  | @registered txid k htask hpending htable hsinks hentries =>
    -- the id is a sink's, and no callback of a caller stands under one
    refine h.kept hstep hentries (by simp) (fun m => by simp [Event.fires]) (fun id m => ?_)
      (fun id hid => (hpending id).trans hid) fun id hid => .inl (hsinks ▸ hid)
    rw [htable, Table.get?_insert]
    split
    · next heq =>
      subst heq
      constructor
      · intro hget
        cases hget
      · intro hget
        exact absurd (h.finishes k id _ htask) (h.owed id m hget).2.1
    · rfl
  | @dropped txid hwhy hpending htable hsinks hentries =>
    refine h.kept hstep hentries (by simp) (fun m => rfl) (fun id m => ?_)
      (fun id hid => (hpending id).trans hid) fun id hid => .inl (hsinks ▸ hid)
    rw [htable, Table.get?_erase]
    split
    · next heq =>
      subst heq
      constructor
      · intro hget
        cases hget
      · intro hget
        obtain ⟨hpend, hout, -⟩ := h.owed id m hget
        rcases hwhy with hgone | ⟨k, htask⟩
        · rw [hpend] at hgone
          cases hgone
        · exact absurd (h.finishes k id _ htask) hout
    · rfl

/-- **A callback fires exactly once.** In every run whose steps keep the
callbacks, one that was registered is in the table, unfired, with its copy
pending, or it is out of the table and has fired once. -/
theorem callback_fires_exactly_once {config : TransferConfig} {acts : List Action}
    (hmeets : RunMeets step KeepsCallbacks (new config now) acts)
    (hrun : run step (new config now) acts = some s)
    (hreg : .registered txid (.user n) ∈ s.log) :
    (s.log.countP (Event.fires n) = 0 ∧ s.state.sender.containsTransaction txid = true ∧
        s.state.completions.get? txid = some (.user n)) ∨
      (s.log.countP (Event.fires n) = 1 ∧ s.state.completions.get? txid ≠ some (.user n)) := by
  have hacc : Accounted s :=
    run_induct_of (fun _ _ _ hs hkeeps hstep => hs.step hkeeps hstep) (.new config now) hmeets hrun
  by_cases hget : s.state.completions.get? txid = some (.user n)
  · obtain ⟨hpend, -, -, hzero⟩ := hacc.owed txid n hget
    exact .inl ⟨hzero, hpend, hget⟩
  · exact .inr ⟨(hacc.paid txid n hreg).resolve_left hget, hget⟩

namespace Sample

/-- A second transaction id. -/
def nextId : TxId := List.Vector.replicate 16 1

/-- Two payloads of one byte sent with a callback on connection 0, by tasks
2 and 3, and declared by task 4. -/
def twoSends : List Action :=
  wireUp 0 0 1 0 ++
    [.start 2 (.sendBinary zeroId [7] true 0), .advance 2 0 [],
      .start 3 (.sendBinary nextId [8] true 0), .advance 3 0 [],
      .start 4 .declarePendingSends, .advance 4 0 [], .advance 4 0 [], .advance 4 0 []]

/-- One `RESUME_RESPONSE`: the first transaction is unknown, the second is
to be resumed. -/
def mixedVerdicts : Frame :=
  controlFrame .resumeResponse ([2] ++ (zeroId.toList ++ [3]) ++ (nextId.toList ++ [1]))

/-- The response arrives; `ok` says whether the resend it asks for can be
written. -/
def answered (ok : Bool) : List Action := twoSends ++ [.inbound 0 mixedVerdicts 1 [ok]]

end Sample

/-- With the retransmission written, one callback has fired and the other is
still owed. -/
theorem callback_fires_exactly_once_sample :
    ∃ s, run step (new {} 0) (Sample.answered true) = some s ∧
      s.log.countP (Event.fires 2) = 1 ∧ s.log.countP (Event.fires 3) = 0 ∧
      s.state.sender.containsTransaction Sample.nextId = true := by
  obtain ⟨s, hrun, hreg, hout, hreg', hin⟩ :
      ∃ s, run step (new {} 0) (Sample.answered true) = some s ∧
        .registered zeroId (.user 2) ∈ s.log ∧ s.state.completions.get? zeroId = none ∧
        .registered Sample.nextId (.user 3) ∈ s.log ∧
        s.state.completions.get? Sample.nextId = some (.user 3) := by decide
  have hfirst := callback_fires_exactly_once (by decide) hrun hreg
  have hsecond := callback_fires_exactly_once (by decide) hrun hreg'
  rw [hout] at hfirst
  rw [hin] at hsecond
  rcases hfirst with ⟨-, -, hget⟩ | ⟨hone, -⟩
  · cases hget
  rcases hsecond with ⟨hzero, hpend, -⟩ | ⟨-, hne⟩
  · exact ⟨_, hrun, hone, hzero, hpend⟩
  · exact absurd rfl hne

/-- **A callback is lost with a failed retransmission**: the same response,
but the connection fails while the second transaction is resent. The first
transaction is closed and its callback never fires. -/
theorem unfired_after_cut_short :
    ∃ s, run step (new {} 0) (Sample.answered false) = some s ∧
      .registered zeroId (.user 2) ∈ s.log ∧ s.log.countP (Event.fires 2) = 0 ∧
      s.state.sender.containsTransaction zeroId = false := by
  decide

end Session

end Transfer

end Xacpp
