import Xacpp.Fetch.Model
/-!
# The puller

Calls of `pull` and the tasks `dispatch_stream` spawns, cut where they touch
what they share: the pending table, and the `dead` flag and the oneshot of a
pull. An entry of the table goes by the number of its call, a stream by that
of its task. What the session and the peer answer is part of the action.

A pull that fails or is dropped behind its registration sets its flag and
loses its receiver; which comes first depends on the `await` it stands at,
so either may.

A pull gets a stream of its own transaction, which no other pull gets, and
one that waits is never forgotten.
-/

namespace Xacpp

namespace Fetch

inductive FetchError
  | refused (code message : String)
  | transport (e : XacppError)
  | duplicateTxid
deriving DecidableEq

def mapFetchErr : XacppError → FetchError
  | .application code message => .refused code message
  | .other shown => .transport (.other shown)

/-- `shown` is how the response prints. -/
def expectAck (what shown : String) : Response → Except FetchError Unit
  | .acknowledge => .ok ()
  | .error code message => .error (.refused code message)
  | .fetchReady .. =>
    .error (.refused fetchRefused ("unexpected " ++ what ++ " response: " ++ shown))

inductive PullPc
  | fetch
  | register
  | begin
  | awaitStream
  /-- Returned with no guard or a disarmed one. -/
  | returned (result : Except FetchError ℕ)
  /-- Failed behind the registration, or dropped. -/
  | unwinding (error : Option FetchError)
deriving DecidableEq

/-- The pull is registered and goes on. -/
def PullPc.live : PullPc → Bool
  | .begin | .awaitStream => true
  | _ => false

structure Pull where
  pc : PullPc
  /-- The announced metadata. -/
  ready : Option FetchReadyMeta
  dead : Bool
  /-- The receiver is there. -/
  rx : Bool
deriving DecidableEq

def Pull.txid? (p : Pull) : Option TxId := p.ready.map FetchReadyMeta.txid

inductive PullEvent
  | fetched (answer : Except XacppError FetchReadyMeta)
  | begun (answer : Except XacppError Response) (shown : String)
  /-- The caller drops the future. -/
  | drop
  | setDead
  | dropRx

/-- One stretch of `pull` by itself. -/
def Pull.next (p : Pull) (e : PullEvent) : Option Pull :=
  match p.pc, e with
  | .fetch, .fetched (.ok ready) => some { p with pc := .register, ready := some ready }
  | .fetch, .fetched (.error e) => some { p with pc := .returned (.error (mapFetchErr e)) }
  | .begin, .begun (.error e) _ => some { p with pc := .unwinding (some (.transport e)) }
  | .begin, .begun (.ok response) shown =>
    match expectAck "fetch_begin" shown response with
    | .ok () => some { p with pc := .awaitStream }
    | .error e => some { p with pc := .unwinding (some e) }
  | .fetch, .drop | .register, .drop | .begin, .drop | .awaitStream, .drop =>
    some { p with pc := .unwinding none }
  | .unwinding _, .setDead => some { p with dead := true }
  | .unwinding _, .dropRx => some { p with rx := false }
  | _, _ => none

inductive DispatchPc
  | lock
  | check (pull : ℕ)
  | send (pull : ℕ)
  /-- The oneshot of the pull has the stream. -/
  | sent (pull : ℕ)
  /-- The stream is dropped. -/
  | ended
deriving DecidableEq

structure Dispatch where
  txid : TxId
  pc : DispatchPc
deriving DecidableEq

/-- The pull whose entry the task has taken. -/
def Dispatch.pull? (d : Dispatch) : Option ℕ :=
  match d.pc with
  | .check k | .send k | .sent k => some k
  | .lock | .ended => none

structure FetchPuller where
  pending : Table TxId ℕ
  pulls : Table ℕ Pull
  dispatches : Table ℕ Dispatch

namespace FetchPuller

def new : FetchPuller := ⟨∅, ∅, ∅⟩

variable (s : FetchPuller)

def setPull (k : ℕ) (p : Pull) : FetchPuller := { s with pulls := s.pulls.insert k p }

def setDispatch (n : ℕ) (d : Dispatch) : FetchPuller :=
  { s with dispatches := s.dispatches.insert n d }

def isDead (k : ℕ) : Bool := (s.pulls.get? k).any Pull.dead

/-- The entries of pulls that gave up are swept. -/
def sweep : FetchPuller :=
  { s with
    pending := ((s.pending.toList.filter fun e => s.isDead e.2).map Prod.fst).foldl Table.erase
      s.pending }

/-- The locked section of `pull`, with the swept table. -/
def register (k : ℕ) (p : Pull) (txid : TxId) : FetchPuller :=
  if s.pending.contains txid then s.setPull k { p with pc := .returned (.error .duplicateTxid) }
  else
    { s with pending := s.pending.insert txid k }.setPull k
      { p with pc := .begin, dead := false, rx := true }

/-- The sender of the pull is gone, and it was sent nothing. -/
def isClosed (k : ℕ) : Bool :=
  k ∉ s.pending.values ∧ some k ∉ s.dispatches.values.map Dispatch.pull?

/-- The end of the wait for the stream, which is that of task `n`. -/
def receive (k : ℕ) (p : Pull) (n : ℕ) : Option FetchPuller :=
  if p.pc = .awaitStream ∧ (s.dispatches.get? n).map Dispatch.pc = some (.sent k) then
    some (s.setPull k { p with pc := .returned (.ok n) })
  else none

def receiveClosed (k : ℕ) (p : Pull) : Option FetchPuller :=
  if p.pc = .awaitStream ∧ s.isClosed k then
    some (s.setPull k { p with pc := .unwinding (some (.transport (.other "connection closed"))) })
  else none

/-- One stretch of a task. -/
def advanceDispatch (n : ℕ) (txid : TxId) : DispatchPc → Option FetchPuller
  | .lock =>
    match s.pending.get? txid with
    | some k => some ({ s with pending := s.pending.erase txid }.setDispatch n ⟨txid, .check k⟩)
    | none => some (s.setDispatch n ⟨txid, .ended⟩)
  | .check k => some (s.setDispatch n ⟨txid, if s.isDead k then .ended else .send k⟩)
  | .send k =>
    (s.pulls.get? k).map fun p => s.setDispatch n ⟨txid, if p.rx then .sent k else .ended⟩
  | .sent _ | .ended => none

inductive Action
  | pull (k : ℕ)
  | advance (k : ℕ) (e : PullEvent)
  | register (k : ℕ)
  | receive (k n : ℕ)
  | receiveClosed (k : ℕ)
  /-- The session hands over a stream, as stream `n`. -/
  | stream (n : ℕ) (txid : TxId)
  | dispatch (n : ℕ)

def step (s : FetchPuller) : Action → Option FetchPuller
  | .pull k =>
    if s.pulls.contains k then none else some (s.setPull k ⟨.fetch, none, false, false⟩)
  | .advance k e => (s.pulls.get? k).bind fun p => (p.next e).map (s.setPull k)
  | .register k =>
    (s.pulls.get? k).bind fun p =>
      if p.pc = .register then p.txid?.map (s.sweep.register k p) else none
  | .receive k n => (s.pulls.get? k).bind fun p => s.receive k p n
  | .receiveClosed k => (s.pulls.get? k).bind (s.receiveClosed k)
  | .stream n txid =>
    if s.dispatches.contains n then none else some (s.setDispatch n ⟨txid, .lock⟩)
  | .dispatch n => (s.dispatches.get? n).bind fun d => s.advanceDispatch n d.txid d.pc

variable {s s' : FetchPuller} {a : Action} {k n : ℕ} {p p' : Pull} {d d' : Dispatch} {txid : TxId}

/-! ## What holds of every reachable state -/

/-- A stream of the transaction finds the sender of the pull, or has found
it. -/
def Sends (s : FetchPuller) (txid : TxId) (k : ℕ) : Prop :=
  s.pending.get? txid = some k ∨
    ∃ n d, s.dispatches.get? n = some d ∧ d.txid = txid ∧ d.pull? = some k

theorem isClosed_of_sends (h : s.Sends txid k) : s.isClosed k = false := by
  refine decide_eq_false fun hclosed => ?_
  obtain hget | ⟨n, d, hd, -, hpull⟩ := h
  · exact hclosed.1 (Table.mem_values.2 ⟨txid, hget⟩)
  · exact hclosed.2 (List.mem_map.2 ⟨d, Table.mem_values.2 ⟨n, hd⟩, hpull⟩)

/-- While a pull goes on, its stream can reach it; what it returns was sent
to it. -/
structure Good (s : FetchPuller) (k : ℕ) (p : Pull) : Prop where
  fresh : p.pc = .fetch → p.txid? = none
  waits : p.pc.live = true → p.dead = false ∧ p.rx = true ∧ ∃ txid, s.Sends txid k
  result : ∀ n, p.pc = .returned (.ok n) → ∃ txid, s.dispatches.get? n = some ⟨txid, .sent k⟩

structure Sound (s : FetchPuller) : Prop where
  good : ∀ k p, s.pulls.get? k = some p → s.Good k p
  sender : ∀ txid k, s.Sends txid k → ∃ p, s.pulls.get? k = some p ∧ p.txid? = some txid

theorem Sound.setPull (h : Sound s) (hgood : s.Good k p')
    (htxid : ∀ p, s.pulls.get? k = some p → ∀ txid, p.txid? = some txid → p'.txid? = some txid) :
    Sound (s.setPull k p') where
  good := by
    intro k' q hq
    obtain ⟨rfl, rfl⟩ | ⟨-, hq⟩ := Table.of_get?_insert hq
    · exact { hgood with }
    · exact { h.good k' q hq with }
  sender := by
    intro txid k' hsends
    obtain ⟨q, hq, ht⟩ := h.sender txid k' hsends
    by_cases hk : k' = k
    · subst hk
      exact ⟨p', Table.get?_insert_self _ _ _, htxid q hq txid ht⟩
    · exact ⟨q, (Table.get?_insert_of_ne _ _ hk).trans hq, ht⟩

/-- A pull keeps its transaction. -/
theorem Sound.movePull (h : Sound s) (hp : s.pulls.get? k = some p) (hgood : s.Good k p')
    (htxid : ∀ txid, p.txid? = some txid → p'.txid? = some txid) : Sound (s.setPull k p') := by
  refine h.setPull hgood fun q hq => ?_
  cases hp.symm.trans hq
  exact htxid

/-- The table changes: it keeps the entries of the pulls that go on. -/
theorem Sound.setPending (h : Sound s) {pending : Table TxId ℕ}
    (hentry : ∀ txid k, pending.get? txid = some k → s.pending.get? txid = some k ∨
      ∃ p, s.pulls.get? k = some p ∧ p.txid? = some txid)
    (hkeep : ∀ txid k p, s.pending.get? txid = some k → s.pulls.get? k = some p →
      p.pc.live = true → { s with pending := pending }.Sends txid k) :
    Sound { s with pending := pending } where
  good := by
    intro k p hp
    refine { h.good k p hp with waits := fun hlive => ?_ }
    obtain ⟨hdead, hrx, txid, hget | hheld⟩ := (h.good k p hp).waits hlive
    · exact ⟨hdead, hrx, txid, hkeep txid k p hget hp hlive⟩
    · exact ⟨hdead, hrx, txid, .inr hheld⟩
  sender := by
    rintro txid k (hget | hheld)
    · exact (hentry txid k hget).elim (fun hget => h.sender txid k (.inl hget)) id
    · exact h.sender txid k (.inr hheld)

/-- A task moves on, and lets go of no pull that goes on. -/
theorem Sound.setDispatch (h : Sound s)
    (hold : ∀ d, s.dispatches.get? n = some d → d.txid = d'.txid ∧ (∀ k, d.pc ≠ .sent k) ∧
      ∀ k p, d.pull? = some k → s.pulls.get? k = some p → p.pc.live = true → d'.pull? = some k)
    (hnew : ∀ k, d'.pull? = some k → s.Sends d'.txid k) : Sound (s.setDispatch n d') where
  good := by
    intro k p hp
    refine { h.good k p hp with waits := fun hlive => ?_, result := fun m hm => ?_ }
    · obtain ⟨hdead, hrx, txid, hsends⟩ := (h.good k p hp).waits hlive
      refine ⟨hdead, hrx, txid, hsends.imp_right ?_⟩
      rintro ⟨m, d, hd, rfl, hpull⟩
      by_cases hm : m = n
      · subst hm
        obtain ⟨htxid, -, hkeep⟩ := hold d hd
        exact ⟨m, d', Table.get?_insert_self _ _ _, htxid.symm, hkeep k p hpull hp hlive⟩
      · exact ⟨m, d, (Table.get?_insert_of_ne _ _ hm).trans hd, rfl, hpull⟩
    · obtain ⟨txid, hd⟩ := (h.good k p hp).result m hm
      refine ⟨txid, (Table.get?_insert_of_ne _ _ ?_).trans hd⟩
      rintro rfl
      exact (hold _ hd).2.1 k rfl
  sender := by
    rintro txid k (hget | ⟨m, d, hd, rfl, hpull⟩)
    · exact h.sender txid k (.inl hget)
    · obtain ⟨-, rfl⟩ | ⟨-, hd⟩ := Table.of_get?_insert hd
      · exact h.sender _ k (hnew k hpull)
      · exact h.sender _ k (.inr ⟨m, d, hd, rfl, hpull⟩)

/-! ## The pulls -/

theorem Sound.alive (h : Sound s) (hp : s.pulls.get? k = some p) (hlive : p.pc.live = true) :
    s.isDead k = false := by
  rw [isDead, hp]
  exact ((h.good k p hp).waits hlive).1

/-- The sweep leaves the entries of the pulls that go on. -/
theorem Sound.sweep (h : Sound s) : Sound s.sweep := by
  refine h.setPending (fun txid k hget => .inl ?_) fun txid k p hget hp hlive => .inl ?_
  · rw [Table.get?_foldl_erase, Option.ite_none_left_eq_some] at hget
    exact hget.2
  · rw [← hget]
    refine (Table.get?_foldl_erase _ _ _).trans (if_neg fun hmem => ?_)
    obtain ⟨⟨_, k'⟩, hswept, rfl⟩ := List.mem_map.1 hmem
    obtain ⟨hentry, hdead⟩ := List.mem_filter.1 hswept
    cases hget.symm.trans (Table.mem_toList.1 hentry)
    cases (h.alive hp hlive).symm.trans hdead

theorem next_spec {e : PullEvent} (hnext : p.next e = some p') :
    p'.pc ≠ .fetch ∧ (p.pc = .fetch ∨ p'.ready = p.ready) ∧
      (p'.pc.live = true → p.pc.live = true ∧ p'.dead = p.dead ∧ p'.rx = p.rx) ∧
        ∀ n, p'.pc ≠ .returned (.ok n) := by
  unfold Pull.next at hnext
  grind [PullPc.live]

theorem Sound.next {e : PullEvent} (h : Sound s) (hp : s.pulls.get? k = some p)
    (hnext : p.next e = some p') : Sound (s.setPull k p') := by
  obtain ⟨hpc, hready, hlive, hok⟩ := next_spec hnext
  have hgood := h.good k p hp
  refine h.movePull hp ⟨fun hfetch => absurd hfetch hpc, fun hgoes => ?_,
    fun n hn => absurd hn (hok n)⟩ fun txid htxid => ?_
  · obtain ⟨hold, hdead, hrx⟩ := hlive hgoes
    rw [hdead, hrx]
    exact hgood.waits hold
  · obtain hfetch | hready := hready
    · cases (hgood.fresh hfetch).symm.trans htxid
    · rwa [Pull.txid?, hready]

theorem Sound.register (h : Sound s) (hp : s.pulls.get? k = some p) (htxid : p.txid? = some txid) :
    Sound (s.register k p txid) := by
  unfold FetchPuller.register
  split
  · exact h.movePull hp ⟨by rintro ⟨⟩, by rintro ⟨⟩, by simp⟩ fun _ ht => ht
  · next hfresh =>
    have hentered : Sound { s with pending := s.pending.insert txid k } := by
      refine h.setPending (fun t k' hget => ?_) fun t k' q hget _ _ => .inl ?_
      · obtain ⟨rfl, rfl⟩ | ⟨-, hget⟩ := Table.of_get?_insert hget
        · exact .inr ⟨p, hp, htxid⟩
        · exact .inl hget
      · have hne := Table.ne_of_fresh hget (Bool.eq_false_of_not_eq_true hfresh)
        exact (Table.get?_insert_of_ne _ _ hne).trans hget
    refine hentered.movePull hp ⟨by rintro ⟨⟩, fun _ => ?_, by simp⟩ fun _ ht => ht
    exact ⟨rfl, rfl, txid, .inl (Table.get?_insert_self _ _ _)⟩

theorem Sound.receive (h : Sound s) (hp : s.pulls.get? k = some p)
    (hstep : s.receive k p n = some s') : Sound s' := by
  obtain ⟨⟨-, hsent⟩, ⟨⟩⟩ := Option.ite_none_right_eq_some.1 hstep
  obtain ⟨⟨txid, _⟩, hd, rfl⟩ := Option.map_eq_some_iff.1 hsent
  refine h.movePull hp ⟨by rintro ⟨⟩, by rintro ⟨⟩, fun m hm => ?_⟩ fun _ ht => ht
  cases hm
  exact ⟨txid, hd⟩

/-! ## The tasks -/

/-- A task may drop its stream that holds no pull which goes on. -/
theorem Sound.ended {pc : DispatchPc} (h : Sound s) (hd : s.dispatches.get? n = some ⟨txid, pc⟩)
    (hpc : ∀ k, pc ≠ .sent k)
    (hdone : ∀ k p, Dispatch.pull? ⟨txid, pc⟩ = some k → s.pulls.get? k = some p →
      p.pc.live = false) : Sound (s.setDispatch n ⟨txid, .ended⟩) := by
  refine h.setDispatch (fun d hd' => ?_) (by rintro _ ⟨⟩)
  cases hd.symm.trans hd'
  refine ⟨rfl, hpc, fun k p hpull hp hlive => ?_⟩
  cases (hdone k p hpull hp).symm.trans hlive

/-- A task goes on with the entry it holds. -/
theorem Sound.held {pc pc' : DispatchPc} (h : Sound s)
    (hd : s.dispatches.get? n = some ⟨txid, pc⟩) (hpc : ∀ k, pc ≠ .sent k)
    (hpull : Dispatch.pull? ⟨txid, pc'⟩ = Dispatch.pull? ⟨txid, pc⟩) :
    Sound (s.setDispatch n ⟨txid, pc'⟩) := by
  refine h.setDispatch (fun d hd' => ?_) fun k hk => .inr ⟨n, _, hd, rfl, hpull ▸ hk⟩
  cases hd.symm.trans hd'
  exact ⟨rfl, hpc, fun k p hk _ _ => hpull ▸ hk⟩

/-- The entry goes from the table to the task. -/
theorem Sound.lock (h : Sound s) (hd : s.dispatches.get? n = some ⟨txid, .lock⟩)
    (hget : s.pending.get? txid = some k) :
    Sound ({ s with pending := s.pending.erase txid }.setDispatch n ⟨txid, .check k⟩) := by
  have hheld : Sound (s.setDispatch n ⟨txid, .check k⟩) := by
    refine h.setDispatch (fun d hd' => ?_) ?_
    · cases hd.symm.trans hd'
      exact ⟨rfl, by rintro _ ⟨⟩, by rintro _ _ ⟨⟩⟩
    · rintro _ ⟨⟩
      exact .inl hget
  refine hheld.setPending (fun t k' hget' => .inl (Table.of_get?_erase hget').2)
    fun t k' _ hget' _ _ => ?_
  by_cases ht : t = txid
  · subst ht
    cases hget.symm.trans hget'
    exact .inr ⟨n, _, Table.get?_insert_self _ _ _, rfl, rfl⟩
  · exact .inl ((Table.get?_erase_of_ne _ ht).trans hget')

theorem Sound.dispatch {pc : DispatchPc} (h : Sound s)
    (hd : s.dispatches.get? n = some ⟨txid, pc⟩) (hstep : s.advanceDispatch n txid pc = some s') :
    Sound s' := by
  cases pc with
  | lock =>
    simp only [advanceDispatch] at hstep
    split at hstep
    · next k hget =>
      cases hstep
      exact h.lock hd hget
    · cases hstep
      exact h.ended hd (by rintro _ ⟨⟩) (by rintro _ _ ⟨⟩)
  | check k =>
    cases hstep
    split
    · next hdead =>
      refine h.ended hd (by rintro _ ⟨⟩) ?_
      rintro _ p ⟨⟩ hp
      refine Bool.eq_false_iff.2 fun hlive => ?_
      cases (h.alive hp hlive).symm.trans hdead
    · exact h.held hd (by rintro _ ⟨⟩) rfl
  | send k =>
    obtain ⟨p, hp, rfl⟩ := Option.map_eq_some_iff.1 hstep
    split
    · exact h.held hd (by rintro _ ⟨⟩) rfl
    · next hrx =>
      refine h.ended hd (by rintro _ ⟨⟩) ?_
      rintro _ q ⟨⟩ hq
      cases hp.symm.trans hq
      exact Bool.eq_false_iff.2 fun hlive => hrx ((h.good k p hp).waits hlive).2.1
  | sent | ended => cases hstep

/-! ## Runs -/

theorem sound_step (h : Sound s) (hstep : s.step a = some s') : Sound s' := by
  cases a with
  | pull k =>
    obtain ⟨hfresh, ⟨⟩⟩ := Option.ite_none_left_eq_some.1 hstep
    refine h.setPull ⟨fun _ => rfl, by rintro ⟨⟩, by rintro n ⟨⟩⟩ fun p hp => ?_
    exact absurd (Table.contains_iff.2 ⟨p, hp⟩) hfresh
  | advance k e =>
    obtain ⟨p, hp, hstep⟩ := Option.bind_eq_some_iff.1 hstep
    obtain ⟨p', hnext, rfl⟩ := Option.map_eq_some_iff.1 hstep
    exact h.next hp hnext
  | register k =>
    obtain ⟨p, hp, hstep⟩ := Option.bind_eq_some_iff.1 hstep
    rw [Option.ite_none_right_eq_some] at hstep
    obtain ⟨txid, htxid, rfl⟩ := Option.map_eq_some_iff.1 hstep.2
    exact h.sweep.register hp htxid
  | receive k n =>
    obtain ⟨p, hp, hstep⟩ := Option.bind_eq_some_iff.1 hstep
    exact h.receive hp hstep
  | receiveClosed k =>
    obtain ⟨p, hp, hstep⟩ := Option.bind_eq_some_iff.1 hstep
    obtain ⟨-, ⟨⟩⟩ := Option.ite_none_right_eq_some.1 hstep
    exact h.movePull hp ⟨by rintro ⟨⟩, by rintro ⟨⟩, by simp⟩ fun _ ht => ht
  | stream n txid =>
    obtain ⟨hfresh, ⟨⟩⟩ := Option.ite_none_left_eq_some.1 hstep
    refine h.setDispatch (fun d hd => ?_) (by rintro _ ⟨⟩)
    exact absurd (Table.contains_iff.2 ⟨d, hd⟩) hfresh
  | dispatch n =>
    obtain ⟨d, hd, hstep⟩ := Option.bind_eq_some_iff.1 hstep
    exact h.dispatch hd hstep

theorem sound_new : Sound new := by
  refine ⟨fun k p hp => ?_, ?_⟩
  · cases (Table.get?_empty k).symm.trans hp
  · rintro txid k (hget | ⟨n, d, hd, -⟩)
    · cases (Table.get?_empty txid).symm.trans hget
    · cases (Table.get?_empty n).symm.trans hd

theorem sound_run {as : List Action} (hrun : run step new as = some s) : Sound s :=
  run_induct (fun _ _ _ h hstep => sound_step h hstep) sound_new hrun

namespace Sample

/-- A pull is announced its transaction and registers. -/
def opened (k : ℕ) : List Action :=
  [.pull k, .advance k (.fetched (.ok ⟨zeroId, "00", 4, "text/plain"⟩)), .register k]

/-- A pull is dropped, and another takes its transaction and waits. -/
def waiting : List Action :=
  opened 0 ++ [.advance 0 .drop, .advance 0 .setDead] ++ opened 1 ++
    [.advance 1 (.begun (.ok .acknowledge) "")]

/-- The stream comes. -/
def delivered : List Action :=
  waiting ++ [.stream 5 zeroId, .dispatch 5, .dispatch 5, .dispatch 5, .receive 1 5]

end Sample

/-- **A pull gets its own stream.** The stream a pull returns is of the
transaction its metadata announce, and no other pull returns it. -/
theorem stream_of_pull {as : List Action} {s : FetchPuller} (hrun : run step new as = some s)
    {k n : ℕ} {p : Pull} (hp : s.pulls.get? k = some p) (hok : p.pc = .returned (.ok n)) :
    (∃ d, s.dispatches.get? n = some d ∧ p.txid? = some d.txid) ∧
      ∀ k' q, s.pulls.get? k' = some q → q.pc = .returned (.ok n) → k' = k := by
  have h := sound_run hrun
  obtain ⟨txid, hd⟩ := (h.good k p hp).result n hok
  obtain ⟨q, hq, htxid⟩ := h.sender txid k (.inr ⟨n, _, hd, rfl, rfl⟩)
  cases hp.symm.trans hq
  refine ⟨⟨_, hd, htxid⟩, fun k' q hq hok' => ?_⟩
  obtain ⟨txid', hd'⟩ := (h.good k' q hq).result n hok'
  cases hd.symm.trans hd'
  rfl

theorem stream_of_pull_delivered : ∃ s p, run step new Sample.delivered = some s ∧
    s.pulls.get? 1 = some p ∧ p.pc = .returned (.ok 5) ∧
      (∃ d, s.dispatches.get? 5 = some d ∧ p.txid? = some d.txid) ∧
        ∀ k' q, s.pulls.get? k' = some q → q.pc = .returned (.ok 5) → k' = 1 := by
  obtain ⟨s, p, hrun, hp, hok⟩ : ∃ s p, run step new Sample.delivered = some s ∧
      s.pulls.get? 1 = some p ∧ p.pc = .returned (.ok 5) := by decide
  exact ⟨_, _, hrun, hp, hok, stream_of_pull hrun hp hok⟩

/-- A task that has the entry of a pull which waits gives it the stream. -/
theorem returns_of_held (h : Sound s) (hp : s.pulls.get? k = some p) (hpc : p.pc = .awaitStream)
    (hd : s.dispatches.get? n = some d) (hpull : d.pull? = some k) :
    ∃ m ≤ 2, ∃ s', run step s (List.replicate m (.dispatch n) ++ [.receive k n]) = some s' ∧
      (s'.pulls.get? k).map Pull.pc = some (.returned (.ok n)) := by
  have hlive : p.pc.live = true := by rw [hpc]; rfl
  have hdead := h.alive hp hlive
  have hrx := ((h.good k p hp).waits hlive).2.1
  obtain ⟨txid, pc⟩ := d
  cases pc with
  | lock | ended => cases hpull
  | check =>
    cases hpull
    refine ⟨2, le_rfl, ?_⟩
    simp [run, step, hd, advanceDispatch, hdead, hp, hrx, receive, hpc, setDispatch, setPull]
  | send =>
    cases hpull
    refine ⟨1, one_le_two, ?_⟩
    simp [run, step, hd, advanceDispatch, hp, hrx, receive, hpc, setDispatch, setPull]
  | sent =>
    cases hpull
    refine ⟨0, zero_le_two, ?_⟩
    simp [run, step, hd, hp, receive, hpc, setPull]

/-- **A pull that waits is not forgotten.** Its entry is in the table under
its transaction, or the task of a stream of the transaction has taken it and
brings it the stream; and the wait does not end in `Closed`. -/
theorem waiting_of_run {as : List Action} {s : FetchPuller} (hrun : run step new as = some s)
    {k : ℕ} {p : Pull} (hp : s.pulls.get? k = some p) (hpc : p.pc = .awaitStream) :
    (∃ txid, p.txid? = some txid ∧ (s.pending.get? txid = some k ∨
      ∃ n m s', (s.dispatches.get? n).map Dispatch.txid = some txid ∧ m ≤ 2 ∧
        run step s (List.replicate m (.dispatch n) ++ [.receive k n]) = some s' ∧
          (s'.pulls.get? k).map Pull.pc = some (.returned (.ok n)))) ∧
    s.step (.receiveClosed k) = none := by
  have h := sound_run hrun
  obtain ⟨-, -, txid, hsends⟩ := (h.good k p hp).waits (by rw [hpc]; rfl)
  obtain ⟨q, hq, htxid⟩ := h.sender txid k hsends
  cases hp.symm.trans hq
  refine ⟨⟨txid, htxid, hsends.imp_right ?_⟩, ?_⟩
  · rintro ⟨n, d, hd, rfl, hpull⟩
    obtain ⟨m, hm, s', hrest⟩ := returns_of_held h hp hpc hd hpull
    exact ⟨n, m, s', by rw [hd]; rfl, hm, hrest⟩
  · simp [step, hp, receiveClosed, isClosed_of_sends hsends]

theorem waiting_of_run_waiting : ∃ s p, run step new Sample.waiting = some s ∧
    s.pulls.get? 1 = some p ∧ p.pc = .awaitStream ∧ s.step (.receiveClosed 1) = none := by
  obtain ⟨s, p, hrun, hp, hpc⟩ : ∃ s p, run step new Sample.waiting = some s ∧
      s.pulls.get? 1 = some p ∧ p.pc = .awaitStream := by decide
  exact ⟨_, _, hrun, hp, hpc, (waiting_of_run hrun hp hpc).2⟩

end FetchPuller

end Fetch

end Xacpp
