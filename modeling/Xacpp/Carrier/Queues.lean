import Mathlib.Logic.Relation
import Xacpp.Carrier.Readers
import Xacpp.Carrier.Requests
/-!
# The drains and their queues

The drain of `spawn_egress` stands in three models, each with as much of it
as it needs: with its bytes in `Egress`, as a queue beside the requests
(`Requests.advanceDrain`), and in the transport as what it does to the flags
(`SocketTransport.advanceDrain`). `Drains` is the drain alone. A run of the
requests is a run of drains, and all along it the drains of the transport
are where their queues are.

`step_effect` says what a step of the requests can do.
-/

namespace Xacpp

open Relation (ReflTransGen)

namespace Carrier

/-- The receipt, if there is one, is answered. -/
def answer (acks : Table ℕ Bool) (ok : Bool) (receipt : Option ℕ) : Table ℕ Bool :=
  receipt.elim acks fun k => acks.insert k ok

/-- **The drain**, on a queue and the write results given so far. -/
inductive Drains : Queue × Table ℕ Bool → Queue × Table ℕ Bool → Prop
  | push {control items stage acks} (item : EgressItem) (hgone : stage ≠ .gone) :
      Drains (⟨control, items, stage⟩, acks) (⟨control, items ++ [item], stage⟩, acks)
  | pushControl {control items stage acks} (hgone : stage ≠ .gone) :
      Drains (⟨control, items, stage⟩, acks) (⟨control + 1, items, stage⟩, acks)
  /-- A control frame is written, or its write fails. -/
  | control {control items acks} (ok : Bool) : Drains (⟨control + 1, items, .draining⟩, acks)
      (⟨control, items, if ok then .draining else .marking false⟩, acks)
  /-- The same for a data frame, with no control frame before it. -/
  | frame {receipt items acks} (ok : Bool) :
      Drains (⟨0, .frame receipt :: items, .draining⟩, acks)
        (⟨0, items, if ok then .draining else .marking true⟩, answer acks ok receipt)
  | close {items acks} :
      Drains (⟨0, .close :: items, .draining⟩, acks) (⟨0, items, .shutdown⟩, acks)
  /-- The last handle is gone. -/
  | closed {acks} : Drains (⟨0, [], .draining⟩, acks) (⟨0, [], .shutdown⟩, acks)
  | mark {control items data acks} :
      Drains (⟨control, items, .marking data⟩, acks) (⟨control, items, .clearing data⟩, acks)
  | clear {control items data acks} : Drains (⟨control, items, .clearing data⟩, acks)
      (⟨control, items, if data then .failing else .shutdown⟩, acks)
  | failFrame {control receipt items acks} :
      Drains (⟨control, .frame receipt :: items, .failing⟩, acks)
        (⟨control, items, .failing⟩, answer acks false receipt)
  | failClose {control items acks} :
      Drains (⟨control, .close :: items, .failing⟩, acks) (⟨control, items, .failing⟩, acks)
  | failed {control acks} :
      Drains (⟨control, [], .failing⟩, acks) (⟨control, [], .shutdown⟩, acks)
  | leave {control items acks} :
      Drains (⟨control, items, .shutdown⟩, acks) (⟨0, [], .gone⟩, acks)

theorem drains_pushControl {items : List EgressItem} {stage : QueueStage} {acks : Table ℕ Bool}
    (hgone : stage ≠ .gone) (n : ℕ) :
    ReflTransGen Drains (⟨0, items, stage⟩, acks) (⟨n, items, stage⟩, acks) := by
  induction n with
  | zero => exact .refl
  | succ n ih => exact ih.tail (.pushControl hgone)

/-- One of several queues is drained. -/
def DrainsOne (s s' : (ℕ → Queue) × Table ℕ Bool) : Prop :=
  ∃ n queue, Drains (s.1 n, s.2) (queue, s'.2) ∧ s'.1 = Function.update s.1 n queue

theorem drainsOne_of_drains {queues : ℕ → Queue} {n : ℕ} {queue : Queue}
    {acks acks' : Table ℕ Bool} (h : ReflTransGen Drains (queues n, acks) (queue, acks')) :
    ReflTransGen DrainsOne (queues, acks) (Function.update queues n queue, acks') := by
  have hlift : ReflTransGen DrainsOne (Function.update queues n (queues n), acks)
      (Function.update queues n queue, acks') := by
    refine h.lift (fun s => (Function.update queues n s.1, s.2)) fun s s' hstep => ?_
    exact ⟨n, s'.1, by simpa using hstep, by simp⟩
  rwa [Function.update_eq_self] at hlift

/-- Where the drain of the transport stands, by the stage its queue is at. -/
def QueueStage.Shows (pc : Option DrainPc) : QueueStage → Prop
  | .draining => pc ≠ some .failing ∧ pc ≠ some .ended
  | .marking _ => pc = some .failing
  | .clearing _ | .failing | .shutdown | .gone => pc = some .ended

/-- A stage the drain leaves with the flags, and the stage it comes to. -/
def QueueStage.Flags (ok data : Bool) (stage stage' : QueueStage) : Prop :=
  stage = .draining ∧ stage' = (if ok then .shutdown else .marking data) ∨
    stage = .marking data ∧ stage' = .clearing data

theorem QueueStage.Shows.next {stage stage' : QueueStage} {pc : DrainPc} {ok data : Bool}
    (h : stage.Shows (some pc)) (hflags : Flags ok data stage stage') :
    stage'.Shows (some (pc.next ok)) := by
  rcases hflags with ⟨rfl, rfl⟩ | ⟨rfl, rfl⟩
  · cases pc with
    | running | closing => cases ok <;> rfl
    | failing => exact absurd rfl h.1
    | ended => exact absurd rfl h.2
  · cases h
    rfl

/-! ## What a step does to the requests -/

namespace Requests

open SocketTransport (Rests)

variable {r r' : Requests} {parse : Bytes → Option UInt64} {a : Action} {n : ℕ}

/-- The part of the requests the pending table is about. -/
structure Books where
  pending : Table UInt64 PendingSlot
  calls : Table ℕ Call
  responded : Finset ℕ

def books (r : Requests) : Books := ⟨r.pending, r.calls, r.responded⟩

@[simp] theorem books_push (r : Requests) (n : ℕ) (item : EgressItem) :
    (r.push n item).books = r.books := by
  unfold push
  split <;> rfl

theorem books_push_setCall (r : Requests) (n : ℕ) (item : EgressItem) (k : ℕ) (call : Call)
    (pc : CallPc) : ((r.push n item).setCall k call pc).books = (r.setCall k call pc).books := by
  unfold push
  split <;> rfl

@[simp] theorem books_ack (r : Requests) (ok : Bool) (writeAck : Option ℕ) :
    (r.ack ok writeAck).books = r.books := by
  cases writeAck <;> rfl

@[simp] theorem books_failItems (r : Requests) (items : List EgressItem) :
    (r.failItems items).books = r.books := by
  induction items generalizing r with
  | nil => rfl
  | cons item rest ih =>
    cases item with
    | frame writeAck => exact (ih (r.ack false writeAck)).trans (r.books_ack false writeAck)
    | close => exact ih r

/-- A tear-down clears the table, a response takes one slot out of it, and
nothing else the transport does touches it. -/
inductive Loses (r : Requests) : Books → Prop
  | none : Loses r r.books
  | all : Loses r r.clearPending.books
  | one (id : UInt64) : Loses r (r.respond id).books

/-- What the drains work on. -/
def drained (r : Requests) : (ℕ → Queue) × Table ℕ Bool := (r.queue, r.writeAcks)

theorem queue_of_insert {queue : Queue} (hqueues : r'.queues = r.queues.insert n queue) :
    r'.queue = Function.update r.queue n queue := by
  funext m
  rw [Requests.queue, hqueues, Table.get?_insert, Function.update_apply]
  split <;> rfl

theorem drained_of_insert {queue queue' : Queue} (hqueue : r.queue n = queue)
    (hqueues : r'.queues = r.queues.insert n queue')
    (h : ReflTransGen Drains (queue, r.writeAcks) (queue', r'.writeAcks)) :
    ReflTransGen DrainsOne r.drained r'.drained := by
  rw [drained, drained, queue_of_insert hqueues]
  exact drainsOne_of_drains (hqueue ▸ h)

/-- Something may be queued; no drain moves. -/
structure Queues (r r' : Requests) : Prop where
  stage : ∀ n, (r'.queue n).stage = (r.queue n).stage
  drained : ReflTransGen DrainsOne r.drained r'.drained
  transport : r'.transport = r.transport

theorem Queues.of_same (hqueues : r'.queues = r.queues) (hacks : r'.writeAcks = r.writeAcks)
    (htransport : r'.transport = r.transport) : Queues r r' := by
  have hqueue : r'.queue = r.queue := funext fun n => by rw [Requests.queue, hqueues]; rfl
  refine ⟨fun n => by rw [hqueue], ?_, htransport⟩
  rw [Requests.drained, Requests.drained, hqueue, hacks]

theorem Queues.of_insert {queue : Queue} (hqueues : r'.queues = r.queues.insert n queue)
    (hstage : queue.stage = (r.queue n).stage) (htransport : r'.transport = r.transport)
    (h : Drains (r.queue n, r.writeAcks) (queue, r'.writeAcks)) : Queues r r' where
  stage m := by
    rw [queue_of_insert hqueues, Function.update_apply]
    split
    · next heq => rw [heq, hstage]
    · rfl
  drained := drained_of_insert rfl hqueues (.single h)
  transport := htransport

theorem queues_push (r : Requests) (n : ℕ) (item : EgressItem) : Queues r (r.push n item) := by
  unfold push
  split
  · exact .of_same rfl rfl rfl
  · next hgone => exact .of_insert rfl rfl rfl (.push item hgone)

theorem queues_advanceCall {k : ℕ} {call : Call} (h : r.advanceCall k call = some r') :
    Queues r r' := by
  unfold advanceCall at h
  split at h
  case h_4 n _ =>
    have hpush : ∀ item pc, Queues r ((r.push n item).setCall k call pc) := by
      intro item pc
      obtain ⟨hstage, hdrained, htransport⟩ := r.queues_push n item
      exact ⟨hstage, hdrained, htransport⟩
    split at h
    · cases h
      exact .of_same rfl rfl rfl
    · split at h <;> cases h <;> exact hpush ..
  -- the other stretches leave the queues alone
  all_goals (repeat' split at h) <;> cases h <;> exact .of_same rfl rfl rfl

theorem follow_effect (r : Requests) (parse : Bytes → Option UInt64) (t : SocketTransport)
    (a : SocketTransport.Action) :
    Loses r (r.follow parse t a).books ∧ Queues r (r.follow parse t a) := by
  unfold follow
  cases a with
  | advance reachable =>
    dsimp only
    split
    · split
      · exact ⟨.none, .of_same rfl rfl rfl⟩
      · rw [books_push]
        exact ⟨.none, r.queues_push _ _⟩
    · exact ⟨.all, .of_same rfl rfl rfl⟩
    · exact ⟨.none, .of_same rfl rfl rfl⟩
  | dispatch n =>
    dsimp only
    split
    · split
      · exact ⟨.none, .of_same rfl rfl rfl⟩
      · refine ⟨.one _, ?_⟩
        unfold respond
        split <;> exact .of_same rfl rfl rfl
    · rw [books_push]
      obtain ⟨hstage, hdrained, htransport⟩ := r.clearPending.queues_push n .close
      exact ⟨.all, hstage, hdrained, htransport⟩
    · exact ⟨.none, .of_same rfl rfl rfl⟩
  | _ => exact ⟨.none, .of_same rfl rfl rfl⟩

/-- The items that are failed, one after the other. -/
theorem failItems_drains (items : List EgressItem) (r : Requests) (control : ℕ) :
    (r.failItems items).transport = r.transport ∧ (r.failItems items).queues = r.queues ∧
      ReflTransGen Drains (⟨control, items, .failing⟩, r.writeAcks)
        (⟨control, [], .failing⟩, (r.failItems items).writeAcks) := by
  induction items generalizing r with
  | nil => exact ⟨rfl, rfl, .refl⟩
  | cons item items ih =>
    cases item with
    | frame receipt =>
      obtain ⟨htransport, hqueues, hdrains⟩ := ih (r.ack false receipt)
      cases receipt <;> exact ⟨htransport, hqueues, .head .failFrame hdrains⟩
    | close =>
      obtain ⟨htransport, hqueues, hdrains⟩ := ih r
      exact ⟨htransport, hqueues, .head .failClose hdrains⟩

/-- What the drain of connection `n` can do. -/
inductive QueueStep (r : Requests) (n : ℕ) (r' : Requests) : Prop
  /-- The queue goes on, and the transport takes no notice. -/
  | alone {queue queue' : Queue} (hqueue : r.queue n = queue)
      (htransport : r'.transport = r.transport) (hqueues : r'.queues = r.queues.insert n queue')
      (hdrains : ReflTransGen Drains (queue, r.writeAcks) (queue', r'.writeAcks))
      (hstage : ∀ pc, queue.stage.Shows pc → queue'.stage.Shows pc) (hloses : Loses r r'.books)
  /-- The drain of the transport goes on with it. -/
  | both {ok data : Bool} {queue queue' : Queue} (hqueue : r.queue n = queue)
      (htransport : r.transport.step (.drain n ok) = some r'.transport)
      (hqueues : r'.queues = r.queues.insert n queue')
      (hdrains : Drains (queue, r.writeAcks) (queue', r'.writeAcks))
      (hflags : QueueStage.Flags ok data queue.stage queue'.stage) (hbooks : r'.books = r.books)

theorem QueueStep.of_drainStep {ok : Bool} (data : Bool) {queue queue' : Queue} {r₁ : Requests}
    (h : r₁.drainStep n ok queue' = some r') (hqueue : r.queue n = queue)
    (hsame : r₁.transport = r.transport ∧ r₁.queues = r.queues ∧ r₁.books = r.books)
    (hdrains : Drains (queue, r.writeAcks) (queue', r₁.writeAcks))
    (hflags : QueueStage.Flags ok data queue.stage queue'.stage) : QueueStep r n r' := by
  obtain ⟨t, ht, rfl⟩ := Option.map_eq_some_iff.1 h
  exact .both hqueue (hsame.1 ▸ ht) (congrArg (Table.insert · n queue') hsame.2.1) hdrains hflags
    hsame.2.2

theorem advanceDrain_effect {ok : Bool} (h : r.advanceDrain n ok = some r') :
    QueueStep r n r' := by
  unfold advanceDrain at h
  cases hqueue : r.queue n with
  | mk control items stage =>
    rw [hqueue] at h
    cases stage with
    | draining =>
      cases control with
      | succ control =>
        cases ok with
        | true =>
          cases h
          exact .alone hqueue rfl rfl (.single (.control true)) (fun _ hpc => hpc) .none
        | false =>
          exact .of_drainStep false h hqueue ⟨rfl, rfl, rfl⟩ (.control false) (.inl ⟨rfl, rfl⟩)
      | zero =>
        cases items with
        | nil =>
          dsimp only at h
          split at h
          · cases h
          · exact .of_drainStep true h hqueue ⟨rfl, rfl, rfl⟩ .closed (.inl ⟨rfl, rfl⟩)
        | cons item items =>
          cases item with
          | frame receipt =>
            cases ok with
            | true =>
              cases h
              cases receipt <;>
                exact .alone hqueue rfl rfl (.single (.frame true)) (fun _ hpc => hpc) .none
            | false =>
              refine .of_drainStep true h hqueue ?_ ?_ (.inl ⟨rfl, rfl⟩)
              · cases receipt <;> exact ⟨rfl, rfl, rfl⟩
              · cases receipt <;> exact .frame false
          | close => exact .of_drainStep true h hqueue ⟨rfl, rfl, rfl⟩ .close (.inl ⟨rfl, rfl⟩)
    | marking data =>
      exact .of_drainStep data h hqueue ⟨rfl, rfl, rfl⟩ .mark (.inr ⟨rfl, rfl⟩)
    | clearing data =>
      cases h
      cases data <;> exact .alone hqueue rfl rfl (.single .clear) (fun _ hpc => hpc) .all
    | failing =>
      cases h
      obtain ⟨htransport, hqueues, hdrains⟩ := failItems_drains items r control
      refine .alone hqueue htransport (congrArg (Table.insert · n _) hqueues)
        (hdrains.tail .failed) (fun _ hpc => hpc) ?_
      change Loses r (r.failItems items).books
      rw [books_failItems]
      exact .none
    | shutdown =>
      cases h
      exact .alone hqueue rfl rfl (.single .leave) (fun _ hpc => hpc) .none
    | gone => cases h

theorem QueueStep.loses (h : QueueStep r n r') : Loses r r'.books := by
  cases h with
  | alone hqueue htransport hqueues hdrains hstage hloses => exact hloses
  | both hqueue htransport hqueues hdrains hflags hbooks =>
    rw [hbooks]
    exact .none

theorem QueueStep.drained (h : QueueStep r n r') :
    ReflTransGen DrainsOne r.drained r'.drained := by
  cases h with
  | alone hqueue htransport hqueues hdrains => exact drained_of_insert hqueue hqueues hdrains
  | both hqueue htransport hqueues hdrains =>
    exact drained_of_insert hqueue hqueues (.single hdrains)

theorem rests_step {t t' : Transport} {a : SocketTransport.Action}
    (ha : ∀ n ok, a ≠ .drain n ok) (hstep : t.step a = some t') : Rests t.shared t'.shared := by
  cases t with
  | socket t =>
    obtain ⟨t₁, hsocket, rfl⟩ := Option.map_eq_some_iff.1 hstep
    exact (SocketTransport.step_effect hsocket).rests ha
  | stdio t =>
    obtain ⟨t₁, hstdio, rfl⟩ := Option.map_eq_some_iff.1 hstep
    cases a with
    | advance reachable =>
      obtain ⟨op, hop, rfl⟩ := Option.map_eq_some_iff.1 hstdio
      unfold StdioTransport.advance
      split
      case h_3 pc _ => exact (SocketTransport.advanceConnect_effect hop reachable).rests ha
      case h_4 pc _ => exact (SocketTransport.advanceDisconnect_effect hop).rests ha
      all_goals (repeat' split) <;> exact .of_op rfl rfl hop (by simp)
    | _ =>
      simp only [StdioTransport.step] at hstdio
      obtain ⟨shared, hshared, rfl⟩ := Option.map_eq_some_iff.1 hstdio
      exact (SocketTransport.step_effect hshared).rests ha

/-- What a step does to the table and the calls. -/
inductive Moves (r : Requests) : Action → Books → Prop
  | start {k : ℕ} {kind : CallKind} {serializes : Bool} {pc : CallPc}
      (hfresh : r.calls.get? k = none) :
      Moves r (.start k kind serializes)
        { r.books with calls := r.calls.insert k ⟨kind, r.nextId, pc⟩ }
  | call {k : ℕ} {call : Call} {r' : Requests} (hget : r.calls.get? k = some call)
      (hadvance : r.advanceCall k call = some r') : Moves r (.advance k) r'.books
  | task {a : Action} {books : Books} (h : Loses r books) : Moves r a books

/-- What a step does to the queues and the drains of the transport. -/
inductive Effect (r r' : Requests) : Prop
  | drains {n : ℕ} (h : QueueStep r n r')
  | rests (hstage : ∀ n, (r'.queue n).stage = (r.queue n).stage)
      (hdrained : ReflTransGen DrainsOne r.drained r'.drained)
      (hrests : Rests r.transport.shared r'.transport.shared)

theorem Effect.of_queues (h : Queues r r') : Effect r r' :=
  .rests h.stage h.drained (by rw [h.transport]; exact .of_same rfl rfl fun _ => rfl)

/-- **The inversion of `step`.** -/
theorem step_effect (h : step parse r a = some r') : Moves r a r'.books ∧ Effect r r' := by
  cases a with
  | start k kind serializes =>
    rw [step] at h
    split at h
    · cases h
    · next hfresh =>
      cases h
      exact ⟨.start (Option.not_isSome_iff_eq_none.1 hfresh), .of_queues (.of_same rfl rfl rfl)⟩
  | advance k =>
    obtain ⟨call, hget, hadvance⟩ := Option.bind_eq_some_iff.1 h
    exact ⟨.call hget hadvance, .of_queues (queues_advanceCall hadvance)⟩
  | transport a =>
    obtain ⟨hloses, hstage, hdrained, -⟩ := r.follow_effect parse r.transport.shared a
    cases a with
    | drain n ok => cases h
    | _ =>
      obtain ⟨t, ht, rfl⟩ := Option.map_eq_some_iff.1 h
      exact ⟨.task hloses,
        .rests hstage hdrained (rests_step (fun _ _ heq => by cases heq) ht)⟩
  | drain n ok =>
    have hstep := advanceDrain_effect h
    exact ⟨.task hstep.loses, .drains hstep⟩
  | enqueue n control =>
    rw [step] at h
    split at h
    · cases h
    · next hopen =>
      split at h
      · cases h
        exact ⟨.task .none,
          .of_queues (.of_insert rfl rfl rfl (.pushControl fun hgone => hopen (.inr hgone)))⟩
      · cases h
        rw [books_push]
        exact ⟨.task .none, .of_queues (r.queues_push _ _)⟩

/-! ## Runs -/

/-- **A run of the requests is a run of drains.** -/
theorem drains_of_run {as : List Action} (hrun : run (step parse) r as = some r') :
    ReflTransGen DrainsOne r.drained r'.drained := by
  refine run_induct (I := fun s => ReflTransGen DrainsOne r.drained s.drained)
    (fun s a s' hs hstep => hs.trans ?_) .refl hrun
  cases (step_effect hstep).2 with
  | drains hqueue => exact hqueue.drained
  | rests hstage hdrained hrests => exact hdrained

end Requests

/-- A connection has a drain once it is opened. -/
def SocketTransport.Fresh (t : SocketTransport) : Prop :=
  ∀ n, t.started ≤ n → t.drains.get? n ≠ none → n = t.started ∧ t.op = some (.connect .storeEgress)

open SocketTransport (Rests Fresh)

theorem SocketTransport.Rests.fresh {t t' : SocketTransport} (h : Rests t t') (hfresh : Fresh t) :
    Fresh t' := by
  intro n hn hdrain
  cases h with
  | keeps hdrains hstarted hop =>
    rw [hstarted] at hn ⊢
    have hsome : t.drains.get? n ≠ none := by
      rcases hdrains n with heq | ⟨heq, -⟩
      · rwa [heq] at hdrain
      · rw [heq]
        exact Option.some_ne_none _
    obtain ⟨rfl, hstore⟩ := hfresh n hn hsome
    exact ⟨rfl, (hop hstore).trans hstore⟩
  | spawns hop hdrains hstarted hop' =>
    rw [hstarted] at hn ⊢
    refine ⟨by_contra fun hne => ?_, hop'⟩
    rw [hdrains, Table.get?_insert_of_ne _ _ hne] at hdrain
    cases hop.symm.trans (hfresh n hn hdrain).2
  | starts hdrains hstarted =>
    rw [hstarted] at hn
    rw [hdrains] at hdrain
    exact absurd (hfresh n (Nat.le_of_succ_le hn) hdrain).1 (Nat.ne_of_gt hn)

theorem Transport.drain_shared {t t' : Transport} {n : ℕ} {ok : Bool}
    (hstep : t.step (.drain n ok) = some t') : ∃ pc connected closed,
      t.shared.drains.get? n = some pc ∧ t'.shared = { t.shared with
        connected := connected, closed := closed
        drains := t.shared.drains.insert n (pc.next ok) } := by
  have hdrain : t.shared.step (.drain n ok) = some t'.shared := by
    cases t with
    | socket t =>
      obtain ⟨t₁, hsocket, rfl⟩ := Option.map_eq_some_iff.1 hstep
      exact hsocket
    | stdio t =>
      obtain ⟨t₁, hstdio, rfl⟩ := Option.map_eq_some_iff.1 hstep
      obtain ⟨shared, hshared, rfl⟩ := Option.map_eq_some_iff.1 hstdio
      exact hshared
  obtain ⟨pc, hget, hadv⟩ := Option.bind_eq_some_iff.1 hdrain
  obtain ⟨connected, closed, heq⟩ := SocketTransport.advanceDrain_some hadv
  exact ⟨pc, connected, closed, hget, heq⟩

namespace Requests

variable {r r' : Requests} {parse : Bytes → Option UInt64} {a : Action}

/-- The drains of the transport are where their queues are. -/
structure Shown (r : Requests) : Prop where
  fresh : Fresh r.transport.shared
  shows : ∀ n, (r.queue n).stage.Shows (r.transport.shared.drains.get? n)

theorem Shown.queueStep {n : ℕ} (h : Shown r) (hstep : QueueStep r n r') : Shown r' := by
  cases hstep with
  | alone hqueue htransport hqueues hdrains hstage =>
    refine ⟨htransport ▸ h.fresh, fun m => ?_⟩
    rw [htransport, queue_of_insert hqueues, Function.update_apply]
    split
    · next heq => exact hstage _ (hqueue ▸ heq ▸ h.shows m)
    · exact h.shows m
  | both hqueue htransport hqueues hdrains hflags =>
    obtain ⟨pc, connected, closed, hget, heq⟩ := Transport.drain_shared htransport
    refine ⟨fun m hm hdrain => ?_, fun m => ?_⟩
    · rw [heq] at hm hdrain ⊢
      refine h.fresh m hm fun hnone => hdrain ?_
      have hne : m ≠ n := by
        rintro rfl
        cases hnone.symm.trans hget
      exact (Table.get?_insert_of_ne _ _ hne).trans hnone
    · rw [heq, queue_of_insert hqueues, Table.get?_insert, Function.update_apply]
      split
      · exact QueueStage.Shows.next (hget ▸ hqueue ▸ h.shows n) hflags
      · exact h.shows m

/-- A drain that is spawned, or told to close, drains. -/
theorem draining_of_shows {pc : Option DrainPc} {stage : QueueStage} (h : stage.Shows pc)
    (hpc : pc ≠ some .failing ∧ pc ≠ some .ended) : stage = .draining := by
  cases stage with
  | draining => rfl
  | marking => exact absurd h hpc.1
  | _ => exact absurd h hpc.2

theorem Shown.rests (h : Shown r) (hrests : Rests r.transport.shared r'.transport.shared)
    (hstage : ∀ n, (r'.queue n).stage = (r.queue n).stage) : Shown r' := by
  refine ⟨hrests.fresh h.fresh, fun n => ?_⟩
  rw [hstage]
  have hshows := h.shows n
  cases hrests with
  | keeps hdrains hstarted hop =>
    rcases hdrains n with heq | ⟨hrunning, hclosing⟩
    · rwa [heq]
    · rw [hrunning] at hshows
      rw [hclosing, draining_of_shows hshows (by simp)]
      exact ⟨by simp, by simp⟩
  | spawns hop hdrains hstarted hop' =>
    rw [hdrains, Table.get?_insert]
    split
    · next heq =>
      have hnone : r.transport.shared.drains.get? n = none := by
        by_contra hsome
        cases hop.symm.trans (h.fresh n heq.ge hsome).2
      rw [hnone] at hshows
      rw [draining_of_shows hshows (by simp)]
      exact ⟨by simp, by simp⟩
    · exact hshows
  | starts hdrains hstarted => rwa [hdrains]

/-- **The drains of the transport are where their queues are**, in every
run. -/
theorem shows_of_run {transport : Transport} {as : List Action}
    (hnew : transport.shared.drains = ∅) (hrun : run (step parse) (new transport) as = some r)
    (n : ℕ) : (r.queue n).stage.Shows (r.transport.shared.drains.get? n) := by
  have hnone : ∀ m, transport.shared.drains.get? m = none := fun m => by rw [hnew]; rfl
  have hshown : Shown (new transport) := by
    refine ⟨fun m _ hsome => absurd (hnone m) hsome, fun m => ?_⟩
    change QueueStage.Shows (transport.shared.drains.get? m) .draining
    rw [hnone]
    exact ⟨by simp, by simp⟩
  refine (run_induct (I := Shown) (fun s a s' hs hstep => ?_) hshown hrun).shows n
  cases (step_effect hstep).2 with
  | drains hqueue => exact hs.queueStep hqueue
  | rests hstage hdrained hrests => exact hs.rests hrests hstage

end Requests

end Carrier

end Xacpp
