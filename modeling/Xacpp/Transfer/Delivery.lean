import Xacpp.Transfer.Sending
import Xacpp.Transfer.Stretch
/-!
# One stream, one delivery

The reassembler keeps no trace of a transaction once its slot is gone, so
what stops a second incarnation is only that frame 0 opens a slot and no
other frame does. A late copy of frame 0 therefore reopens a transaction
that was delivered already; the last run below is the same frame twice.
Where no frame 0 arrives for an id without a slot after one was
handled, every run opens at most one stream per id and delivers it at most
once.
-/

namespace Xacpp

namespace Transfer

open Reliability

/-- The event hands a stream of the transaction to the stream handler. -/
def Event.opensStream (txid : TxId) : Event → Bool
  | .streamOpened id _ => decide (id = txid)
  | _ => false

/-- The event delivers the transaction to the binary handler. -/
def Event.delivers (txid : TxId) : Event → Bool
  | .delivered id _ => decide (id = txid)
  | _ => false

/-- The event is the arrival of frame 0 of the transaction. -/
def Event.firstFrame (txid : TxId) : Event → Bool
  | .inbound _ frame => decide (frame.frameType = .dataBinary) && decide (frame.seq = 0) &&
      decide (frame.transactionId = txid)
  | _ => false

/-- The event is one of the receive side. -/
def Event.received : Event → Bool
  | .streamOpened .. | .delivered .. => true
  | _ => false

namespace Session

variable {s s' : Session} {txid : TxId} {conn k now : ℕ} {frame : Frame} {outcomes : List Bool}

/-- **No late first frame**: frame 0 of a transaction without a slot was
never handled before. -/
def NoLateFirstFrame (s : Session) : Action → Prop
  | .inbound _ frame _ _ =>
    frame.frameType = .dataBinary → frame.seq = 0 →
      s.state.reassembler.containsTransaction frame.transactionId = false →
      ∀ e ∈ s.log, e.firstFrame frame.transactionId = false
  | _ => True

/-- How many slots the transaction has: none or one. -/
def slotCount (r : TransactionReassembler) (txid : TxId) : ℕ :=
  (r.slots.get? txid).toList.length

theorem slotCount_none {r : TransactionReassembler} (h : r.slots.get? txid = none) :
    slotCount r txid = 0 := by
  rw [slotCount, h]
  rfl

theorem slotCount_some {r : TransactionReassembler} {slot : Slot}
    (h : r.slots.get? txid = some slot) : slotCount r txid = 1 := by
  rw [slotCount, h]
  rfl

theorem slotCount_le_one (r : TransactionReassembler) (txid : TxId) : slotCount r txid ≤ 1 := by
  cases h : r.slots.get? txid with
  | none => rw [slotCount_none h]; omega
  | some slot => rw [slotCount_some h]

/-- Where a transaction stands: what was opened and delivered, and that a
delivery and a slot exclude each other. -/
structure Once (txid : TxId) (s : Session) : Prop where
  unseen : (∀ e ∈ s.log, e.firstFrame txid = false) →
    slotCount s.state.reassembler txid = 0 ∧ s.log.countP (Event.opensStream txid) = 0 ∧
      s.log.countP (Event.delivers txid) = 0
  opened : s.log.countP (Event.opensStream txid) ≤ 1
  delivered : s.log.countP (Event.delivers txid) + slotCount s.state.reassembler txid ≤ 1

theorem slotCount_le_of_drops {r r' : TransactionReassembler}
    (h : ∀ id slot, r'.slots.get? id = some slot → r.slots.get? id = some slot) (txid : TxId) :
    slotCount r' txid ≤ slotCount r txid := by
  cases hget : r'.slots.get? txid with
  | none =>
    rw [slotCount_none hget]
    exact Nat.zero_le _
  | some slot => rw [slotCount_some hget, slotCount_some (h txid slot hget)]

/-- What a step adds, as `Once` sees it: how many streams it opens, how
many payloads it delivers. -/
theorem Once.account {events : List Event} (h : Once txid s) (hlog : s'.log = events ++ s.log)
    (hopened : s.log.countP (Event.opensStream txid) + events.countP (Event.opensStream txid) ≤ 1)
    (hdelivered : events.countP (Event.delivers txid) + slotCount s'.state.reassembler txid ≤
      slotCount s.state.reassembler txid ∨
      s.log.countP (Event.delivers txid) = 0 ∧
        events.countP (Event.delivers txid) + slotCount s'.state.reassembler txid ≤ 1)
    (hunseen : (∀ e ∈ s'.log, e.firstFrame txid = false) →
      slotCount s'.state.reassembler txid = 0 ∧ events.countP (Event.opensStream txid) = 0 ∧
        events.countP (Event.delivers txid) = 0) : Once txid s' := by
  have hd := h.delivered
  constructor
  · intro hall
    have hold := h.unseen fun e he => hall e (hlog ▸ List.mem_append_right _ he)
    have hnew := hunseen hall
    rw [hlog, List.countP_append, List.countP_append]
    omega
  · rw [hlog, List.countP_append]
    omega
  · rw [hlog, List.countP_append]
    omega

/-- The step opens no stream, delivers nothing and stores nothing. -/
structure ReceivesNothing (s s' : Session) : Prop where
  log : ∃ events, s'.log = events ++ s.log ∧ ∀ e ∈ events, e.received = false
  slots : ∀ id slot, s'.state.reassembler.slots.get? id = some slot →
    s.state.reassembler.slots.get? id = some slot

/-- A step that leaves the reassembler alone and records nothing of the
receive side. -/
theorem ReceivesNothing.of_events {events : List Event} (hlog : s'.log = events ++ s.log)
    (hevents : ∀ e ∈ events, e.received = false)
    (hr : s'.state.reassembler = s.state.reassembler) : ReceivesNothing s s' :=
  ⟨⟨events, hlog, hevents⟩, fun _ _ hget => hr ▸ hget⟩

theorem ReceivesNothing.of_log (hlog : s'.log = s.log)
    (hr : s'.state.reassembler = s.state.reassembler) : ReceivesNothing s s' :=
  ⟨⟨[], hlog, List.forall_mem_nil _⟩, fun _ _ hget => hr ▸ hget⟩

theorem Once.quiet (h : Once txid s) (hn : ReceivesNothing s s') : Once txid s' := by
  obtain ⟨⟨events, hlog, hevents⟩, hslots⟩ := hn
  have hzero : ∀ p : Event → Bool, (∀ e, e.received = false → p e = false) →
      events.countP p = 0 := fun p hp =>
    List.countP_eq_zero.2 fun e he hpe => by
      rw [hp e (hevents e he)] at hpe
      cases hpe
  have hopens := hzero (Event.opensStream txid) fun e he => by cases e <;> first | rfl | cases he
  have hdelivers := hzero (Event.delivers txid) fun e he => by cases e <;> first | rfl | cases he
  have hle := slotCount_le_of_drops hslots txid
  have ho := h.opened
  refine h.account hlog (by omega) (.inl (by omega)) fun hall => ?_
  have hold := h.unseen fun e he => hall e (hlog ▸ List.mem_append_right _ he)
  omega

/-- What a section opens and delivers, as the history shows it. -/
theorem countP_events (h : Handling) (conn : ℕ) (txid : TxId) :
    (h.events conn).countP (Event.opensStream txid) =
        h.opened.toList.countP (fun o => decide (o.1 = txid)) ∧
      (h.events conn).countP (Event.delivers txid) =
        h.delivered.countP (fun d => decide (d.1 = txid)) := by
  simp only [Handling.events, List.countP_append, List.countP_map, Function.comp_def,
    Function.uncurry_def, Event.opensStream, Event.delivers]
  simp

/-- A section that only drops records nothing of the receive side. -/
theorem received_events {h : Handling} (hopened : h.opened = none) (hdelivered : h.delivered = [])
    (conn : ℕ) : ∀ e ∈ h.events conn, e.received = false := by
  intro e he
  simp only [Handling.events, hopened, hdelivered, Option.toList_none, List.map_nil,
    List.nil_append, List.mem_append, List.mem_map] at he
  rcases he with ⟨w, -, rfl⟩ | ⟨c, -, rfl⟩ | ⟨c, -, rfl⟩ <;> rfl

/-- A locked section that only drops, absorbed. -/
theorem ReceivesNothing.absorb {st : SessionState} {h : Handling}
    (hr : st.reassembler = s.state.reassembler)
    (hdrops : Handling.OnlyDrops (.start st outcomes) h) (conn : ℕ) :
    ReceivesNothing s (s.absorb conn h) := by
  refine ⟨⟨(h.events conn).reverse, rfl, fun e he => ?_⟩, fun id slot hget => ?_⟩
  · exact received_events hdrops.opened hdrops.delivered conn e (List.mem_reverse.1 he)
  · rw [← hr]
    exact hdrops.slots id slot hget

theorem receivesNothing_of_abortLocked {txid : TxId} {existed : Bool} {s₁ : Session}
    (h : s.abortLocked txid = (existed, s₁)) : ReceivesNothing s s₁ := by
  rw [abortLocked_eq] at h
  split at h <;> cases h
  · refine .of_events rfl (fun e he => ?_) rfl
    rcases List.mem_cons.1 (List.mem_reverse.1 he) with rfl | he
    · rfl
    · obtain ⟨cb, -, rfl⟩ := List.mem_map.1 he
      rfl
  · exact .of_log rfl rfl

theorem SendLocked.receivesNothing {txid : TxId} {payload : Bytes} {cb : Bool}
    {r : Option (List Frame) × Session} (h : SendLocked s k txid payload cb now r) :
    ReceivesNothing s r.2 := by
  cases h with
  | refused => exact .of_log rfl rfl
  | stranded hopen =>
    exact .of_events rfl (fun e he => by rw [List.mem_singleton.1 he]; rfl) rfl
  | framed hopen happend hfinish =>
    cases cb with
    | false => exact .of_events rfl (fun e he => by rw [List.mem_singleton.1 he]; rfl) rfl
    | true =>
      refine ⟨⟨[.registered txid (.user k), .opened txid], rfl, fun e he => ?_⟩,
        fun _ _ hget => hget⟩
      rcases List.mem_cons.1 he with rfl | he
      · rfl
      · rw [List.mem_singleton.1 he]
        rfl

/-- **The operations receive nothing**; only the deferred delivery of the
clock does. -/
theorem Stretch.receivesNothing {t : Task} (h : Stretch s k now outcomes t s')
    (ht : ∀ conn, t ≠ .clock conn .drain) : ReceivesNothing s s' := by
  have hcore : s'.core = s.core → ReceivesNothing s s' := fun hsame =>
    .of_log (congrArg Core.log hsame) (congrArg Core.reassembler hsame)
  have hwrote : ∀ conn w t', s' = (s.record [.wrote conn w]).setTask k t' →
      ReceivesNothing s s' := by
    rintro conn w t' rfl
    exact .of_events rfl (fun e he => by rw [List.mem_singleton.1 he]; rfl) rfl
  cases h with
  | quiet hmoves hsame htasks | spawnClock hfresh hsame htasks | stopClock hclock hsame htasks =>
    exact hcore hsame
  | hand hok hhands | announce hann => exact hwrote _ _ _ rfl
  | append hpaused hgate happend | close hclose | closeFails hclose => exact .of_log rfl rfl
  | abort hlock haborts =>
    have hn := receivesNothing_of_abortLocked hlock
    exact ⟨hn.log, hn.slots⟩
  | register => exact .of_events rfl (fun e he => by rw [List.mem_singleton.1 he]; rfl) rfl
  | consume | pause hpause => exact .of_log rfl rfl
  | send hlock | sendFails hlock =>
    have hn := (sendLocked_cases hlock).receivesNothing
    exact ⟨hn.log, hn.slots⟩
  | arm | snapshot hpc => exact .of_log rfl rfl
  | @declare conn entries =>
    have hdrops : Handling.OnlyDrops (.start s.state outcomes)
        ((Handling.start s.state outcomes).sendResumeFrame entries) :=
      Handling.onlyDrops_writeControl
    have hn := ReceivesNothing.absorb rfl hdrops conn
    exact ⟨hn.log, hn.slots⟩
  | @tickDead conn h htick | @tick conn h htick =>
    have hdrops := (clockTick_effect htick).receive
    have hn := ReceivesNothing.absorb rfl hdrops conn
    exact ⟨hn.log, hn.slots⟩
  | drain hdrain => exact absurd rfl (ht _)

/-! ## The deferred delivery -/

/-- What is taken leaves its slot. -/
theorem takeAll_slotCount (txid : TxId) (ids : List TxId) (r : TransactionReassembler) :
    (takeAll ids r).1.countP (fun d => decide (d.1 = txid)) + slotCount (takeAll ids r).2 txid ≤
      slotCount r txid := by
  induction ids generalizing r with
  | nil => simp [takeAll]
  | cons id ids ih =>
    rcases Handling.takeCompleted_cases r id with htake | ⟨slot, hget, -, htake⟩
    · simp only [takeAll, htake]
      exact ih r
    · simp only [takeAll, htake, List.countP_cons]
      have hrest := ih { r with slots := r.slots.erase id }
      by_cases hid : id = txid
      · -- the slot taken was the transaction's own
        subst hid
        have hgone : slotCount { r with slots := r.slots.erase id } id = 0 :=
          slotCount_none (Table.get?_erase_self _ _)
        have hhad : slotCount r id = 1 := slotCount_some hget
        simp only [decide_true, if_true]
        omega
      · have hsame : slotCount { r with slots := r.slots.erase id } txid = slotCount r txid := by
          rw [slotCount, slotCount, Table.get?_erase_of_ne _ (Ne.symm hid)]
        simp only [hid, decide_false, Bool.false_eq_true, if_false]
        omega

theorem Once.drain (h : Once txid s) {taken : List (TxId × Bytes)} {state : SessionState}
    (hdrain : drainCompleted s.state s.binaryHandler = (taken, state))
    (hlog : s'.log = (taken.map (Function.uncurry Event.delivered)).reverse ++ s.log)
    (hstate : s'.state.reassembler = state.reassembler) : Once txid s' := by
  have hopens : ((taken.map (Function.uncurry Event.delivered)).reverse).countP
      (Event.opensStream txid) = 0 := by
    simp [List.countP_map, Function.comp_def, Function.uncurry_def, Event.opensStream]
  have hdelivers : ((taken.map (Function.uncurry Event.delivered)).reverse).countP
      (Event.delivers txid) = taken.countP (fun d => decide (d.1 = txid)) := by
    simp [List.countP_map, Function.comp_def, Function.uncurry_def, Event.delivers]
  have hcount : taken.countP (fun d => decide (d.1 = txid)) +
      slotCount s'.state.reassembler txid ≤ slotCount s.state.reassembler txid := by
    rw [hstate]
    unfold drainCompleted at hdrain
    split at hdrain
    · have htake := takeAll_slotCount txid
        (s.state.reassembler.openTransactions.filter s.state.reassembler.isComplete)
        s.state.reassembler
      cases hdrain
      exact htake
    · cases hdrain
      simp
  have ho := h.opened
  refine h.account hlog (by omega) (.inl (by omega)) fun hall => ?_
  have hold := h.unseen fun e he => hall e (hlog ▸ List.mem_append_right _ he)
  omega

/-! ## A data frame -/

/-- A frame that is not a data frame is received by nobody. -/
theorem receivesNothing_receive (hdata : frame.frameType ≠ .dataBinary) :
    ReceivesNothing s (s.receive conn frame now outcomes) := by
  have hdrops : Handling.OnlyDrops (.start (s.state.touch now) outcomes)
      (handleInbound s.state frame s.binaryHandler s.streamHandler now outcomes) :=
    Handling.onlyDrops_dispatch _ _ _ now hdata
  refine ⟨⟨_, s.receive_log conn frame now outcomes, ?_⟩, ?_⟩
  · intro e he
    rcases List.mem_append.1 he with he | he
    · exact received_events hdrops.opened hdrops.delivered conn e (List.mem_reverse.1 he)
    · rw [List.mem_singleton.1 he]
      rfl
  · rw [receive_state]
    exact hdrops.slots

/-- What the history gains by a data frame. -/
theorem receive_data (s : Session) (conn now : ℕ) (outcomes : List Bool)
    (hdata : frame.frameType = .dataBinary) :
    ∃ h' events, Handling.DataEffect (.start (s.state.touch now) outcomes) h' frame ∧
      (s.receive conn frame now outcomes).state.reassembler = h'.st.reassembler ∧
      (s.receive conn frame now outcomes).log = events ++ s.log ∧
      Event.inbound conn frame ∈ events ∧
      ∀ txid, events.countP (Event.opensStream txid) =
          h'.opened.toList.countP (fun o => decide (o.1 = txid)) ∧
        events.countP (Event.delivers txid) =
          h'.delivered.countP (fun d => decide (d.1 = txid)) := by
  have heffect := (Handling.start (s.state.touch now) outcomes).onDataFrame_effect frame
    s.binaryHandler s.streamHandler
  have hlog := s.receive_log conn frame now outcomes
  have hstate := congrArg SessionState.reassembler (s.receive_state conn frame now outcomes)
  simp only [handleInbound, Handling.dispatch, hdata] at hlog hstate
  refine ⟨_, _, heffect, hstate, hlog, List.mem_append_right _ List.mem_cons_self, fun txid => ?_⟩
  rw [List.countP_append, List.countP_append, List.countP_reverse, List.countP_reverse]
  exact countP_events _ conn txid

/-- The account of a data frame: other transactions are left alone, and its
own gains a stream only with the slot that frame 0 opens. -/
structure Gains (s s' : Session) (conn : ℕ) (frame : Frame) (events : List Event) : Prop where
  log : s'.log = events ++ s.log
  inbound : Event.inbound conn frame ∈ events
  others : ∀ txid, frame.transactionId ≠ txid →
    slotCount s'.state.reassembler txid = slotCount s.state.reassembler txid ∧
      events.countP (Event.opensStream txid) = 0 ∧ events.countP (Event.delivers txid) = 0
  opens : events.countP (Event.opensStream frame.transactionId) ≤ 1
  reopens : s.state.reassembler.slots.get? frame.transactionId ≠ none →
    events.countP (Event.opensStream frame.transactionId) = 0
  delivers : events.countP (Event.delivers frame.transactionId) +
    slotCount s'.state.reassembler frame.transactionId ≤ 1
  slotless : s.state.reassembler.slots.get? frame.transactionId = none → frame.seq ≠ 0 →
    slotCount s'.state.reassembler frame.transactionId = 0 ∧
      events.countP (Event.opensStream frame.transactionId) = 0 ∧
      events.countP (Event.delivers frame.transactionId) = 0

theorem receive_gains (s : Session) (conn now : ℕ) (outcomes : List Bool)
    (hdata : frame.frameType = .dataBinary) :
    ∃ events, Gains s (s.receive conn frame now outcomes) conn frame events := by
  obtain ⟨h', events, heffect, hr, hlog, hmem, hcount⟩ := s.receive_data conn now outcomes hdata
  obtain ⟨hopens, hdelivers⟩ := hcount frame.transactionId
  refine ⟨events, hlog, hmem, fun txid hid => ⟨?_, ?_, ?_⟩, ?_, fun hslot => ?_, ?_,
    fun hnone hseq => ⟨?_, ?_, ?_⟩⟩
  -- another transaction
  · rw [hr, slotCount, heffect.others txid (Ne.symm hid)]
    rfl
  · rw [(hcount txid).1]
    rcases heffect.opened with heq | ⟨-, -, object, heq⟩ <;> rw [heq]
    · rfl
    · simp [hid]
  · rw [(hcount txid).2]
    rcases heffect.delivered with heq | ⟨-, payload, heq⟩ <;> rw [heq]
    · rfl
    · simp [hid, Handling.start]
  -- the frame's own
  · rw [hopens]
    refine List.countP_le_length.trans ?_
    cases h'.opened <;> simp
  · rw [hopens, heffect.opened.resolve_right fun hopen => hslot hopen.1]
    rfl
  · rw [hdelivers, hr]
    rcases heffect.delivered with hd | ⟨hgone, payload, hd⟩ <;> rw [hd]
    · simpa [Handling.start] using slotCount_le_one h'.st.reassembler frame.transactionId
    · rw [slotCount_none hgone]
      simp [Handling.start]
  -- a later frame of a transaction without a slot
  · have hle := slotCount_le_of_drops (heffect.slotless hnone hseq).slots frame.transactionId
    rw [hr]
    exact Nat.le_zero.1 (hle.trans (slotCount_none hnone).le)
  · rw [hopens, (heffect.slotless hnone hseq).opened]
    rfl
  · rw [hdelivers, (heffect.slotless hnone hseq).delivered]
    rfl

/-- **A data frame keeps the account.** -/
theorem Once.receive (h : Once txid s)
    (hguard : NoLateFirstFrame s (.inbound conn frame now outcomes))
    (hdata : frame.frameType = .dataBinary) :
    Once txid (s.receive conn frame now outcomes) := by
  obtain ⟨events, hgains⟩ := s.receive_gains conn now outcomes hdata
  have ho := h.opened
  have hold := fun (hall : ∀ e ∈ (s.receive conn frame now outcomes).log,
    e.firstFrame txid = false) =>
      h.unseen fun e he => hall e (hgains.log ▸ List.mem_append_right _ he)
  by_cases hid : frame.transactionId = txid
  · subst hid
    have hdelivers := hgains.delivers
    by_cases hnone : s.state.reassembler.slots.get? frame.transactionId = none
    · by_cases hseq : frame.seq = 0
      · -- the slot is opened by this frame, and by the guard for the first time
        have hfirst := h.unseen (hguard hdata hseq (by
          rw [TransactionReassembler.containsTransaction, Table.contains, hnone]
          rfl))
        have hopens := hgains.opens
        refine h.account hgains.log (by omega) (.inr ⟨hfirst.2.2, hdelivers⟩) fun hall => ?_
        -- the frame itself is the first frame the hypothesis excludes
        have hcontra := hall _ (hgains.log ▸ List.mem_append_left _ hgains.inbound)
        simp [Event.firstFrame, hdata, hseq] at hcontra
      · have hzero := hgains.slotless hnone hseq
        exact h.account hgains.log (by omega) (.inl (by omega)) fun _ => hzero
    · -- a slot is there: no stream is opened, and a delivery empties the slot
      obtain ⟨slot, hget⟩ := Option.ne_none_iff_exists'.1 hnone
      have hhad := slotCount_some hget
      have hopens := hgains.reopens hnone
      refine h.account hgains.log (by omega) (.inl (by omega)) fun hall => ?_
      have hzero := hold hall
      omega
  · have hothers := hgains.others txid hid
    refine h.account hgains.log (by omega) (.inl (by omega)) fun hall => ?_
    have hzero := hold hall
    omega

/-! ## Runs -/

theorem Once.new (config : TransferConfig) (now : ℕ) (txid : TxId) : Once txid (new config now) :=
  ⟨fun _ => ⟨rfl, rfl, rfl⟩, Nat.zero_le 1, Nat.zero_le 1⟩

/-- Every step that meets the guard keeps the account. -/
theorem Once.step {a : Action} (h : Once txid s) (hguard : NoLateFirstFrame s a)
    (hstep : Session.step s a = some s') : Once txid s' := by
  cases step_steps hstep with
  | idle hsame htasks =>
    exact h.quiet (.of_log (congrArg Core.log hsame) (congrArg Core.reassembler hsame))
  | opened hopen =>
    exact h.quiet (.of_events rfl (fun e he => by rw [List.mem_singleton.1 he]; rfl) rfl)
  | unpaused hpaused | started hfresh hcall => exact h.quiet (.of_log rfl rfl)
  | @advanced k now outcomes t s' hget hstretch =>
    by_cases hdrain : ∃ conn, t = .clock conn .drain
    · obtain ⟨conn, rfl⟩ := hdrain
      obtain ⟨taken, state, htake, hstate, hlog⟩ := hstretch.drained
      exact h.drain htake hlog (by rw [hstate])
    · exact h.quiet (hstretch.receivesNothing fun conn ht => hdrain ⟨conn, ht⟩)
  | @received conn frame now outcomes hconn =>
    by_cases hdata : frame.frameType = .dataBinary
    · exact h.receive hguard hdata
    · exact h.quiet (receivesNothing_receive hdata)
  | sawClosed hget => exact h.quiet (.of_log rfl rfl)

instance decidableNoLateFirstFrame (s : Session) : ∀ a, Decidable (NoLateFirstFrame s a)
  | .inbound _ frame _ _ => inferInstanceAs (Decidable (frame.frameType = .dataBinary → _ → _ → _))
  | .openBinarySink .. | .sinkResume .. | .start .. | .advance .. | .activity .. | .onBinary
  | .onBinaryStream | .close .. | .seeClosed .. => isTrue trivial

/-- **One stream, one delivery.** In every run in which no first frame
comes late, a transaction opens at most one stream and is delivered at most
once. -/
theorem received_at_most_once {config : TransferConfig} {acts : List Action}
    (hmeets : RunMeets step NoLateFirstFrame (new config now) acts)
    (hrun : run step (new config now) acts = some s) (txid : TxId) :
    s.log.countP (Event.opensStream txid) ≤ 1 ∧ s.log.countP (Event.delivers txid) ≤ 1 := by
  have honce : Once txid s :=
    run_induct_of (fun t a t' h hguard hstep => h.step hguard hstep)
      (Once.new config now txid) hmeets hrun
  have hdelivered := honce.delivered
  exact ⟨honce.opened, by omega⟩

namespace Sample

/-- A payload of three bytes in two frames; frame 0 comes twice while its
slot is open. -/
def twoFrames : List Action :=
  .onBinary :: (wireUp 0 0 1 0 ++
    [.inbound 0 (dataFrame zeroId 3 0 [1, 2]) 0 [], .inbound 0 (dataFrame zeroId 3 0 [1, 2]) 1 [],
      .inbound 0 (dataFrame zeroId 3 1 [3]) 2 []])

/-- A payload of one frame, which arrives again after the delivery. -/
def lateFirstFrame (handler : Action) : List Action :=
  handler :: (wireUp 0 0 1 0 ++
    [.inbound 0 (dataFrame zeroId 1 0 [7]) 0 [], .inbound 0 (dataFrame zeroId 1 0 [7]) 1 []])

end Sample

theorem received_at_most_once_sample :
    ∃ s, run step (new {} 0) Sample.twoFrames = some s ∧
      1 ≤ s.log.countP (Event.delivers zeroId) ∧ s.log.countP (Event.delivers zeroId) ≤ 1 := by
  obtain ⟨s, hrun, hcount⟩ : ∃ s, run step (new {} 0) Sample.twoFrames = some s ∧
      1 ≤ s.log.countP (Event.delivers zeroId) := by decide
  exact ⟨_, hrun, hcount, (received_at_most_once (by decide) hrun zeroId).2⟩

/-- **A late first frame reopens the transaction**: with a stream handler a
second stream is opened, with a binary handler the payload is delivered
again. Both arrivals are the one frame of the transaction. -/
theorem reopened_by_late_first_frame :
    ((TransactionSender.new {}).beginTransaction zeroId [7] 0).1 =
        .ok [dataFrame zeroId 1 0 [7]] ∧
      (∃ s, run step (new {} 0) (Sample.lateFirstFrame .onBinaryStream) = some s ∧
        s.log.countP (Event.opensStream zeroId) = 2) ∧
      ∃ s, run step (new {} 0) (Sample.lateFirstFrame .onBinary) = some s ∧
        s.log.countP (Event.delivers zeroId) = 2 := by
  decide

end Session

end Transfer

end Xacpp
