import Xacpp.Transfer.Sending
import Xacpp.Transfer.Stretch
/-!
# The ledger of a session

Seen from its callers a session is a ledger: which transactions are
pending, which callbacks are registered, and the history of openings,
registrations, settlements and firings. `LedgerStep` is what one step can
do to it. Everything else a step does is invisible here, and the events of
the history that are not entries of the ledger are skipped (`Enters`).
-/

namespace Xacpp

namespace Transfer

open Reliability

/-- The event is an entry of the ledger. -/
def Event.isEntry : Event → Bool
  | .opened .. | .registered .. | .settled .. | .fired .. => true
  | _ => false

/-- The event opens the transaction. -/
def Event.opens (txid : TxId) : Event → Bool
  | .opened id => decide (id = txid)
  | _ => false

namespace Session

variable {s s' : Session} {a : Action} {k now : ℕ} {outcomes : List Bool} {t : Task}

variable {txid : TxId} {entries : List Event}

/-- The step enters these entries, newest first. -/
def Enters (s s' : Session) (entries : List Event) : Prop :=
  ∃ events, s'.log = events ++ s.log ∧ events.filter Event.isEntry = entries

theorem Enters.of_log (hlog : s'.log = s.log) : Enters s s' [] := ⟨[], hlog, rfl⟩

/-- An event of the ledger is in the history after the step exactly if it
was entered by it or was there before. -/
theorem Enters.mem (h : Enters s s' entries) {e : Event}
    (he : e.isEntry = true) : e ∈ s'.log ↔ e ∈ entries ∨ e ∈ s.log := by
  obtain ⟨events, hlog, rfl⟩ := h
  rw [hlog, List.mem_append, List.mem_filter]
  simp only [he, and_true]

/-- The history since the transaction was last opened, newest first. -/
def sinceOpened (txid : TxId) (log : List Event) : List Event :=
  log.takeWhile fun e => !e.opens txid

/-- A step that does not open the transaction only adds to that history. -/
theorem Enters.sinceOpened (h : Enters s s' entries) (hnot : .opened txid ∉ entries) :
    ∃ events, Session.sinceOpened txid s'.log = events ++ Session.sinceOpened txid s.log ∧
      events.filter Event.isEntry = entries := by
  obtain ⟨events, hlog, rfl⟩ := h
  refine ⟨events, ?_, rfl⟩
  rw [Session.sinceOpened, hlog]
  refine List.takeWhile_append_of_pos fun e he => ?_
  rw [Bool.not_eq_true', Bool.eq_false_iff]
  intro hopens
  cases e with
  | opened id =>
    have hid : id = txid := of_decide_eq_true hopens
    exact hnot (hid ▸ List.mem_filter.2 ⟨he, rfl⟩)
  | _ => cases hopens

theorem Enters.filter (h : Enters s s' entries) {p : Event → Bool}
    (hp : ∀ e, p e = true → e.isEntry = true) :
    s'.log.filter p = entries.filter p ++ s.log.filter p := by
  obtain ⟨events, hlog, rfl⟩ := h
  rw [hlog, List.filter_append, List.filter_filter]
  congr 1
  refine List.filter_congr fun e _ => ?_
  rw [Bool.eq_iff_iff, Bool.and_eq_true, iff_self_and]
  exact hp e

theorem Enters.countP (h : Enters s s' entries) {p : Event → Bool}
    (hp : ∀ e, p e = true → e.isEntry = true) :
    s'.log.countP p = entries.countP p + s.log.countP p := by
  simp only [List.countP_eq_length_filter, h.filter hp, List.length_append]

/-- The entries of a section that closes copies. -/
def settleEntries (table : Table TxId Callback) (closed : List (TxId × Settlement))
    (taken : Bool) : List Event :=
  closed.map (Function.uncurry Event.settled) ++
    if taken then (firings table closed).map (Function.uncurry Event.fired) else []

/-- A section that closes copies opens none. -/
theorem not_mem_settleEntries {table : Table TxId Callback} {closed : List (TxId × Settlement)}
    {taken : Bool} : .opened txid ∉ (settleEntries table closed taken).reverse := by
  rw [List.mem_reverse, settleEntries, List.mem_append]
  rintro (hmem | hmem)
  · obtain ⟨c, -, hc⟩ := List.mem_map.1 hmem
    cases hc
  · split at hmem
    · obtain ⟨c, -, hc⟩ := List.mem_map.1 hmem
      cases hc
    · cases hmem

/-- What released a copy without confirming it: an abort, or a verdict that
found it not fully sent. -/
inductive Denies (s : Session) (txid : TxId) : Action → Prop
  | abort {k now : ℕ} {outcomes : List Bool}
      (htask : s.tasks.get? k = some (.sinkAbort txid .lock) ∨
        s.tasks.get? k = some (.sinkFinish txid (.aborting .lock))) :
      Denies s txid (.advance k now outcomes)
  | verdict {conn : ℕ} {frame : Frame} {now : ℕ} {outcomes : List Bool}
      {entries : List ResumeStatusEntry} (htype : frame.frameType = .resumeResponse)
      (hdec : decodeResumeResponse frame.payload = .ok entries)
      (hfailed : txid ∈ (s.state.sender.applyResumeVerdicts entries now).1.failed) :
      Denies s txid (.inbound conn frame now outcomes)

/-- The action is a response that closes these copies and cannot write all
of its retransmissions. -/
inductive CutShort (s : Session) (closed : List (TxId × Settlement)) : Action → Prop
  | mk {conn : ℕ} {frame : Frame} {now : ℕ} {outcomes : List Bool}
      {entries : List ResumeStatusEntry} (htype : frame.frameType = .resumeResponse)
      (hdec : decodeResumeResponse frame.payload = .ok entries)
      (hclosed : closed = Handling.settlements (s.state.sender.applyResumeVerdicts entries now).1)
      (hfails : ((Port.new outcomes).writeAll
        (s.state.sender.applyResumeVerdicts entries now).1.retransmit).1 = false) :
      CutShort s closed (.inbound conn frame now outcomes)

/-- **What a step can do to the ledger.** -/
inductive LedgerStep (s : Session) (a : Action) (s' : Session) : Prop
  /-- Copies are closed; most steps close none. -/
  | settled {closed : List (TxId × Settlement)} {taken : Bool}
      (hnodup : (closed.map Prod.fst).Nodup)
      (hheld : ∀ id ∈ closed.map Prod.fst, s.state.sender.containsTransaction id = true)
      (hpending : ∀ id, s'.state.sender.containsTransaction id = true ↔
        s.state.sender.containsTransaction id = true ∧ id ∉ closed.map Prod.fst)
      (htable : ∀ id, s'.state.completions.get? id =
        if taken = true ∧ id ∈ closed.map Prod.fst then none else s.state.completions.get? id)
      (hsinks : s'.sinks = s.sinks)
      (hentries : Enters s s' (settleEntries s.state.completions closed taken).reverse)
      (htaken : taken = true ∨ CutShort s closed a)
      (hdenied : ∀ c ∈ closed, c.2.confirms = false → Denies s c.1 a)
  /-- A copy is opened, by a sink or by a `send_binary` that registers
  nothing. -/
  | opened {txid : TxId} (hnew : s.state.sender.containsTransaction txid = false)
      (hpending : ∀ id, s'.state.sender.containsTransaction id = true ↔
        s.state.sender.containsTransaction id = true ∨ id = txid)
      (htable : s'.state.completions = s.state.completions)
      (hsinks : s.sinks ⊆ s'.sinks ∧ ∀ id ∈ s'.sinks, id ∈ s.sinks ∨ id = txid)
      (hentries : Enters s s' [.opened txid])
  /-- A copy is opened by a `send_binary` that registers its callback. -/
  | sent {txid : TxId} {payload : Bytes} {conn k now : ℕ} {outcomes : List Bool}
      (haction : a = .advance k now outcomes)
      (htask : s.tasks.get? k = some (.sendBinary txid payload true conn .lock))
      (hnew : s.state.sender.containsTransaction txid = false)
      (hpending : ∀ id, s'.state.sender.containsTransaction id = true ↔
        s.state.sender.containsTransaction id = true ∨ id = txid)
      (htable : s'.state.completions = s.state.completions.insert txid (.user k))
      (hsinks : s'.sinks = s.sinks)
      (hentries : Enters s s' [.registered txid (.user k), .opened txid])
  /-- A `sink_finish` registers its oneshot. -/
  | registered {txid : TxId} {k : ℕ} (htask : s.tasks.get? k = some (.sinkFinish txid .register))
      (hpending : ∀ id, s'.state.sender.containsTransaction id =
        s.state.sender.containsTransaction id)
      (htable : s'.state.completions = s.state.completions.insert txid (.finish k))
      (hsinks : s'.sinks = s.sinks)
      (hentries : Enters s s' [.registered txid (.finish k)])
  /-- A callback is dropped: by a `sink_finish` that found its copy gone, or
  by an abort that found none. -/
  | dropped {txid : TxId}
      (hwhy : s.state.sender.containsTransaction txid = false ∨
        ∃ k, s.tasks.get? k = some (.sinkFinish txid .consume))
      (hpending : ∀ id, s'.state.sender.containsTransaction id =
        s.state.sender.containsTransaction id)
      (htable : s'.state.completions = s.state.completions.erase txid)
      (hsinks : s'.sinks = s.sinks) (hentries : Enters s s' [])

/-- A step that leaves the ledger alone. -/
theorem LedgerStep.of_same (hpending : ∀ id, s'.state.sender.containsTransaction id =
      s.state.sender.containsTransaction id)
    (htable : s'.state.completions = s.state.completions) (hsinks : s'.sinks = s.sinks)
    (hentries : Enters s s' []) : LedgerStep s a s' := by
  refine @LedgerStep.settled s a s' [] true List.nodup_nil
    (fun id hid => absurd hid List.not_mem_nil) (fun id => ?_) (fun id => ?_) hsinks hentries
    (.inl rfl) fun c hc => absurd hc List.not_mem_nil
  · simp [hpending id]
  · simp [htable]

/-- The ledger entries of a locked section. -/
theorem filter_events (h : Handling) (conn : ℕ) :
    (h.events conn).filter Event.isEntry =
      h.settled.map (Function.uncurry Event.settled) ++
        h.completions.map (Function.uncurry Event.fired) := by
  simp only [Handling.events, List.filter_append, List.filter_map, Function.comp_def,
    Function.uncurry_def, Event.isEntry]
  simp

/-- A locked section absorbed: what it settles is entered. -/
theorem Enters.of_settles {h : Handling} {st : SessionState} {conn : ℕ} {before : List Event}
    {closed : List (TxId × Settlement)} {taken : Bool}
    (hset : Handling.Settles (.start st outcomes) h closed taken)
    (htable : st.completions = s.state.completions)
    (hlog : s'.log = (h.events conn).reverse ++ before ++ s.log)
    (hbefore : before.filter Event.isEntry = []) :
    Enters s s' (settleEntries s.state.completions closed taken).reverse := by
  refine ⟨_, hlog, ?_⟩
  rw [List.filter_append, hbefore, List.append_nil, List.filter_reverse, filter_events,
    hset.settled, hset.fired, settleEntries]
  simp only [Handling.start, htable, List.nil_append]
  congr 2
  split <;> rfl

theorem LedgerStep.of_settles {h : Handling} {st : SessionState} {conn : ℕ} {before : List Event}
    {closed : List (TxId × Settlement)} {taken : Bool}
    (hset : Handling.Settles (.start st outcomes) h closed taken)
    (hsender : st.sender = s.state.sender) (htable : st.completions = s.state.completions)
    (hstate : s'.state = h.st) (hsinks : s'.sinks = s.sinks)
    (hlog : s'.log = (h.events conn).reverse ++ before ++ s.log)
    (hbefore : before.filter Event.isEntry = [])
    (htaken : taken = true ∨ CutShort s closed a)
    (hdenied : ∀ c ∈ closed, c.2.confirms = false → Denies s c.1 a) : LedgerStep s a s' := by
  have hentries := Enters.of_settles hset htable hlog hbefore
  have hheld := hset.held
  have hpending := hset.pending
  have htab := hset.table
  simp only [Handling.start, hsender, htable] at hheld hpending htab
  exact .settled hset.nodup hheld (fun id => by rw [hstate]; exact hpending id)
    (fun id => by rw [hstate]; exact htab id) hsinks hentries htaken hdenied

theorem ledger_abortLocked (hget : s.tasks.get? k = some t) {existed : Bool}
    {s₁ : Session} {t' : Task} (hlock : s.abortLocked txid = (existed, s₁))
    (ht : t = .sinkAbort txid .lock ∨ t = .sinkFinish txid (.aborting .lock)) :
    LedgerStep s (.advance k now outcomes) (s₁.setTask k t') := by
  rw [abortLocked_eq] at hlock
  split at hlock
  · next hin =>
    cases hlock
    refine @LedgerStep.settled s _ _ [(txid, Settlement.aborted)] true (List.nodup_singleton _)
      ?_ (fun id => ?_) (fun id => ?_) rfl ⟨_, rfl, ?_⟩ (.inl rfl) fun c hc _ => ?_
    · intro id hid
      rw [List.mem_singleton.1 hid]
      exact hin
    · refine (TransactionSender.containsTransaction_erase id).trans ?_
      simp
    · simp only [List.map_cons, List.map_nil, List.mem_singleton, true_and]
      exact Table.get?_erase _ _ _
    · cases hcb : s.state.completions.get? txid with
      | none => simp [settleEntries, firings, hcb, Event.isEntry]
      | some cb => simp [settleEntries, firings, hcb, Event.isEntry, Settlement.confirms]
    · rw [List.mem_singleton.1 hc]
      rcases ht with rfl | rfl
      · exact .abort (.inl hget)
      · exact .abort (.inr hget)
  · next hout =>
    cases hlock
    rw [Bool.not_eq_true] at hout
    refine .dropped (.inl hout) (fun id => ?_) rfl rfl ⟨[], rfl, rfl⟩
    refine Bool.eq_iff_iff.2 ((TransactionSender.containsTransaction_erase id).trans ?_)
    refine and_iff_left_of_imp fun hin heq => ?_
    rw [heq, hout] at hin
    cases hin

/-- An opened copy is pending, and nothing else changes. -/
theorem containsTransaction_open {sender sender' : TransactionSender}
    {total : UInt32} (hopen : sender.openTransaction txid total now = (.ok (), sender')) :
    sender.containsTransaction txid = false ∧
      ∀ id, sender'.containsTransaction id = true ↔
        sender.containsTransaction id = true ∨ id = txid := by
  obtain ⟨hnone, -, txn, rfl, -⟩ := TransactionSender.openTransaction_ok hopen
  constructor
  · rw [TransactionSender.containsTransaction, Table.contains, hnone]
    rfl
  · intro id
    simp only [TransactionSender.containsTransaction_iff, TransactionSender.withPending_pending,
      Table.get?_insert]
    by_cases hid : id = txid
    · simp [hid]
    · simp [hid]

theorem containsTransaction_append {sender sender' : TransactionSender}
    {chunk : Bytes} {frames : List Frame}
    (happend : sender.appendChunk txid chunk now = (.ok frames, sender')) (id : TxId) :
    sender'.containsTransaction id = sender.containsTransaction id := by
  obtain ⟨txn, hget, -, -, rfl⟩ := TransactionSender.appendChunk_ok happend
  exact TransactionSender.containsTransaction_insert
    (TransactionSender.containsTransaction_of_get? hget) id

theorem containsTransaction_finish (sender : TransactionSender) (txid : TxId) (now : ℕ)
    (id : TxId) :
    (sender.finishTransaction txid now).2.containsTransaction id =
      sender.containsTransaction id := by
  cases hget : sender.pending.get? txid with
  | none => rw [TransactionSender.finishTransaction_none hget]
  | some txn =>
    rw [TransactionSender.finishTransaction_some hget]
    exact TransactionSender.containsTransaction_insert
      (TransactionSender.containsTransaction_of_get? hget) id

theorem containsTransaction_setPaused (sender : TransactionSender) (txid : TxId) (paused : Bool)
    (now : ℕ) (id : TxId) :
    (sender.setPaused txid paused now).2.containsTransaction id =
      sender.containsTransaction id := by
  cases hget : sender.pending.get? txid with
  | none => rw [TransactionSender.setPaused_none hget]
  | some txn =>
    obtain ⟨txn', heq, -⟩ := TransactionSender.setPaused_some paused now hget
    rw [heq]
    exact TransactionSender.containsTransaction_insert
      (TransactionSender.containsTransaction_of_get? hget) id

theorem ledger_send {payload : Bytes} {cb : Bool} {conn : ℕ}
    (hget : s.tasks.get? k = some (.sendBinary txid payload cb conn .lock)) {t' : Task}
    {r : Option (List Frame) × Session} (hlock : SendLocked s k txid payload cb now r) :
    LedgerStep s (.advance k now outcomes) (r.2.setTask k t') := by
  cases hlock with
  | refused => exact .of_same (fun _ => rfl) rfl rfl (.of_log rfl)
  | stranded hopen =>
    obtain ⟨hnew, hpending⟩ := containsTransaction_open hopen
    exact .opened hnew hpending rfl ⟨subset_rfl, fun id hid => .inl hid⟩
        ⟨[.opened txid], rfl, rfl⟩
  | @framed sender sender₁ sender₂ frames tail hopen happend hfinish =>
    obtain ⟨hnew, hpending⟩ := containsTransaction_open hopen
    have hpending' : ∀ id, sender₂.containsTransaction id = true ↔
        s.state.sender.containsTransaction id = true ∨ id = txid := by
      intro id
      have hsame := containsTransaction_finish sender₁ txid now id
      rw [hfinish] at hsame
      rw [hsame, containsTransaction_append happend id, hpending id]
    cases cb with
    | false =>
      exact .opened hnew hpending' rfl ⟨subset_rfl, fun id hid => .inl hid⟩
        ⟨[.opened txid], rfl, rfl⟩
    | true =>
      exact .sent rfl hget hnew hpending' rfl rfl
        ⟨[.registered txid (.user k), .opened txid], rfl, rfl⟩

theorem drainCompleted_same {st st' : SessionState} {handler : Bool}
    {taken : List (TxId × Bytes)} (h : drainCompleted st handler = (taken, st')) :
    st'.sender = st.sender ∧ st'.completions = st.completions := by
  unfold drainCompleted at h
  split at h <;> cases h <;> exact ⟨rfl, rfl⟩

/-- **The operations and the ledger.** -/
theorem Stretch.ledger (hget : s.tasks.get? k = some t) (h : Stretch s k now outcomes t s') :
    LedgerStep s (.advance k now outcomes) s' := by
  have hcore : s'.core = s.core → LedgerStep s (.advance k now outcomes) s' := fun hsame =>
    .of_same (fun id => congrArg (TransactionSender.containsTransaction · id)
      (congrArg Core.sender hsame)) (congrArg Core.completions hsame) (congrArg Core.sinks hsame)
      (.of_log (congrArg Core.log hsame))
  have hwrote : ∀ conn w t', s' = (s.record [.wrote conn w]).setTask k t' →
      LedgerStep s (.advance k now outcomes) s' := by
    rintro conn w t' rfl
    exact .of_same (fun _ => rfl) rfl rfl ⟨[.wrote conn w], rfl, rfl⟩
  cases h with
  | quiet hmoves hsame htasks | spawnClock hfresh hsame htasks | stopClock hclock hsame htasks =>
    exact hcore hsame
  | hand hok hhands | announce hann => exact hwrote _ _ _ rfl
  | append hpaused hgate happend =>
    exact .of_same (containsTransaction_append happend) rfl rfl (.of_log rfl)
  | @close txid tail sender hclose | @closeFails txid e sender hclose =>
    have hsame := containsTransaction_finish s.state.sender txid now
    rw [hclose] at hsame
    exact .of_same hsame rfl rfl (.of_log rfl)
  | abort hlock haborts =>
    cases haborts with
    | abort | abortFails => exact ledger_abortLocked hget hlock (.inl rfl)
    | finish | finishFails => exact ledger_abortLocked hget hlock (.inr rfl)
  | @register txid =>
    exact .registered hget (fun _ => rfl) rfl rfl ⟨[.registered txid (.finish k)], rfl, rfl⟩
  | consume => exact .dropped (.inr ⟨k, hget⟩) (fun _ => rfl) rfl rfl (.of_log rfl)
  | @pause txid sender hpause =>
    have hsame := containsTransaction_setPaused s.state.sender txid true now
    rw [hpause] at hsame
    exact .of_same hsame rfl rfl (.of_log rfl)
  | send hlock | sendFails hlock => exact ledger_send hget (sendLocked_cases hlock)
  | arm => exact .of_same (TransactionSender.containsTransaction_mapValues _) rfl rfl (.of_log rfl)
  | snapshot hpc =>
    exact .of_same (TransactionSender.containsTransaction_mapValues _) rfl rfl (.of_log rfl)
  | @declare conn entries =>
    have hk : Handling.KeepsSend (.start s.state outcomes) _ :=
      Handling.keepsSend_sendResumeFrame entries
    exact .of_settles hk.settles rfl rfl rfl rfl (by rw [List.append_nil]; rfl) rfl (.inl rfl)
      fun c hc => absurd hc List.not_mem_nil
  | tickDead htick | tick htick =>
    exact .of_settles (clockTick_effect htick).settles rfl rfl rfl rfl
      (by rw [List.append_nil]; rfl) rfl (.inl rfl) fun c hc => absurd hc List.not_mem_nil
  | @drain conn taken state hdrain =>
    have hsame := drainCompleted_same hdrain
    refine .of_same (fun id => congrArg (TransactionSender.containsTransaction · id) hsame.1)
      hsame.2 rfl ⟨_, rfl, ?_⟩
    rw [List.filter_reverse]
    simp [List.filter_map, Function.comp_def, Function.uncurry_def, Event.isEntry]

/-- A closed copy that a verdict did not confirm was listed as failed. -/
theorem mem_failed_of_settlements {verdicts : ResumeVerdicts} {c : TxId × Settlement}
    (hc : c ∈ Handling.settlements verdicts) (hdenied : c.2.confirms = false) :
    c.1 ∈ verdicts.failed := by
  rcases List.mem_append.1 hc with hc | hc
  · obtain ⟨id, -, rfl⟩ := List.mem_map.1 hc
    cases hdenied
  · obtain ⟨id, hid, rfl⟩ := List.mem_map.1 hc
    exact hid

/-- **Inbound frames and the ledger.** -/
theorem ledger_receive (s : Session) (conn : ℕ) (frame : Frame) (now : ℕ) (outcomes : List Bool) :
    LedgerStep s (.inbound conn frame now outcomes) (s.receive conn frame now outcomes) := by
  have hsinks : (s.receive conn frame now outcomes).sinks = s.sinks := by
    unfold receive
    dsimp only
    split <;> rfl
  have key : ∀ closed taken, Handling.Settles (.start (s.state.touch now) outcomes)
      (handleInbound s.state frame s.binaryHandler s.streamHandler now outcomes) closed taken →
      (taken = true ∨ CutShort s closed (.inbound conn frame now outcomes)) →
      (∀ c ∈ closed, c.2.confirms = false → Denies s c.1 (.inbound conn frame now outcomes)) →
      LedgerStep s (.inbound conn frame now outcomes) (s.receive conn frame now outcomes) :=
    fun closed taken hset htaken hdenied => .of_settles hset rfl rfl (s.receive_state _ _ _ _)
      hsinks (s.receive_log _ _ _ _) rfl htaken hdenied
  have hnone : Handling.Settles (.start (s.state.touch now) outcomes)
      (handleInbound s.state frame s.binaryHandler s.streamHandler now outcomes) [] true →
      LedgerStep s (.inbound conn frame now outcomes) (s.receive conn frame now outcomes) :=
    fun hset => key [] true hset (.inl rfl) fun c hc => absurd hc List.not_mem_nil
  unfold handleInbound at key hnone
  by_cases hdata : frame.frameType = .dataBinary
  · simp only [Handling.dispatch, hdata] at hnone
    exact hnone Handling.keepsSend_onDataFrame.settles
  by_cases hack : frame.frameType = .ack
  · simp only [Handling.dispatch, hack] at key
    obtain ⟨closed, hset, hacked⟩ := Handling.onAckFrame_settles _ frame now
    refine key closed true hset (.inl rfl) fun c hc hdenied => ?_
    rw [hacked c hc] at hdenied
    cases hdenied
  by_cases hnack : frame.frameType = .nack
  · simp only [Handling.dispatch, hnack] at hnone
    exact hnone (Handling.onNackFrame_settles _ frame now)
  by_cases hresp : frame.frameType = .resumeResponse
  · simp only [Handling.dispatch, hresp] at key hnone
    cases hdec : decodeResumeResponse frame.payload with
    | error e =>
      refine hnone ?_
      simp only [Handling.onResumeResponseFrame, hdec]
      exact (Handling.KeepsSend.refl _).settles
    | ok entries =>
      refine key _ _ (Handling.onResumeResponseFrame_settles _ now hdec) ?_ fun c hc hdenied =>
        .verdict hresp hdec (mem_failed_of_settlements hc hdenied)
      cases hok : (Handling.start (s.state.touch now) outcomes).allWritten entries now with
      | true => exact .inl rfl
      | false => exact .inr (.mk hresp hdec rfl hok)
  · exact hnone (Handling.dispatch_quiet _ _ _ now hdata hack hnack hresp).1.settles

/-- **Every step is a step of the ledger.** -/
theorem step_ledger (h : step s a = some s') : LedgerStep s a s' := by
  cases step_steps h with
  | idle hsame htasks =>
    exact .of_same (fun id => congrArg (TransactionSender.containsTransaction · id)
      (congrArg Core.sender hsame)) (congrArg Core.completions hsame) (congrArg Core.sinks hsame)
      (.of_log (congrArg Core.log hsame))
  | @opened txid total now sender hopen =>
    obtain ⟨hnew, hpending⟩ := containsTransaction_open hopen
    exact .opened hnew hpending rfl
      ⟨Finset.subset_insert _ _, fun id hid => (Finset.mem_insert.1 hid).symm⟩
      ⟨[.opened txid], rfl, rfl⟩
  | @unpaused txid now sender hpaused =>
    have hsame := containsTransaction_setPaused s.state.sender txid false now
    rw [hpaused] at hsame
    exact .of_same hsame rfl rfl (.of_log rfl)
  | started hfresh hcall => exact .of_same (fun _ => rfl) rfl rfl (.of_log rfl)
  | advanced hget hstretch => exact hstretch.ledger hget
  | received hconn => exact s.ledger_receive _ _ _ _
  | sawClosed hget => exact .of_same (fun _ => rfl) rfl rfl (.of_log rfl)

/-- Sink handles are never taken back. -/
theorem LedgerStep.sinks_subset (h : LedgerStep s a s') : s.sinks ⊆ s'.sinks := by
  cases h with
  | opened hnew hpending htable hsinks hentries => exact hsinks.1
  | settled hnodup hheld hpending htable hsinks hentries htaken hdenied
  | sent haction htask hnew hpending htable hsinks hentries
  | registered htask hpending htable hsinks hentries
  | dropped hwhy hpending htable hsinks hentries =>
    exact hsinks ▸ subset_rfl

/-- Every `sink_finish` runs on a transaction a sink was opened for. -/
def FinishesSinks (s : Session) : Prop :=
  ∀ k txid pc, s.tasks.get? k = some (.sinkFinish txid pc) → txid ∈ s.sinks

theorem FinishesSinks.step (h : FinishesSinks s) (hstep : Session.step s a = some s') :
    FinishesSinks s' := by
  intro k txid pc hget'
  have hsub := (step_ledger hstep).sinks_subset
  rcases tasks_origin hstep hget' with ⟨t, hget, hcall⟩ | hclock | ⟨call, -, hcallable, ht⟩
  · cases t with
    | sinkFinish id pc' =>
      have hid : txid = id := by
        simp only [Task.call?, Option.some.injEq, Call.sinkFinish.injEq] at hcall
        exact hcall
      exact hsub (hid ▸ h k id pc' hget)
    | _ => cases hcall
  · cases hclock
  · cases call with
    | sinkFinish id =>
      simp only [Call.task, Task.sinkFinish.injEq] at ht
      exact hsub (ht.1 ▸ of_decide_eq_true hcallable)
    | _ => cases ht

end Session

end Transfer

end Xacpp
