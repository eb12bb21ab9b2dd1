import Xacpp.Link.Origins
import Xacpp.Transfer.Asks
import Xacpp.Transfer.Delivery
import Xacpp.Transfer.Gate
/-!
# What a payload is made of

On the sending side a transaction takes bytes from the calls that get past
the lock with them (`accepted`), and its copy frames these and no others
(`step_script`). On the receiving side a payload that is passed on is that
of a slot that was complete (`delivered_origin`).
-/

namespace Xacpp

/-- The copy of the transaction, where there is one, is made of these. -/
def Reliability.TransactionSender.Scripted (sender : TransactionSender) (id : TxId) (total : UInt32)
    (framed : List Bytes) (taken : Bytes) : Prop :=
  ∀ txn, sender.pending.get? id = some txn → txn.Holds id total framed taken

namespace Transfer

open Reliability

/-- What a call gives to the transaction by getting past the lock. -/
def Task.gives (id : TxId) : Task → Task → Bytes
  | .sinkWrite txid chunk (.append _ _), .sinkWrite _ _ (.flush _ _) =>
    if txid = id then chunk else []
  | .sendBinary txid payload _ _ .lock, .sendBinary _ _ _ _ (.flush _) =>
    if txid = id then payload else []
  | _, _ => []

namespace Session

variable {s s' : Session} {a : Action} {k now : ℕ} {outcomes : List Bool} {t t' : Task}
variable {id txid : TxId} {total : UInt32} {framed : List Bytes} {taken payload : Bytes}

/-- The bytes the transaction takes in a step. -/
def accepted (id : TxId) (s : Session) : Action → Bytes
  | .advance k now outcomes =>
    match s.tasks.get? k, (s.step (.advance k now outcomes)).bind (·.tasks.get? k) with
    | some t, some t' => t.gives id t'
    | _, _ => []
  | _ => []

theorem accepted_advance (hstep : step s (.advance k now outcomes) = some s')
    (hget : s.tasks.get? k = some t) (hget' : s'.tasks.get? k = some t') :
    s.accepted id (.advance k now outcomes) = t.gives id t' := by
  simp only [accepted, hget, hstep, Option.bind_some, hget']

theorem gives_self (id : TxId) (t : Task) : t.gives id t = [] := by
  unfold Task.gives
  split
  all_goals simp_all

/-- A step that moves no task gives nothing. -/
theorem accepted_of_tasks (hstep : step s a = some s') (htasks : s'.tasks = s.tasks) :
    s.accepted id a = [] := by
  cases a with
  | advance k now outcomes =>
    simp only [accepted, hstep, Option.bind_some, htasks]
    split
    · next hget hget' =>
      cases hget.symm.trans hget'
      exact gives_self id _
    · rfl
  | _ => rfl

/-- Only calls that frame the transaction give to it. -/
theorem asks_of_accepted (hne : s.accepted id a ≠ []) :
    ∃ c, Asks s a c ∧ c.frames id = true := by
  unfold accepted at hne
  split at hne
  · split at hne
    · next hget _ =>
      unfold Task.gives at hne
      split at hne
      · split at hne
        · next hid => exact ⟨_, .append hget, decide_eq_true hid⟩
        · exact absurd rfl hne
      · split at hne
        · next hid => exact ⟨_, .sendAppend hget, decide_eq_true hid⟩
        · exact absurd rfl hne
      · exact absurd rfl hne
    · exact absurd rfl hne
  · exact absurd rfl hne

/-! ## The copy -/

/-- A copy that was not there is opened by the step. -/
theorem opened_of_pending (hstep : step s a = some s')
    (hnew : s.state.sender.pending.get? id = none) {txn : PendingTxn}
    (hget : s'.state.sender.pending.get? id = some txn) :
    ∃ events, s'.log = events ++ s.log ∧ .opened id ∈ events := by
  obtain ⟨events, hlog, -⟩ := step_origins hstep
  refine ⟨_, hlog, opened_of_new hstep ?_ ?_ hlog⟩
  · simp [TransactionSender.containsTransaction, Table.contains, hnew]
  · simp [TransactionSender.containsTransaction, Table.contains, hget]

/-- **What a step does to what a copy is made of.** -/
inductive ScriptStep (s : Session) (a : Action) (s' : Session) (id : TxId) (total : UInt32)
    (framed : List Bytes) (taken : Bytes) : Prop
  | kept (hnone : s.accepted id a = []) (hholds : s'.state.sender.Scripted id total framed taken)
  | grown {txn' : PendingTxn} {ps : List Bytes}
      (hget' : s'.state.sender.pending.get? id = some txn')
      (hholds : txn'.Holds id total (framed ++ ps) (taken ++ s.accepted id a))
  | opened {txn' : PendingTxn} {ps : List Bytes} (hnew : s.state.sender.pending.get? id = none)
      (hget' : s'.state.sender.pending.get? id = some txn')
      (hholds : txn'.Holds id txn'.totalLen ps (s.accepted id a))

/-- Calls that frame nothing of the transaction leave its copy true. -/
theorem holds_of_calls {sender sender' : TransactionSender} {calls : List (SenderCall × ℕ)}
    (hrun : run TransactionSender.step sender calls = some sender')
    (hcalls : ∀ c ∈ calls, c.1.frames id = false) (hholds : sender.Scripted id total framed taken) :
    sender'.Scripted id total framed taken := by
  refine run_induct_of (I := fun t : TransactionSender => t.Scripted id total framed taken)
    (C := fun _ c => c.1.frames id = false) ?_ hholds (.of_mem fun c hc _ => hcalls c hc) hrun
  rintro t ⟨c, now⟩ t' ht hc hstep txn' hget'
  cases hstep
  have hchange := TransactionSender.apply_change c t now id
  rw [hget'] at hchange
  generalize hold : t.pending.get? id = old at hchange
  cases hchange with
  | rests hsteady => exact (ht _ hold).congr hsteady.toSameCopy
  | grows hframes =>
    rw [hc] at hframes
    cases hframes
  | acked entry now => exact (ht _ hold).acked

theorem ScriptStep.of_same (hsame : s'.state.sender = s.state.sender)
    (hnone : s.accepted id a = []) (hholds : s.state.sender.Scripted id total framed taken) :
    ScriptStep s a s' id total framed taken :=
  .kept hnone (hsame ▸ hholds)

/-- An append that goes through frames what it fills up. -/
theorem holds_append {sender sender' : TransactionSender} {chunk : Bytes} {out : List Frame}
    (hholds : sender.Scripted id total framed taken)
    (happend : sender.appendChunk id chunk now = (.ok out, sender')) :
    ∃ txn' ps, sender'.pending.get? id = some txn' ∧
      txn'.Holds id total (framed ++ ps) (taken ++ chunk) := by
  obtain ⟨txn, hget, hroom, -, rfl⟩ := TransactionSender.appendChunk_ok happend
  refine ⟨_, _, Table.get?_insert_self _ _ _, ((hholds txn hget).taken hroom).extend now ?_ ?_⟩
  · exact flatten_chunksExact _ _
  · exact fun p hp => ne_nil_of_mem_chunksExact sender.frameSize_pos hp

/-- Finishing frames what is left in the buffer, whether it succeeds or
not. -/
theorem holds_finish {sender sender' : TransactionSender} {txn : PendingTxn}
    {result : Except BeginError (List Frame)} (hget : sender.pending.get? id = some txn)
    (hholds : txn.Holds id total framed taken)
    (hclose : sender.finishTransaction id now = (result, sender')) :
    ∃ txn' ps, sender'.pending.get? id = some txn' ∧ txn'.Holds id total (framed ++ ps) taken := by
  rw [TransactionSender.finishTransaction_some hget] at hclose
  cases hclose
  refine ⟨_, _, Table.get?_insert_self _ _ _, hholds.extend now ?_ ?_⟩
  · rw [flatten_tailOf, List.append_nil]
  · exact fun p hp => ne_nil_of_mem_tailOf hp

/-- `sink_write` behind the lock. -/
theorem script_write {chunk : Bytes} {seen conn : ℕ}
    (hstep : step s (.advance k now outcomes) = some s')
    (hget : s.tasks.get? k = some (.sinkWrite id chunk (.append seen conn)))
    (hstretch : Stretch s k now outcomes (.sinkWrite id chunk (.append seen conn)) s')
    (hholds : s.state.sender.Scripted id total framed taken) :
    ScriptStep s (.advance k now outcomes) s' id total framed taken := by
  cases hstretch with
  | quiet hmoves hsame htasks =>
    refine .of_same (congrArg Core.sender hsame) ?_ hholds
    rw [accepted_advance hstep hget (by rw [htasks]; exact Table.get?_insert_self _ _ _)]
    cases hmoves with
    | write hmoves => cases hmoves <;> rfl
  | hand hok hhands => cases hhands
  | announce hann => cases hann
  | abort hlock haborts => cases haborts
  | append hpaused hgate happend =>
    obtain ⟨txn', ps, hget', hgrown⟩ := holds_append hholds happend
    have hgives : s.accepted id (.advance k now outcomes) = chunk := by
      rw [accepted_advance hstep hget (Table.get?_insert_self _ _ _), Task.gives, if_pos rfl]
    exact .grown hget' (hgives ▸ hgrown)

/-- `sink_finish` behind the lock. -/
theorem script_close (hnone : s.accepted id (.advance k now outcomes) = [])
    (hstretch : Stretch s k now outcomes (.sinkFinish id .close) s')
    (hholds : s.state.sender.Scripted id total framed taken) :
    ScriptStep s (.advance k now outcomes) s' id total framed taken := by
  have key : ∀ {result : Except BeginError (List Frame)},
      s.state.sender.finishTransaction id now = (result, s'.state.sender) →
      ScriptStep s (.advance k now outcomes) s' id total framed taken := by
    intro result hclose
    cases hpend : s.state.sender.pending.get? id with
    | none =>
      rw [TransactionSender.finishTransaction_none hpend] at hclose
      exact .of_same (congrArg Prod.snd hclose).symm hnone hholds
    | some txn =>
      obtain ⟨txn', ps, hget', hgrown⟩ := holds_finish hpend (hholds txn hpend) hclose
      rw [← List.append_nil taken, ← hnone] at hgrown
      exact .grown hget' hgrown
  cases hstretch with
  | quiet hmoves => cases hmoves with | finish hmoves => cases hmoves
  | hand hok hhands => cases hhands
  | announce hann => cases hann
  | abort hlock haborts => cases haborts
  | close hclose | closeFails hclose => exact key hclose

/-- `send_binary` behind the lock. -/
theorem script_send {cb : Bool} {conn : ℕ} (hstep : step s (.advance k now outcomes) = some s')
    (hget : s.tasks.get? k = some (.sendBinary id payload cb conn .lock))
    (hstretch : Stretch s k now outcomes (.sendBinary id payload cb conn .lock) s')
    (hholds : s.state.sender.Scripted id total framed taken) :
    ScriptStep s (.advance k now outcomes) s' id total framed taken := by
  cases hstretch with
  | quiet hmoves => cases hmoves
  | hand hok hhands => cases hhands
  | announce hann => cases hann
  | abort hlock haborts => cases haborts
  | send hlock =>
    cases sendLocked_cases hlock with
    | @framed sender sender₁ sender₂ frames tail hopen happend hfinish =>
      obtain ⟨txn, rfl, hnone, -, -, hempty⟩ := holds_of_open hopen
      obtain ⟨txn₁, ps₁, hget₁, hgrown₁⟩ := holds_append (fun txn' hget' => by
        cases (Table.get?_insert_self _ _ _).symm.trans hget'
        exact hempty) happend
      obtain ⟨txn₂, ps₂, hget₂, hgrown₂⟩ := holds_finish hget₁ hgrown₁ hfinish
      have hgives : s.accepted id (.advance k now outcomes) = payload := by
        rw [accepted_advance hstep hget (Table.get?_insert_self _ _ _), Task.gives, if_pos rfl]
      rw [← hgrown₂.totalLen, List.nil_append, ← hgives] at hgrown₂
      exact .opened hnone (by rw [setTask, registering_sender]; exact hget₂) hgrown₂
  | sendFails hlock =>
    have hnone : s.accepted id (.advance k now outcomes) = [] :=
      accepted_advance hstep hget (Table.get?_insert_self _ _ _)
    cases sendLocked_cases hlock with
    | refused => exact .of_same rfl hnone hholds
    | stranded hopen =>
      obtain ⟨txn, rfl, hnew, -, -, hempty⟩ := holds_of_open hopen
      exact .opened hnew (Table.get?_insert_self _ _ _) (hnone ▸ hempty)

/-- **A copy frames what the transaction takes.** -/
theorem step_script (hstep : step s a = some s')
    (hholds : s.state.sender.Scripted id total framed taken) :
    ScriptStep s a s' id total framed taken := by
  by_cases hframes : ∃ c, Asks s a c ∧ c.frames id = true
  · obtain ⟨c, hasks, hc⟩ := hframes
    cases step_steps hstep with
    | idle hsame htasks =>
      exact .of_same (congrArg Core.sender hsame) (accepted_of_tasks hstep htasks) hholds
    | unpaused => cases hasks with | resume => cases hc
    | started | sawClosed => cases hasks
    | received => cases hasks <;> cases hc
    | opened hopen =>
      cases hasks with
      | openSink =>
        cases of_decide_eq_true hc
        obtain ⟨txn, rfl, hnew, -, -, hempty⟩ := holds_of_open hopen
        exact .opened hnew (Table.get?_insert_self _ _ _) hempty
    | @advanced k now outcomes t s' hget hstretch =>
      cases hasks with
      | append hget' =>
        cases of_decide_eq_true hc
        cases hget.symm.trans hget'
        exact script_write hstep hget hstretch hholds
      | finish hget' =>
        cases of_decide_eq_true hc
        cases hget.symm.trans hget'
        obtain ⟨t', htasks⟩ := hstretch.tasks
        exact script_close (accepted_advance hstep hget htasks.self) hstretch hholds
      | sendOpen hget' | sendAppend hget' | sendFinish hget' =>
        cases of_decide_eq_true hc
        cases hget.symm.trans hget'
        exact script_send hstep hget hstretch hholds
      | _ => cases hc
  · obtain ⟨calls, hrun, hcalls⟩ := step_asks hstep
    have hno : ∀ c, Asks s a c → c.frames id = false := fun c hasks =>
      Bool.eq_false_iff.2 fun hc => hframes ⟨c, hasks, hc⟩
    refine .kept ?_ (holds_of_calls hrun (fun c hc => hno _ (hcalls c hc)) hholds)
    exact by_contra fun hne => hframes (asks_of_accepted hne)

end Session

/-! ## The payload -/

namespace Handling

variable {frame : Frame} {id : TxId} {payload : Bytes} {handlerPresent streamPresent : Bool}

/-- A section passes on nothing more, or the payload of a complete slot. -/
def Delivers (h : Handling) (id : TxId) (h' : Handling) : Prop :=
  h'.delivered = h.delivered ∨
    ∃ slot, h.st.reassembler.slots.get? id = some slot ∧ slot.isComplete = true ∧
      h'.delivered = h.delivered ++ [(id, slot.assembled)]

theorem delivers_handOver (h : Handling) (id : TxId) (handlerPresent : Bool) :
    h.Delivers id (h.handOver id handlerPresent) := by
  unfold handOver
  split
  · exact .inl rfl
  · split
    · rcases takeCompleted_cases h.st.reassembler id with htake | ⟨slot, hget, hc, htake⟩
      · rw [htake]
        exact .inl rfl
      · rw [htake]
        exact .inr ⟨slot, hget, hc, rfl⟩
    · exact .inl rfl

theorem delivers_dataAccepted (h : Handling) (frame : Frame) (opensStream complete : Bool)
    (emitted : List (ℕ × Bytes)) (handlerPresent : Bool) :
    h.Delivers frame.transactionId
      (h.dataAccepted frame opensStream complete emitted handlerPresent) := by
  obtain ⟨-, hr, hdelivered⟩ := (h.withState (h.st.withPendingAckFrames
    (h.st.pendingAckFrames.insert frame.transactionId
      ((h.st.pendingAckFrames.get? frame.transactionId).getD 0 + 1)))).streamAccepted_spec
        frame opensStream emitted
  simp only [dataAccepted]
  generalize (h.withState _).streamAccepted frame opensStream emitted = h₁ at *
  change h₁.st.reassembler = h.st.reassembler at hr
  change h₁.delivered = h.delivered at hdelivered
  split
  · obtain ⟨-, hr₂, hdelivered₂⟩ := h₁.finalAck_spec frame.transactionId
    rw [Delivers, ← hr, ← hr₂, ← hdelivered, ← hdelivered₂]
    exact delivers_handOver _ _ _
  · exact .inl hdelivered

/-- **A data frame passes on the payload of the slot it completes.** -/
theorem delivered_onDataFrame (h : Handling)
    (hmem : (id, payload) ∈ (h.onDataFrame frame handlerPresent streamPresent).delivered) :
    (id, payload) ∈ h.delivered ∨ id = frame.transactionId ∧
      ∃ slot, (h.st.reassembler.receive frame streamPresent).2.slots.get? id = some slot ∧
        slot.isComplete = true ∧ payload = slot.assembled := by
  unfold TransactionReassembler.receive
  simp only [onDataFrame] at hmem
  generalize h.st.reassembler.receiveFrame frame.transactionId frame.seq frame.totalLen
    frame.payload.length frame.payload streamPresent = res at hmem ⊢
  obtain ⟨outcome, r⟩ := res
  rcases outcome with e | outcome
  · exact .inl hmem
  cases outcome with
  | duplicate | slotlessDropped => exact .inl hmem
  | accepted complete emitted =>
    dsimp only at hmem
    rcases delivers_dataAccepted (h.withState (h.st.withReassembler r)) frame _ complete emitted
      handlerPresent with hsame | ⟨slot, hget, hc, hpassed⟩
    · rw [hsame] at hmem
      exact .inl hmem
    · rw [hpassed, List.mem_append, List.mem_singleton] at hmem
      refine hmem.imp_right fun heq => ?_
      cases heq
      exact ⟨rfl, slot, hget, hc, rfl⟩

end Handling

namespace Session

variable {s s' : Session} {a : Action} {id : TxId} {payload : Bytes}

/-- What is taken for delivery is the payload of complete slots. -/
theorem mem_takeAll : ∀ {ids : List TxId} {r : TransactionReassembler},
    (id, payload) ∈ (takeAll ids r).1 →
    ∃ slot, r.slots.get? id = some slot ∧ slot.isComplete = true ∧ payload = slot.assembled
  | [], _, hmem => absurd hmem List.not_mem_nil
  | txid :: rest, r, hmem => by
    unfold takeAll at hmem
    rcases Handling.takeCompleted_cases r txid with heq | ⟨slot, hget, hc, heq⟩
    · rw [heq] at hmem
      exact mem_takeAll hmem
    · rw [heq, List.mem_cons] at hmem
      rcases hmem with hmem | hmem
      · cases hmem
        exact ⟨slot, hget, hc, rfl⟩
      · obtain ⟨slot', hget', hrest⟩ := mem_takeAll hmem
        exact ⟨slot', (Table.of_get?_erase hget').2, hrest⟩

theorem ReceivesNothing.delivered (h : ReceivesNothing s s')
    (hmem : .delivered id payload ∈ s'.log) : .delivered id payload ∈ s.log := by
  obtain ⟨events, hlog, hevents⟩ := h.log
  rw [hlog, List.mem_append] at hmem
  refine hmem.resolve_left fun hnew => ?_
  cases hevents _ hnew

/-- What a section passes on, as the history shows it. -/
theorem mem_events_delivered {h : Handling} {conn : ℕ} :
    .delivered id payload ∈ h.events conn ↔ (id, payload) ∈ h.delivered := by
  simp [Handling.events, Function.uncurry_def]

/-- **A payload that is passed on is that of a slot that was complete.** -/
theorem delivered_origin (hstep : step s a = some s') (hmem : .delivered id payload ∈ s'.log) :
    .delivered id payload ∈ s.log ∨
      ∃ slot, SlotStep s id slot a ∧ slot.isComplete = true ∧ payload = slot.assembled := by
  cases step_steps hstep with
  | idle hsame =>
    rw [show s'.log = s.log from congrArg Core.log hsame] at hmem
    exact .inl hmem
  | opened hopen => exact .inl (List.mem_of_ne_of_mem (by simp) hmem)
  | unpaused | started | sawClosed => exact .inl hmem
  | @advanced k now outcomes t s' hget hstretch =>
    by_cases hdrain : ∃ conn, t = .clock conn .drain
    · obtain ⟨conn, rfl⟩ := hdrain
      obtain ⟨taken, state, htake, -, hlog⟩ := hstretch.drained
      rw [hlog, List.mem_append, List.mem_reverse] at hmem
      refine hmem.symm.imp_right fun hnew => ?_
      obtain ⟨⟨txid, bytes⟩, htaken, heq⟩ := List.mem_map.1 hnew
      cases heq
      unfold drainCompleted at htake
      split at htake
      · cases htake
        obtain ⟨slot, hslot, hrest⟩ := mem_takeAll htaken
        exact ⟨slot, .kept hslot, hrest⟩
      · cases htake
        exact absurd htaken List.not_mem_nil
    · exact .inl ((hstretch.receivesNothing fun conn heq => hdrain ⟨conn, heq⟩).delivered hmem)
  | @received conn frame now outcomes hconn =>
    by_cases hdata : frame.frameType = .dataBinary
    · have hlog := s.receive_log conn frame now outcomes
      simp only [handleInbound, Handling.dispatch, hdata] at hlog
      rw [hlog, List.mem_append, List.mem_append, List.mem_reverse, mem_events_delivered] at hmem
      rcases hmem with (hnew | hin) | hold
      · rcases Handling.delivered_onDataFrame _ hnew with hnone | ⟨rfl, slot, hslot, hrest⟩
        · exact absurd hnone List.not_mem_nil
        · exact .inr ⟨slot, .fed hdata rfl hslot, hrest⟩
      · simp at hin
      · exact .inl hold
    · exact .inl ((receivesNothing_receive hdata).delivered hmem)

end Session

end Transfer

end Xacpp
