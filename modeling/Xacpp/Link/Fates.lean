import Xacpp.Link.Origins
import Xacpp.Reliability.Evolution
import Xacpp.Transfer.Entries
import Xacpp.Transfer.Finish
/-!
# What a step does to one transaction

`Fate` lists what a step can do to the copy of one transaction: let it
rest, gate it, frame more of it, open it, or release it by an abort, by
acknowledgements or by a verdict. `step_fate` is the inversion, and what
the two sides of a link may rely on is read off it: who is pending, who is
gated, who has gone. The receiving side has its counterpart in the slots
it awaits (`awaits_origin`).
-/

namespace Xacpp

namespace Transfer

open Reliability

namespace Session

open PendingTxn (Rests Gates ackAll)
open TransactionSender (rel_refl Evolves)

variable {s s' : Session} {a : Action} {k now : ℕ} {outcomes : List Bool} {t : Task}
variable {id : TxId}

variable {sender : TransactionSender} {txid : TxId}

/-- **What a step can do to a copy.** -/
inductive Fate (s : Session) (id : TxId) (s' : Session) : Action → Prop
  | rests {a : Action} (h : Option.Rel Rests (s.state.sender.pending.get? id)
      (s'.state.sender.pending.get? id)) : Fate s id s' a
  | armed {a : Action} (harm : s.arms a = true) (h : Option.Rel Gates
      (s.state.sender.pending.get? id) (s'.state.sender.pending.get? id)) : Fate s id s' a
  | framed {k now : ℕ} {outcomes : List Bool} {txn : PendingTxn} {chunk rest : Bytes}
      {ps : List Bytes} (hget : s.state.sender.pending.get? id = some txn)
      (hroom : txn.written + chunk.length ≤ txn.totalLen.toNat)
      (hps : ps.flatten ++ rest = txn.partialBytes ++ chunk) (hne : ∀ p ∈ ps, p ≠ [])
      (hget' : s'.state.sender.pending.get? id =
        some ((txn.taken chunk).extend id ps rest now)) : Fate s id s' (.advance k now outcomes)
  | opened {a : Action} {txn' : PendingTxn} (hnew : s.state.sender.pending.get? id = none)
      (hopens : id ∈ s.opens a) (hget' : s'.state.sender.pending.get? id = some txn')
      (hgate : txn'.awaitingResume = false) (hreceived : txn'.ackedReceived = 0)
      (htotal : txn'.totalLen ≠ 0) : Fate s id s' a
  | aborted {k now : ℕ} {outcomes : List Bool}
      (htask : (s.tasks.get? k).bind Task.aborts? = some id)
      (hgone : s'.state.sender.pending.get? id = none) : Fate s id s' (.advance k now outcomes)
  | acked {conn : ℕ} {frame : Frame} {now : ℕ} {outcomes : List Bool} {entries : List AckEntry}
      (hread : acknowledged? frame = some entries)
      (hleft : s'.state.sender.pending.get? id =
        ackAll now id entries (s.state.sender.pending.get? id)) :
      Fate s id s' (.inbound conn frame now outcomes)
  | ruled {conn : ℕ} {frame : Frame} {now : ℕ} {outcomes : List Bool}
      {entries : List ResumeStatusEntry} (hread : response? frame = some entries)
      (hnamed : ∃ entry ∈ entries, entry.transactionId = id ∧ entry.status ≠ .resumed)
      (hgone : s'.state.sender.pending.get? id = none) :
      Fate s id s' (.inbound conn frame now outcomes)

theorem Fate.of_same (hsame : s'.state.sender = s.state.sender) : Fate s id s' a :=
  .rests (by rw [hsame]; exact rel_refl .refl _)

theorem Fate.of_evolves (h : Evolves Rests s.state.sender sender)
    (hsender : s'.state.sender = sender) : Fate s id s' a :=
  .rests (by rw [hsender]; exact h id)

theorem ackedReceived_of_open {sender sender' : TransactionSender} {total : UInt32}
    {txn : PendingTxn} (hopen : sender.openTransaction txid total now = (.ok (), sender'))
    (hget : sender'.pending.get? txid = some txn) : txn.ackedReceived = 0 := by
  unfold TransactionSender.openTransaction at hopen
  split at hopen
  · cases hopen
  · split at hopen
    · cases hopen
    · cases hopen
      rw [TransactionSender.get?_withPending_insert, Option.some.injEq] at hget
      rw [← hget]

theorem Fate.of_open {total : UInt32}
    (hopen : s.state.sender.openTransaction txid total now = (.ok (), sender))
    (hsender : s'.state.sender = sender) (hopens : txid ∈ s.opens a) : Fate s id s' a := by
  have hreceived : ∀ txn, sender.pending.get? txid = some txn → txn.ackedReceived = 0 :=
    fun txn => ackedReceived_of_open hopen
  obtain ⟨hnone, hpos, txn, rfl, htotal, -, -, -, -, -, hgate, -⟩ :=
    TransactionSender.openTransaction_ok hopen
  by_cases hid : id = txid
  · subst hid
    refine .opened hnone hopens (by rw [hsender]; exact TransactionSender.get?_withPending_insert)
      hgate (hreceived txn TransactionSender.get?_withPending_insert) ?_
    rw [htotal]
    exact hpos
  · refine .rests ?_
    rw [hsender, TransactionSender.withPending_pending, Table.get?_insert_of_ne _ _ hid]
    exact rel_refl .refl _

/-- A step that frames more of one copy leaves the others. -/
theorem Fate.of_extend {txn : PendingTxn} {chunk rest : Bytes} {ps : List Bytes}
    (hget : s.state.sender.pending.get? txid = some txn)
    (hroom : txn.written + chunk.length ≤ txn.totalLen.toNat)
    (hps : ps.flatten ++ rest = txn.partialBytes ++ chunk) (hne : ∀ p ∈ ps, p ≠ [])
    (hsender : s'.state.sender = s.state.sender.withPending
      (s.state.sender.pending.insert txid ((txn.taken chunk).extend txid ps rest now))) :
    Fate s id s' (.advance k now outcomes) := by
  by_cases hid : id = txid
  · subst hid
    exact .framed hget hroom hps hne
      (by rw [hsender]; exact TransactionSender.get?_withPending_insert)
  · refine .rests ?_
    rw [hsender, TransactionSender.withPending_pending, Table.get?_insert_of_ne _ _ hid]
    exact rel_refl .refl _

theorem fate_send {payload : Bytes} {cb : Bool}
    {r : Option (List Frame) × Session} (hlock : SendLocked s k txid payload cb now r)
    (hsender : s'.state.sender = r.2.state.sender) (hopens : txid ∈ s.opens a) :
    Fate s id s' a := by
  cases hlock with
  | refused => exact .of_same hsender
  | stranded hopen => exact .of_open hopen hsender hopens
  | @framed sender sender₁ sender₂ frames tail hopen happend hfinish =>
    have hreceived : ∀ txn, sender.pending.get? txid = some txn → txn.ackedReceived = 0 :=
      fun txn => ackedReceived_of_open hopen
    obtain ⟨hnone, hpos, txn, rfl, htotal, -, -, -, -, -, hgate, -⟩ :=
      TransactionSender.openTransaction_ok hopen
    have hzero := hreceived txn TransactionSender.get?_withPending_insert
    obtain ⟨txn₁, hget, -, -, rfl⟩ := TransactionSender.appendChunk_ok happend
    rw [TransactionSender.get?_withPending_insert, Option.some.injEq] at hget
    subst hget
    obtain ⟨txn₂, hget, -, hfinished⟩ := TransactionSender.finishTransaction_ok hfinish
    rw [TransactionSender.get?_withPending_insert, Option.some.injEq] at hget
    subst hget
    rw [registering_sender] at hsender
    have hsent : s'.state.sender = sender₂ := hsender
    rw [hfinished] at hsent
    by_cases hid : id = txid
    · subst hid
      have hget' := congrArg (fun sender => sender.pending.get? id) hsent
      rw [TransactionSender.get?_withPending_insert] at hget'
      exact .opened hnone hopens hget' hgate hzero (htotal ▸ hpos)
    · refine .rests ?_
      have hother : s'.state.sender.pending.get? id = s.state.sender.pending.get? id := by
        rw [hsent]
        exact ((Table.get?_insert_of_ne _ _ hid).trans (Table.get?_insert_of_ne _ _ hid)).trans
          (Table.get?_insert_of_ne _ _ hid)
      rw [hother]
      exact rel_refl .refl _

theorem fate_finish {result : Except BeginError (List Frame)} (hs : AllHold s)
    (hclose : s.state.sender.finishTransaction txid now = (result, sender))
    (hsender : s'.state.sender = sender) : Fate s id s' (.advance k now outcomes) := by
  cases hpend : s.state.sender.pending.get? txid with
  | none =>
    rw [TransactionSender.finishTransaction_none hpend] at hclose
    cases hclose
    exact .of_same hsender
  | some txn =>
    rw [TransactionSender.finishTransaction_some hpend, Prod.mk.injEq] at hclose
    obtain ⟨-, rfl⟩ := hclose
    obtain ⟨framed, appended, hholds⟩ := hs txid txn hpend
    -- finishing is the framing step that takes no bytes
    have hroom : txn.written + ([] : Bytes).length ≤ txn.totalLen.toNat := by
      rw [hholds.written]
      exact hholds.fits
    have hps : (tailOf txn.partialBytes).flatten ++ [] = txn.partialBytes ++ [] := by
      rw [flatten_tailOf]
    refine .of_extend hpend hroom hps (fun p hp => ne_nil_of_mem_tailOf hp) ?_
    rw [txn.taken_nil]
    exact hsender

theorem evolves_tick {config : TransferConfig} {st : SessionState} {dead : Bool} {h : Handling}
    (htick : clockTick config st now outcomes = (dead, h)) :
    Evolves Rests st.sender h.st.sender := by
  rcases (clockTick_effect htick).sender with heq | ⟨timeoutMs, heq⟩
  · rw [heq]
    exact TransactionSender.evolves_dueRetransmissions _ now
  · rw [heq]
    exact (TransactionSender.evolves_dueRetransmissions _ now).trans
      (TransactionSender.evolves_timedOutDeclarations _ now timeoutMs)

theorem Stretch.fate (hs : AllHold s) (hget : s.tasks.get? k = some t)
    (h : Stretch s k now outcomes t s') : Fate s id s' (.advance k now outcomes) := by
  cases h with
  | quiet hmoves hsame htasks | spawnClock hfresh hsame htasks | stopClock hclock hsame htasks =>
    exact .of_same (congrArg Core.sender hsame)
  | append hpaused hgate happend =>
    obtain ⟨txn, hpend, hroom, -, rfl⟩ := TransactionSender.appendChunk_ok happend
    exact .of_extend hpend hroom (flatten_chunksExact _ _)
      (fun p hp => ne_nil_of_mem_chunksExact s.state.sender.frameSize_pos hp) rfl
  | close hclose | closeFails hclose => exact fate_finish hs hclose rfl
  | @abort txid t t' existed s₁ hlock haborts =>
    have hsender := sender_of_abortLocked hlock
    have htask : t.aborts? = some txid := by cases haborts <;> rfl
    have hleft : (s₁.setTask k t').state.sender.pending.get? id =
        (s.state.sender.pending.erase txid).get? id := by
      rw [show (s₁.setTask k t').state.sender = s₁.state.sender from rfl, hsender]
      rfl
    by_cases hid : id = txid
    · subst hid
      refine .aborted ?_ (hleft.trans (Table.get?_erase_self _ _))
      rw [hget]
      exact htask
    · refine .rests ?_
      rw [hleft, Table.get?_erase_of_ne _ hid]
      exact rel_refl .refl _
  | @pause txid sender hpause =>
    have hrests := s.state.sender.evolves_setPaused txid true now
    rw [hpause] at hrests
    exact .of_evolves hrests rfl
  | send hlock | sendFails hlock =>
    refine fate_send (sendLocked_cases hlock) rfl ?_
    simp only [opens, hget]
    exact List.mem_cons_self
  | arm | snapshot hpc =>
    have harm : s.arms (.advance k now outcomes) = true := by simp only [arms, hget]
    exact .armed harm (s.state.sender.evolves_declarePending now id)
  | @declare conn entries =>
    have hk : Handling.KeepsSend (.start s.state outcomes) _ :=
      Handling.keepsSend_sendResumeFrame entries
    exact .of_same hk.sender
  | tickDead htick | tick htick => exact .of_evolves (evolves_tick htick) rfl
  | drain hdrain =>
    have hsame := (drainCompleted_same hdrain).1
    exact .of_same hsame
  | _ => exact .of_same rfl

theorem fate_receive (s : Session) (conn : ℕ) (frame : Frame) (now : ℕ) (outcomes : List Bool) :
    Fate s id (s.receive conn frame now outcomes) (.inbound conn frame now outcomes) := by
  have hsender : (s.receive conn frame now outcomes).state.sender =
      (handleInbound s.state frame s.binaryHandler s.streamHandler now outcomes).st.sender := by
    rw [receive_state]
  unfold handleInbound at hsender
  by_cases hdata : frame.frameType = .dataBinary
  · simp only [Handling.dispatch, hdata] at hsender
    exact .of_same (hsender.trans Handling.keepsSend_onDataFrame.sender)
  by_cases hack : frame.frameType = .ack
  · simp only [Handling.dispatch, hack] at hsender
    cases hdec : decodeAckPayload frame.payload with
    | error e =>
      simp only [Handling.onAckFrame, hdec] at hsender
      exact .of_same hsender
    | ok entries =>
      have hread : acknowledged? frame = some entries := by
        rw [acknowledged?, if_pos hack, hdec]
        rfl
      refine .acked hread ?_
      rw [hsender, Handling.sender_onAckFrame _ now hdec]
      exact s.state.sender.get?_foldl_handleAck entries now id
  by_cases hnack : frame.frameType = .nack
  · simp only [Handling.dispatch, hnack] at hsender
    obtain ⟨⟨entries, heq⟩, -⟩ :=
      Handling.onNackFrame_spec (.start (s.state.touch now) outcomes) frame now
    rw [heq] at hsender
    exact .of_evolves (TransactionSender.evolves_foldl
      (fun sender entry => sender.evolves_handleNack _ _ now) _ entries) hsender
  by_cases hresp : frame.frameType = .resumeResponse
  · simp only [Handling.dispatch, hresp] at hsender
    cases hdec : decodeResumeResponse frame.payload with
    | error e =>
      simp only [Handling.onResumeResponseFrame, hdec] at hsender
      exact .of_same hsender
    | ok entries =>
      have hread : response? frame = some entries := by
        rw [response?, if_pos hresp, hdec]
        rfl
      rw [(Handling.onResumeResponseFrame_spec _ now hdec).1] at hsender
      rcases s.state.sender.get?_applyResumeVerdicts entries now id with hrests | ⟨hgone, hnamed⟩
      · refine .rests ?_
        rw [hsender]
        exact hrests
      · refine .ruled hread hnamed ?_
        rw [hsender]
        exact hgone
  · exact .of_same (hsender.trans
      (Handling.dispatch_quiet _ _ _ now hdata hack hnack hresp).1.sender)

/-- **The inversion of a step, at one transaction.** -/
theorem step_fate (hs : AllHold s) (hstep : step s a = some s') (id : TxId) : Fate s id s' a := by
  cases step_steps hstep with
  | idle hsame htasks => exact .of_same (congrArg Core.sender hsame)
  | opened hopen => exact .of_open hopen rfl List.mem_cons_self
  | @unpaused txid now sender hpaused =>
    have hrests := s.state.sender.evolves_setPaused txid false now
    rw [hpaused] at hrests
    exact .of_evolves hrests rfl
  | started hfresh hcall => exact .of_same rfl
  | advanced hget hstretch => exact hstretch.fate hs hget
  | received hconn => exact s.fate_receive _ _ _ _
  | sawClosed hget => exact .of_same rfl

/-! ## Who is pending, who is gated, who is awaited -/

theorem contains_iff_get? : sender.containsTransaction id = true ↔ sender.pending.get? id ≠ none :=
  Option.isSome_iff_ne_none

/-- **A pending transaction was pending, or the step opens it.** -/
theorem Fate.pending_origin (h : Fate s id s' a)
    (hpend : s'.state.sender.containsTransaction id = true) :
    s.state.sender.containsTransaction id = true ∨ id ∈ s.opens a := by
  rw [contains_iff_get?] at hpend ⊢
  cases h with
  | rests h | armed harm h =>
    left
    intro hnone
    rw [hnone] at h
    generalize s'.state.sender.pending.get? id = copy at h hpend
    cases h
    exact hpend rfl
  | framed hget hroom hps hne hget' =>
    left
    rw [hget]
    exact Option.some_ne_none _
  | opened hnew hopens hget' hgate hreceived htotal => exact .inr hopens
  | aborted htask hgone => exact absurd hgone hpend
  | @acked conn frame now outcomes entries hread hleft =>
    left
    intro hnone
    rw [hleft, hnone] at hpend
    exact hpend (PendingTxn.ackAll_none entries)
  | ruled hread hnamed hgone => exact absurd hgone hpend

theorem isAwaitingResume_iff : sender.isAwaitingResume id = true ↔
      ∃ txn, sender.pending.get? id = some txn ∧ txn.awaitingResume = true := by
  unfold TransactionSender.isAwaitingResume
  cases sender.pending.get? id with
  | none | some txn => simp

theorem contains_of_isAwaitingResume
    (h : sender.isAwaitingResume id = true) : sender.containsTransaction id = true := by
  obtain ⟨txn, hget, -⟩ := isAwaitingResume_iff.1 h
  exact contains_iff_get?.2 (hget ▸ Option.some_ne_none txn)

theorem isAwaitingResume_of_not_contains
    (h : sender.containsTransaction id = false) : sender.isAwaitingResume id = false :=
  Bool.eq_false_iff.2 fun hgate => Bool.eq_false_iff.1 h (contains_of_isAwaitingResume hgate)

/-- **A gated transaction was gated, or the step arms the gate.** -/
theorem Fate.gate_origin (h : Fate s id s' a)
    (hgated : s'.state.sender.isAwaitingResume id = true) :
    s.state.sender.isAwaitingResume id = true ∨ s.arms a = true := by
  obtain ⟨txn', hget', hgate'⟩ := isAwaitingResume_iff.1 hgated
  have hwas : ∀ {txn}, s.state.sender.pending.get? id = some txn → txn.awaitingResume = true →
      s.state.sender.isAwaitingResume id = true ∨ s.arms a = true :=
    fun hget hgate => .inl (isAwaitingResume_iff.2 ⟨_, hget, hgate⟩)
  cases h with
  | rests h =>
    rw [hget'] at h
    generalize hget : s.state.sender.pending.get? id = copy at h
    cases h with
    | some hrests => exact hwas hget (hrests.gate hgate')
  | armed harm h => exact .inr harm
  | framed hget hroom hps hne hframed =>
    rw [hframed, Option.some.injEq] at hget'
    rw [← hget'] at hgate'
    exact hwas hget hgate'
  | opened hnew hopens hopened hgate hreceived htotal =>
    rw [hopened, Option.some.injEq] at hget'
    rw [← hget', hgate] at hgate'
    cases hgate'
  | aborted htask hgone =>
    rw [hgone] at hget'
    cases hget'
  | @acked conn frame now outcomes entries hread hleft =>
    rw [hleft] at hget'
    cases hget : s.state.sender.pending.get? id with
    | none =>
      rw [hget, PendingTxn.ackAll_none] at hget'
      cases hget'
    | some txn =>
      rw [hget] at hget'
      have hsame := PendingTxn.ackAll_keeps
        (P := fun copy => copy.awaitingResume = txn.awaitingResume)
        (fun _ hcopy _ _ _ _ => hcopy) rfl hget'
      exact hwas hget (hsame ▸ hgate')
  | ruled hread hnamed hgone =>
    rw [hgone] at hget'
    cases hget'

/-- **An awaited slot was awaited, or frame 0 opens it.** -/
theorem awaits_origin (hstep : step s a = some s') (hawaits : s'.state.awaits id = true) :
    s.state.awaits id = true ∨ id ∈ s.opensSlot a := by
  obtain ⟨slot', hget', hopen'⟩ := Handling.awaits_iff.1 hawaits
  have hwas : ∀ {slot}, s.state.reassembler.slots.get? id = some slot →
      slot.isComplete = false → s.state.awaits id = true ∨ id ∈ s.opensSlot a :=
    fun hget hopen => .inl (Handling.awaits_iff.2 ⟨_, hget, hopen⟩)
  cases slot_origin hstep hget' with
  | kept hget => exact hwas hget hopen'
  | @fed conn frame now outcomes hdata hid hfed =>
    subst hid
    have hnew : s.state.reassembler.slots.get? frame.transactionId = none → frame.seq = 0 →
        s.state.awaits frame.transactionId = true ∨
          frame.transactionId ∈ s.opensSlot (.inbound conn frame now outcomes) := by
      intro hnone hseq
      right
      have hcont : s.state.reassembler.containsTransaction frame.transactionId = false := by
        rw [TransactionReassembler.containsTransaction, Table.contains, hnone]
        rfl
      rw [opensSlot, if_pos ⟨hdata, hseq, hcont⟩]
      exact List.mem_cons_self
    generalize hres : s.state.reassembler.receive frame s.streamHandler = res at hfed
    cases hres ▸ TransactionReassembler.receive_feeds s.state.reassembler frame
      s.streamHandler with
    | refused | dropped hnone hseq | duplicate hget => exact hwas hfed hopen'
    | overlong hnone hseq => exact hnew hnone hseq
    | @stored slot emitted r' hslot hroom hget hothers hfresh =>
      rcases hslot with hsome | ⟨hnone, hseq, -⟩
      · rw [hget, Option.some.injEq] at hfed
        refine hwas hsome (Bool.eq_false_iff.2 fun hcomplete => ?_)
        -- a complete slot would have stayed complete
        rw [← hfed, Slot.isComplete_store hcomplete hroom] at hopen'
        cases hopen'
      · exact hnew hnone hseq

/-- **What a step does to the stream surface.** -/
theorem step_flows (hstep : step s a = some s') : SessionState.Flows s.state s'.state := by
  cases step_receiveStep hstep with
  | idle hidles => exact hidles.flows
  | drained hstate =>
    rw [hstate]
    exact flows_drainCompleted s.state s.binaryHandler
  | @handled conn frame now outcomes hstate =>
    rw [hstate]
    have htouch : SameSurface s.state (s.state.touch now) := ⟨rfl, rfl, rfl, rfl⟩
    exact htouch.flows.trans (Handling.flows_dispatch (.start (s.state.touch now) outcomes) frame
      s.binaryHandler s.streamHandler now)

/-- **What a step does to the stream table.** -/
theorem step_keepsEntries (hstep : step s a = some s') : KeepsEntries s.state s'.state := by
  cases step_receiveStep hstep with
  | idle hidles => exact hidles.keepsEntries
  | drained hstate =>
    rw [hstate]
    exact keepsEntries_drainCompleted s.state s.binaryHandler
  | @handled conn frame now outcomes hstate =>
    rw [hstate]
    have htouch : SameSurface s.state (s.state.touch now) := ⟨rfl, rfl, rfl, rfl⟩
    exact htouch.keepsEntries.trans (Handling.keepsEntries_dispatch
      (.start (s.state.touch now) outcomes) frame s.binaryHandler s.streamHandler now)

end Session

end Transfer

end Xacpp
