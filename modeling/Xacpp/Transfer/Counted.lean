import Xacpp.Transfer.Batches
import Xacpp.Transfer.Surface
/-!
# What the batch counts

The clock exports acknowledgements once enough frames have come in since
the last export, and counts them per transaction. A count is worth keeping
while its transaction has a slot to export an entry from. An abort, a
closing announcement and a completion clear the count with the slot; the
mirror cross-check and an expiry drop the slot and leave the count behind
(`forgets`). Every other section keeps to `Counts`.
-/

namespace Xacpp

namespace Transfer

open Reliability

/-- The transaction an expiry names. -/
def expired? (frame : Frame) : Option TxId :=
  if frame.frameType = .error then
    (decodeError frame.payload).toOption.bind fun payload =>
      if payload.code = transactionExpired then Handling.parseHexTxidPrefix payload.message
      else none
  else none

namespace SessionState

variable {st st' st'' : SessionState} {id : TxId}

/-- The transactions whose slot the frame drops while their count stays. -/
def forgets (st : SessionState) (frame : Frame) : List TxId :=
  (declaration? frame).elim [] (Handling.abandoned st.reassembler) ++ (expired? frame).toList

/-- The transaction has an open slot that still misses bytes. -/
def Lacks (st : SessionState) (id : TxId) : Prop :=
  ∃ slot, st.reassembler.slots.get? id = some slot ∧ slot.isComplete = false

/-- **Every count is of a transaction that lacks bytes.** -/
def Owing (st : SessionState) : Prop := ∀ id ∈ st.pendingAckFrames.keys, st.Lacks id

/-- **What a section does to the counts**: a transaction counted after it
lacks bytes then, or was counted before over the same slot. -/
def Counts (st st' : SessionState) : Prop :=
  ∀ id ∈ st'.pendingAckFrames.keys, st'.Lacks id ∨
    id ∈ st.pendingAckFrames.keys ∧
      st'.reassembler.slots.get? id = st.reassembler.slots.get? id

theorem Counts.owing (h : Counts st st') (howing : st.Owing) : st'.Owing := by
  intro id hid
  rcases h id hid with hlacks | ⟨hwas, hslot⟩
  · exact hlacks
  · obtain ⟨slot, hget, hopen⟩ := howing id hwas
    exact ⟨slot, hslot.trans hget, hopen⟩

theorem Counts.of_eq (hslots : st'.reassembler = st.reassembler)
    (hcounts : st'.pendingAckFrames = st.pendingAckFrames) : Counts st st' := by
  intro id hid
  rw [hcounts] at hid
  exact .inr ⟨hid, by rw [hslots]⟩

theorem Counts.refl (st : SessionState) : Counts st st := .of_eq rfl rfl

theorem Counts.trans (h : Counts st st') (h' : Counts st' st'') : Counts st st'' := by
  intro id hid
  rcases h' id hid with hlacks | ⟨hwas', hslot'⟩
  · exact .inl hlacks
  · rcases h id hwas' with ⟨slot, hget, hopen⟩ | ⟨hwas, hslot⟩
    · exact .inl ⟨slot, hslot'.trans hget, hopen⟩
    · exact .inr ⟨hwas, hslot'.trans hslot⟩

theorem mem_keys_erase {counts : Table TxId ℕ} {txid : TxId} :
    id ∈ (counts.erase txid).keys ↔ id ≠ txid ∧ id ∈ counts.keys := by
  rw [Table.mem_keys_iff, Table.mem_keys_iff, Table.get?_erase]
  split
  · next heq => simp [heq]
  · next hne => simp [hne]

theorem pendingAckFrames_endStream {txid : TxId} {terminal : StreamInner → StreamInner} :
    (st.endStream txid terminal).pendingAckFrames = st.pendingAckFrames := by
  unfold endStream
  split <;> rfl

theorem pendingAckFrames_dropReceive {txid : TxId} {terminal : StreamInner → StreamInner} :
    (st.dropReceive txid terminal).pendingAckFrames = st.pendingAckFrames :=
  pendingAckFrames_endStream

/-- **A slot dropped with its count.** -/
theorem counts_dropReceive_erase (txid : TxId) (terminal : StreamInner → StreamInner) :
    Counts st ((st.dropReceive txid terminal).withPendingAckFrames
      ((st.dropReceive txid terminal).pendingAckFrames.erase txid)) := by
  intro id hid
  change id ∈ ((st.dropReceive txid terminal).pendingAckFrames.erase txid).keys at hid
  rw [pendingAckFrames_dropReceive] at hid
  obtain ⟨hne, hwas⟩ := mem_keys_erase.1 hid
  refine .inr ⟨hwas, ?_⟩
  rw [reassembler_withPendingAckFrames, slots_dropReceive, Table.get?_erase_of_ne _ hne]

/-- **A slot dropped without its count**: right where nothing is counted. -/
theorem counts_dropReceive {txid : TxId} (terminal : StreamInner → StreamInner)
    (huncounted : txid ∉ st.pendingAckFrames.keys) : Counts st (st.dropReceive txid terminal) := by
  intro id hid
  rw [pendingAckFrames_dropReceive] at hid
  have hne : id ≠ txid := fun heq => huncounted (heq ▸ hid)
  exact .inr ⟨hid, by rw [slots_dropReceive, Table.get?_erase_of_ne _ hne]⟩

theorem counts_dropAbandoned {ids : List TxId}
    (huncounted : ∀ id ∈ ids, id ∉ st.pendingAckFrames.keys) :
    Counts st (Handling.dropAbandoned st ids) := by
  induction ids generalizing st with
  | nil => exact .refl st
  | cons txid rest ih =>
    have hfirst := counts_dropReceive (fun inner => inner.finish .cancelled)
      (huncounted txid List.mem_cons_self)
    refine hfirst.trans (ih fun id hid => ?_)
    rw [pendingAckFrames_dropReceive]
    exact huncounted id (List.mem_cons_of_mem _ hid)

end SessionState

namespace Handling

open SessionState

variable {h : Handling} {frame : Frame}

/-! ## The send side -/

theorem counts_complete (h : Handling) (txid : TxId) (confirmed : Bool) :
    Counts h.st (h.complete txid confirmed).st := by
  unfold complete
  split <;> exact .of_eq rfl rfl

theorem counts_foldl {α : Type} {f : Handling → α → Handling}
    (hf : ∀ h x, Counts h.st (f h x).st) (xs : List α) (h : Handling) :
    Counts h.st (xs.foldl f h).st :=
  foldl_rel (R := fun h h' => Counts h.st h'.st) (fun h => .refl h.st)
    (fun _ _ _ => Counts.trans) hf xs h

theorem counts_ackOne (now : ℕ) (h : Handling) (entry : AckEntry) :
    Counts h.st (ackOne now h entry).st := by
  unfold ackOne
  split
  · exact .of_eq rfl rfl
  · refine Counts.trans ?_ (counts_complete _ _ _)
    exact .of_eq rfl rfl

theorem counts_onAckFrame (now : ℕ) : Counts h.st (h.onAckFrame frame now).st := by
  unfold onAckFrame
  split
  · exact .refl h.st
  · exact counts_foldl (counts_ackOne now) _ h

theorem counts_nackLoop (now : ℕ) (entries : List NackEntry) (h : Handling) :
    Counts h.st (nackLoop now entries h).st := by
  induction entries generalizing h with
  | nil => exact .refl h.st
  | cons entry rest ih =>
    unfold nackLoop
    dsimp only
    split
    · refine Counts.trans ?_ (ih _)
      exact .of_eq rfl rfl
    · exact .of_eq rfl rfl

theorem counts_onNackFrame (now : ℕ) : Counts h.st (h.onNackFrame frame now).st := by
  unfold onNackFrame
  split
  · exact .refl h.st
  · exact counts_nackLoop now _ h

theorem counts_onResumeResponseFrame (now : ℕ) :
    Counts h.st (h.onResumeResponseFrame frame now).st := by
  unfold onResumeResponseFrame
  split
  · exact .refl h.st
  · dsimp only
    split
    · exact .of_eq rfl rfl
    · refine Counts.trans ?_ ((counts_foldl (fun h txid => counts_complete h txid true) _ _).trans
        (counts_foldl (fun h txid => counts_complete h txid false) _ _))
      exact .of_eq rfl rfl

/-! ## The receive side -/

/-- **What the peer says of its transactions** keeps to the counts where the
cross-check or the expiry forgets no counted one. -/
theorem Heeds.counts {h' : Handling} (hheeds : Heeds h frame h')
    (hspares : ∀ id ∈ h.st.forgets frame, id ∉ h.st.pendingAckFrames.keys) :
    Counts h.st h'.st := by
  cases hheeds with
  | ignored => exact .refl h.st
  | paused => exact .of_eq h.st.reassembler_onStream (h.st.pendingAckFrames_onStream _)
  | aborted => exact counts_dropReceive_erase _ _
  | closed => exact .of_eq (reassembler_endStream h.st) pendingAckFrames_endStream
  | cutShort => exact counts_dropReceive_erase _ _
  | @expired payload txid htype hdec hcode hparse =>
    have hexpired : expired? frame = some txid := by
      rw [expired?, if_pos htype, hdec]
      exact (if_pos hcode).trans hparse
    refine counts_dropReceive _ (hspares txid (List.mem_append_right _ ?_))
    rw [hexpired]
    exact List.mem_cons_self
  | adjudicated hread =>
    rw [st_writeControl]
    refine counts_dropAbandoned fun id hid => hspares id (List.mem_append_left _ ?_)
    rw [hread]
    exact hid

theorem pendingAckFrames_handOver (h : Handling) (txid : TxId) (handlerPresent : Bool) :
    (h.handOver txid handlerPresent).st.pendingAckFrames = h.st.pendingAckFrames := by
  unfold handOver
  split
  · exact pendingAckFrames_endStream
  · split
    · split <;> rfl
    · rfl

theorem pendingAckFrames_finalAck (h : Handling) (txid : TxId) :
    (h.finalAck txid).st.pendingAckFrames = h.st.pendingAckFrames.erase txid := by
  unfold finalAck
  cases h.st.reassembler.ackEntry txid with
  | none => rfl
  | some entry =>
    dsimp only
    rw [st_sendAckEntries]
    rfl

theorem pendingAckFrames_streamAccepted (h : Handling) (frame : Frame) (opensStream : Bool)
    (emitted : List (ℕ × Bytes)) :
    (h.streamAccepted frame opensStream emitted).st.pendingAckFrames = h.st.pendingAckFrames := by
  unfold streamAccepted
  cases opensStream with
  | true => rfl
  | false => exact h.st.pendingAckFrames_onStream _

/-- An accepted frame is counted, unless it completes its transaction, which
clears the count. -/
theorem mem_keys_dataAccepted {opensStream complete handlerPresent : Bool}
    {emitted : List (ℕ × Bytes)} {id : TxId}
    (hid : id ∈ (h.dataAccepted frame opensStream complete emitted
      handlerPresent).st.pendingAckFrames.keys) :
    id = frame.transactionId ∧ complete = false ∨
      id ≠ frame.transactionId ∧ id ∈ h.st.pendingAckFrames.keys := by
  simp only [dataAccepted] at hid
  have hfed := (h.withState (h.st.withPendingAckFrames
    (h.st.pendingAckFrames.insert frame.transactionId
      ((h.st.pendingAckFrames.get? frame.transactionId).getD 0 +
        1)))).pendingAckFrames_streamAccepted frame opensStream emitted
  have hother : id ≠ frame.transactionId → id ∈ (h.st.pendingAckFrames.insert frame.transactionId
      ((h.st.pendingAckFrames.get? frame.transactionId).getD 0 + 1)).keys →
      id ∈ h.st.pendingAckFrames.keys := by
    intro hne hmem
    rw [Table.mem_keys_iff, Table.get?_insert_of_ne _ _ hne] at hmem
    exact Table.mem_keys_iff.2 hmem
  cases complete with
  | true =>
    rw [if_pos rfl, pendingAckFrames_handOver, pendingAckFrames_finalAck, hfed] at hid
    obtain ⟨hne, hmem⟩ := mem_keys_erase.1 hid
    exact .inr ⟨hne, hother hne hmem⟩
  | false =>
    rw [if_neg Bool.false_ne_true, hfed] at hid
    by_cases heq : id = frame.transactionId
    · exact .inl ⟨heq, rfl⟩
    · exact .inr ⟨heq, hother heq hid⟩

/-- **A data frame** counts for a slot that it has left incomplete. -/
theorem counts_onDataFrame (h : Handling) (frame : Frame) (handlerPresent streamPresent : Bool) :
    Counts h.st (h.onDataFrame frame handlerPresent streamPresent).st := by
  have hothers := (h.onDataFrame_effect frame handlerPresent streamPresent).others
  have hfeeds := TransactionReassembler.receive_feeds h.st.reassembler frame streamPresent
  simp only [onDataFrame] at hothers ⊢
  rw [TransactionReassembler.receive] at hfeeds
  generalize h.st.reassembler.receiveFrame frame.transactionId frame.seq frame.totalLen
    frame.payload.length frame.payload streamPresent = res at hfeeds hothers ⊢
  cases hfeeds with
  | refused | dropped hnone hseq | duplicate hget => exact .of_eq rfl rfl
  | @overlong e hnone hseq =>
    -- a count of the id is stale here, and the slot it now has is empty
    intro id hid
    by_cases heq : id = frame.transactionId
    · subst heq
      exact .inl ⟨_, Table.get?_insert_self _ _ _, rfl⟩
    · exact .inr ⟨hid, hothers id heq⟩
  | @stored slot emitted r' hslot hroom hget hkept =>
    dsimp only at hothers ⊢
    intro id hid
    rcases mem_keys_dataAccepted hid with ⟨rfl, hopen⟩ | ⟨hne, hwas⟩
    · refine .inl ⟨_, ?_, hopen⟩
      rw [hopen]
      simp only [dataAccepted, Bool.false_eq_true, if_false]
      rw [(streamAccepted_spec _ frame _ emitted).2.1]
      exact hget
    · exact .inr ⟨hwas, hothers id hne⟩

/-- **A frame keeps to the counts** where it forgets no counted
transaction. -/
theorem counts_dispatch (h : Handling) (handlerPresent streamPresent : Bool) (now : ℕ)
    (hspares : ∀ id ∈ h.st.forgets frame, id ∉ h.st.pendingAckFrames.keys) :
    Counts h.st (h.dispatch frame handlerPresent streamPresent now).st := by
  refine dispatch_rule (P := fun h' => Counts h.st h'.st) h ?_ ?_ ?_ ?_ ?_
  · exact fun _ => h.counts_onDataFrame frame handlerPresent streamPresent
  · exact fun _ => counts_onAckFrame now
  · exact fun _ => counts_onNackFrame now
  · exact fun _ => counts_onResumeResponseFrame now
  · exact fun _ hheeds => hheeds.counts hspares

/-! ## The clock -/

/-- **A tick only takes counts away.** -/
theorem counts_tick (h : Handling) (config : TransferConfig) (now : ℕ) :
    Counts h.st (h.tick config now).2.st := by
  intro id hid
  rw [pendingAckFrames_tick, Table.mem_keys_iff, ← Table.contains_iff,
    Session.contains_exportAcks, Bool.and_eq_true, Table.contains_iff] at hid
  refine .inr ⟨Table.mem_keys_iff.2 hid.1, ?_⟩
  rw [(h.sameSurface_tick config now).reassembler]

end Handling

/-- **A drain takes complete slots**, which have no count. -/
theorem owing_drainCompleted {st : SessionState} (howing : st.Owing) (handlerPresent : Bool) :
    (drainCompleted st handlerPresent).2.Owing := by
  unfold drainCompleted
  split
  · intro id hid
    obtain ⟨slot, hget, hopen⟩ := howing id hid
    exact ⟨slot, get?_takeAll hopen _ _ hget, hopen⟩
  · exact howing

namespace Session

open SessionState

variable {s s' : Session} {k now : ℕ} {outcomes : List Bool} {t : Task}

variable {txid : TxId}

theorem SendLocked.counts {payload : Bytes} {cb : Bool}
    {r : Option (List Frame) × Session} (h : SendLocked s k txid payload cb now r) :
    Counts s.state r.2.state := by
  cases h with
  | refused => exact .refl s.state
  | stranded hopen => exact .of_eq rfl rfl
  | framed hopen happend hfinish => cases cb <;> exact .of_eq rfl rfl

theorem counts_of_abortLocked {existed : Bool} {s₁ : Session}
    (h : s.abortLocked txid = (existed, s₁)) : Counts s.state s₁.state := by
  rw [abortLocked_eq] at h
  split at h <;> cases h <;> exact .of_eq rfl rfl

/-- The stretches of a task but for the drain. -/
theorem Stretch.counts (h : Stretch s k now outcomes t s')
    (hdrain : ∀ conn, t ≠ .clock conn .drain) : Counts s.state s'.state := by
  have hcore : s'.core = s.core → Counts s.state s'.state := fun hsame =>
    .of_eq (congrArg Core.reassembler hsame) (congrArg Core.pendingAckFrames hsame)
  cases h with
  | quiet hmoves hsame htasks | spawnClock hfresh hsame htasks | stopClock hclock hsame htasks =>
    exact hcore hsame
  | abort hlock haborts =>
    have hcounts := counts_of_abortLocked hlock
    exact hcounts
  | send hlock | sendFails hlock => exact (sendLocked_cases hlock).counts
  | @declare conn entries =>
    have hst : ((Handling.start s.state outcomes).sendResumeFrame entries).st = s.state :=
      Handling.st_writeControl _ _ _
    exact .of_eq (congrArg SessionState.reassembler hst)
      (congrArg SessionState.pendingAckFrames hst)
  | @tickDead conn h htick | @tick conn h htick =>
    have hcounts := (Handling.start s.state outcomes).counts_tick s.config now
    rw [show (Handling.start s.state outcomes).tick s.config now = _ from htick] at hcounts
    exact hcounts
  | @drain conn taken state htake => exact absurd rfl (hdrain conn)
  | _ => exact .of_eq rfl rfl

end Session

/-! ## Receptions -/

namespace Reception

open SessionState

variable {r r' : Reception}

theorem counts_session {a : Session.Action} {s' : Session} (hfine : r.coarse a = false)
    (hstep : r.session.step a = some s') : Counts r.session.state s'.state := by
  cases Session.step_steps hstep with
  | idle hsame htasks hquiet =>
    exact .of_eq (congrArg Session.Core.reassembler hsame)
      (congrArg Session.Core.pendingAckFrames hsame)
  | @advanced k now outcomes t s' hget hstretch =>
    refine hstretch.counts fun conn ht => ?_
    subst ht
    simp only [coarse, hget] at hfine
    cases hfine
  | received hconn => cases hfine
  | opened hopen | unpaused hpaused => exact .of_eq rfl rfl
  | started hfresh hcall | sawClosed hget => exact .refl _

/-- The frame whose locked section the action runs. -/
def lockedFrame (r : Reception) : Action → Option Frame
  | .handle k _ _ =>
    (r.calls.get? k).bind fun call =>
      match call.pc with
      | .lock _ _ => some call.frame
      | _ => none
  | _ => none

/-- A frame that is handled forgets no transaction with a count. -/
def SparesCounted (r : Reception) (a : Action) : Prop :=
  ∀ frame ∈ r.lockedFrame a, ∀ id ∈ r.session.state.forgets frame,
    id ∉ r.session.state.pendingAckFrames.keys

instance : ∀ (r : Reception) (a : Action), Decidable (SparesCounted r a) :=
  fun r a => inferInstanceAs (Decidable (∀ frame ∈ r.lockedFrame a, _))

theorem owing_step {a : Action} (howing : r.session.state.Owing) (hspares : SparesCounted r a)
    (hstep : r.step a = some r') : r'.session.state.Owing := by
  have hpass : ∀ parcel, (r.pass parcel).session.state.Owing := by
    intro parcel
    rw [session_pass]
    exact howing
  cases step_turns hstep with
  | own hfine hs' => exact (counts_session hfine hs').owing howing
  | @locked k now outcomes call handlerPresent streamPresent hget hpc =>
    have hframe : call.frame ∈ r.lockedFrame (.handle k now outcomes) := by
      simp only [lockedFrame, hget, hpc, Option.bind_some]
      rfl
    rw [state_locked]
    have hcounts := (Handling.start (r.session.state.touch now) outcomes).counts_dispatch
      handlerPresent streamPresent now (hspares call.frame hframe)
    exact hcounts.owing howing
  | passed hget hpc => exact hpass _
  | took htask hget => exact owing_drainCompleted howing true
  | drainPassed htask hget => exact hpass _
  | arrived hnew | readBinary hget hpc | readStream hget hpc | returned hget hpc
  | sawHandler htask hget hhandler | sawNone htask hget | drained htask hget => exact howing

/-- **Every count is of a transaction with an open slot**, in every state
reached by a run in which no frame forgets a counted transaction. So the
total the export is triggered by is the total over the open slots. -/
theorem counted_open {config : TransferConfig} {start : ℕ} {acts : List Action}
    (hmeets : RunMeets Reception.step SparesCounted (new config start) acts)
    (hrun : run Reception.step (new config start) acts = some r) :
    (∀ id ∈ r.session.state.pendingAckFrames.keys,
      r.session.state.reassembler.containsTransaction id = true) ∧
    r.session.state.pendingAckFrames.values.sum =
      ((r.session.state.pendingAckFrames.toList.filter fun count =>
        r.session.state.reassembler.containsTransaction count.1).map Prod.snd).sum := by
  have howing : r.session.state.Owing := by
    refine run_induct_of (I := fun r => r.session.state.Owing)
      (fun t a t' ht hspares hstep => owing_step ht hspares hstep) ?_ hmeets hrun
    exact fun id hid => absurd hid List.not_mem_nil
  have hopen : ∀ id ∈ r.session.state.pendingAckFrames.keys,
      r.session.state.reassembler.containsTransaction id = true := by
    intro id hid
    obtain ⟨slot, hget, -⟩ := howing id hid
    exact Table.contains_iff.2 ⟨slot, hget⟩
  refine ⟨hopen, ?_⟩
  rw [List.filter_eq_self.2]
  · rfl
  · intro count hcount
    exact hopen count.1 (Table.mem_keys_iff.2 ⟨count.2, Table.mem_toList.1 hcount⟩)

namespace Sample

/-- A declaration of one transaction. -/
def declares (id : TxId) : Frame :=
  controlFrame .resume ((encodeResumeRequest [⟨id, 0, 0⟩]).toOption.getD [])

/-- The first of two bytes arrives, then a declaration. -/
def declaredAfter (id : TxId) : List Action :=
  (Session.wireUp 0 0 1 0).map .session ++
    (handled 0 0 (dataFrame zeroId 2 0 [7]) ++ handled 1 0 (declares id))

end Sample

/-- The declaration names the transaction: slot and count stay. -/
theorem counted_open_sample :
    ∃ r, run Reception.step (new {} 0) (Sample.declaredAfter zeroId) = some r ∧
      r.session.state.pendingAckFrames.keys = [zeroId] ∧
      r.session.state.reassembler.containsTransaction zeroId = true := by
  have hmeets : RunMeets Reception.step SparesCounted (new {} 0)
      (Sample.declaredAfter zeroId) := by decide
  obtain ⟨r, hrun, hkeys⟩ :
      ∃ r, run Reception.step (new {} 0) (Sample.declaredAfter zeroId) = some r ∧
        r.session.state.pendingAckFrames.keys = [zeroId] := by decide
  refine ⟨_, hrun, hkeys, (counted_open hmeets hrun).1 zeroId ?_⟩
  rw [hkeys]
  exact List.mem_cons_self

/-- The declaration names another one: the slot goes and the count stays,
and the next batch is due for it alone. -/
theorem count_outlives_slot :
    ∃ r, run Reception.step (new {} 0)
        (Sample.declaredAfter (List.Vector.replicate 16 1)) = some r ∧
      zeroId ∈ r.session.state.pendingAckFrames.keys ∧
      r.session.state.reassembler.containsTransaction zeroId = false ∧
      r.session.state.pendingAckFrames.values.sum = 1 ∧
      ackBatchDue r.session.config r.session.state 500 := by
  decide

end Reception

end Transfer

end Xacpp
