import Xacpp.Transfer.Asks
import Xacpp.Transfer.Gate
/-!
# Data after a pause

`sink_pause` sets the flag under the lock and writes TRANSACTION_PAUSE after
it. The flag stops the writers that reach the lock later, the clock, NACKs
and verdicts. It does not stop a call that framed before the flag was set
and has yet to write, nor `sink_finish`, which frames and flushes the tail
without reading it; and `sink_resume` may clear the flag before the frame is
written. Where the pause finds nothing under way and no finish frames a
tail during it, no data of the transaction follows the frame until
`sink_resume` is called.
-/

namespace Xacpp

namespace Transfer

open Reliability

/-- The task writes TRANSACTION_PAUSE next. -/
def Task.announcesPause (txid : TxId) : Task → Bool
  | .sinkPause id (.write _) => decide (id = txid)
  | _ => false

namespace Session

variable {s s₀ s' : Session} {a : Action} {k now conn : ℕ} {outcomes : List Bool} {t : Task}
variable {id txid : TxId} {f : Frame} {events : List Event}

/-! ## Nothing is under way -/

/-- The transaction is paused or gone, and no call has frames of it to
write. -/
def Quiet (txid : TxId) (s : Session) : Prop :=
  (s.state.sender.pending.get? txid).all PendingTxn.paused = true ∧
    ∀ t ∈ s.tasks.values, ∀ f ∈ t.holding, f.transactionId ≠ txid

instance (txid : TxId) (s : Session) : Decidable (Quiet txid s) :=
  inferInstanceAs (Decidable (_ ∧ _))

theorem Quiet.halted (h : Quiet txid s) : TransactionSender.Halted txid s.state.sender := by
  intro txn hget
  have hall := h.1
  rw [hget] at hall
  exact hall

theorem Quiet.unheld (h : Quiet txid s) (hheld : Held s f) : f.transactionId ≠ txid := by
  obtain ⟨k, t, hget, hf⟩ := hheld
  exact h.2 t (Table.mem_values.2 ⟨k, hget⟩) f hf

theorem Quiet.mk (hhalted : TransactionSender.Halted txid s.state.sender)
    (hunheld : ∀ f, Held s f → f.transactionId ≠ txid) : Quiet txid s := by
  refine ⟨?_, fun t ht f hf => ?_⟩
  · cases hget : s.state.sender.pending.get? txid with
    | none => rfl
    | some txn => exact hhalted txn hget
  · obtain ⟨⟨k, t⟩, hmem, rfl⟩ := List.mem_map.1 ht
    exact hunheld f ⟨k, t, Table.mem_toList.1 hmem, hf⟩

/-- **The pause comes last.** The frame is written when nothing of the
transaction is under way, and a finish of the paused transaction frames no
tail. -/
def PauseLast (txid : TxId) (s : Session) : Action → Prop
  | .advance k now _ => ∀ t ∈ s.tasks.get? k,
      (t.announcesPause txid = true → Quiet txid s) ∧
      (t = .sinkFinish txid .close → s.state.sender.isTransactionPaused txid = true →
        framesOf (s.state.sender.finishTransaction txid now).1 = [])
  | _ => True

instance decidablePauseLast (txid : TxId) (s : Session) : ∀ a, Decidable (PauseLast txid s a)
  | .advance k now _ => inferInstanceAs (Decidable (∀ t ∈ s.tasks.get? k,
      (t.announcesPause txid = true → Quiet txid s) ∧
      (t = .sinkFinish txid .close → s.state.sender.isTransactionPaused txid = true →
        framesOf (s.state.sender.finishTransaction txid now).1 = [])))
  | .inbound .. | .openBinarySink .. | .sinkResume .. | .start .. | .activity .. | .onBinary
  | .onBinaryStream | .close .. | .seeClosed .. => isTrue trivial

/-! ## One step -/

/-- The pause stays unless `sink_resume` ends it or the id is opened anew. -/
theorem halted_step (h : TransactionSender.Halted txid s.state.sender)
    (hstep : step s a = some s') (hresume : ∀ now, a ≠ .sinkResume txid now)
    (hlog : s'.log = events ++ s.log) (hopened : .opened txid ∉ events) :
    TransactionSender.Halted txid s'.state.sender := by
  cases hpend : s.state.sender.containsTransaction txid with
  | false =>
    intro txn hget
    have hpend' := TransactionSender.containsTransaction_of_get? hget
    exact absurd (opened_of_new hstep hpend hpend' hlog) hopened
  | true =>
    obtain ⟨calls, hrun, hasks⟩ := step_asks hstep
    refine h.run hrun fun c hc => ⟨fun heq => ?_, fun hopens => ?_⟩
    · obtain ⟨now, ha⟩ := (heq ▸ hasks c hc : Asks s a _).resume_of_unpause
      exact hresume now ha
    · rw [(hasks c hc).not_contains hopens] at hpend
      cases hpend

theorem isTransactionPaused_of_halted (h : TransactionSender.Halted txid s.state.sender)
    {txn : PendingTxn} (hget : s.state.sender.pending.get? txid = some txn) :
    s.state.sender.isTransactionPaused txid = true := by
  rw [TransactionSender.isTransactionPaused, hget]
  exact h txn hget

/-- What a step takes is of another transaction. -/
theorem Quiet.ne_of_takes (h : Quiet txid s) (hlast : PauseLast txid s a)
    (hstep : step s a = some s') (hlog : s'.log = events ++ s.log)
    (hopened : .opened txid ∉ events) (htakes : Takes s f s' a) : f.transactionId ≠ txid := by
  rintro rfl
  cases htakes with
  | append hget hpaused happend hf =>
    -- a writer reads the flag under the lock
    obtain ⟨txn, txn', ps, hpend, -, -, -, rfl⟩ := TransactionSender.appendChunk_frames happend
    rw [transactionId_of_mem_framesFrom hf] at h
    rw [isTransactionPaused_of_halted h.halted hpend] at hpaused
    cases hpaused
  | close hget hclose hf =>
    -- a finish does not; here it has no tail
    obtain ⟨txn, hpend, htail, -⟩ := TransactionSender.finishTransaction_ok hclose
    have hid := transactionId_of_mem_framesFrom (htail ▸ hf)
    rw [hid] at h hlast
    have hnone := (hlast _ hget).2 rfl (isTransactionPaused_of_halted h.halted hpend)
    rw [hclose, framesOf] at hnone
    exact absurd (hnone ▸ hf) List.not_mem_nil
  | send hlock hsender hf =>
    obtain ⟨hnew, hpend, hall⟩ := hlock.opens
    rw [← hall f hf] at hnew hpend
    rw [← hsender] at hpend
    exact hopened (opened_of_new hstep hnew hpend hlog)

/-- **One step of a pause.** Nothing of the transaction is under way after
it, and it has written no data of it. -/
theorem Quiet.step (h : Quiet txid s) (hhold : AllHold s) (hlast : PauseLast txid s a)
    (hresume : ∀ now, a ≠ .sinkResume txid now) (hstep : Session.step s a = some s')
    (hlog : s'.log = events ++ s.log) (hopened : .opened txid ∉ events) :
    Quiet txid s' ∧ ∀ c w, .wrote c w ∈ events → w.frame.frameType = .dataBinary →
      w.frame.transactionId ≠ txid := by
  refine ⟨.mk (halted_step h.halted hstep hresume hlog hopened) fun f hheld => ?_,
    fun c w hw hdata => ?_⟩
  · rcases step_takes hstep hheld with hheld | htakes
    · exact h.unheld hheld
    · exact h.ne_of_takes hlast hstep hlog hopened htakes
  · obtain ⟨written, hlog', hfrom⟩ := step_writes hhold.ownsFrames hstep
    rw [hlog, List.append_left_inj] at hlog'
    subst hlog'
    have hwrote : .wrote c w ∈ written := by
      rcases List.mem_append.1 hw with hw | hw
      · exact hw
      · cases a with
        | inbound conn frame now outcomes => cases List.mem_singleton.1 hw
        | _ => exact absurd hw List.not_mem_nil
    cases hfrom c w hwrote hdata with
    | handed hget hheld => exact h.unheld ⟨_, _, hget, mem_holding_of_heldFor hheld⟩
    | due hget hdue => exact h.halted.ne_of_mem_dueRetransmissions hhold.ownsFrames hdue
    | nacked htype hdec hentry hid hpend hlive | resumed htype hdec hmem hlive =>
      rintro rfl
      exact hlive h.halted

/-! ## Runs -/

/-- The history since the pause was written, as long as the id is not opened
anew: nothing of the transaction is under way, and no data of it was
written. -/
def PausedSince (txid : TxId) (log : List Event) (s : Session) : Prop :=
  AllHold s ∧ ∃ events, s.log = events ++ log ∧ (.opened txid ∉ events → Quiet txid s ∧
    ∀ c w, .wrote c w ∈ events → w.frame.frameType = .dataBinary → w.frame.transactionId ≠ txid)

theorem PausedSince.step {log : List Event} (h : PausedSince txid log s)
    (hlast : PauseLast txid s a) (hresume : ∀ now, a ≠ .sinkResume txid now)
    (hstep : Session.step s a = some s') : PausedSince txid log s' := by
  obtain ⟨hhold, events, hlog, hsince⟩ := h
  obtain ⟨written, hlog', -⟩ := step_writes hhold.ownsFrames hstep
  refine ⟨hhold.step hstep, written ++ a.arrival ++ events, ?_, fun hopened => ?_⟩
  · rw [hlog', hlog, List.append_assoc, List.append_assoc, List.append_assoc]
  · rw [List.mem_append, not_or] at hopened
    obtain ⟨hquiet, hall⟩ := hsince hopened.2
    obtain ⟨hquiet', hnew⟩ := hquiet.step hhold hlast hresume hstep hlog' hopened.1
    refine ⟨hquiet', fun c w hw hdata => ?_⟩
    rcases List.mem_append.1 hw with hw | hw
    · exact hnew c w hw hdata
    · exact hall c w hw hdata

/-- **No data follows the pause.** In every run whose steps let the pause
come last, after TRANSACTION_PAUSE is written no data frame of the
transaction is, until `sink_resume` is called or the id is opened anew. -/
theorem no_data_after_pause {config : TransferConfig} {start : ℕ} {acts after : List Action}
    (hrun₀ : run step (new config start) acts = some s₀)
    (hpause : s₀.tasks.get? k = some (.sinkPause txid (.write conn)))
    (hrun : run step s₀ (.advance k now outcomes :: after) = some s)
    (hmeets : RunMeets step (PauseLast txid) s₀ (.advance k now outcomes :: after))
    (hresume : ∀ a ∈ after, ∀ now, a ≠ .sinkResume txid now) {ok : Bool} {newer : List Event}
    (hlog : s.log = newer ++ .wrote conn ⟨.data, pauseFrame txid, ok⟩ :: s₀.log)
    (hopened : .opened txid ∉ newer) :
    ∀ c w, .wrote c w ∈ newer → w.frame.frameType = .dataBinary →
      w.frame.transactionId ≠ txid := by
  have hquiet : Quiet txid s₀ := (hmeets.1 _ hpause).1 (decide_eq_true rfl)
  have hstart : PausedSince txid s₀.log s₀ :=
    ⟨.of_run hrun₀, [], rfl, fun _ => ⟨hquiet, fun c w hw => absurd hw List.not_mem_nil⟩⟩
  have hcalls : ∀ a ∈ .advance k now outcomes :: after, ∀ now', a ≠ .sinkResume txid now' := by
    intro a ha
    rcases List.mem_cons.1 ha with rfl | ha
    · exact fun _ heq => by cases heq
    · exact hresume a ha
  have hsince : PausedSince txid s₀.log s := by
    refine run_induct_of (I := PausedSince txid s₀.log) ?_ hstart
      (hmeets.and (.of_mem fun a ha _ => hcalls a ha)) hrun
    rintro t a t' ht ⟨hlast, hnot⟩ hstep
    exact ht.step hlast hnot hstep
  obtain ⟨-, events, hlog', hall⟩ := hsince
  have hevents : newer ++ [.wrote conn ⟨.data, pauseFrame txid, ok⟩] = events := by
    rw [hlog, List.append_cons] at hlog'
    exact List.append_cancel_right hlog'
  subst hevents
  intro c w hw
  refine (hall fun hmem => ?_).2 c w (List.mem_append_left _ hw)
  rcases List.mem_append.1 hmem with hmem | hmem
  · exact hopened hmem
  · cases List.mem_singleton.1 hmem

namespace Sample

/-- One byte a frame. -/
def byteFrames : TransferConfig := { sender := { frameSize := 1 } }

/-- A sink of one byte; the write of task 2 has framed it and not yet handed
it over. -/
def byteFramed : List Action :=
  wireUp 0 0 1 0 ++
    [.openBinarySink zeroId 1 0, .start 2 (.sinkWrite zeroId [7]), .advance 2 0 [],
      .advance 2 0 [], .advance 2 0 []]

/-- Task 3 has set the flag and is about to write. -/
def pausing : List Action := [.start 3 (.sinkPause zeroId), .advance 3 0 [], .advance 3 0 []]

/-- The byte is handed over, and only then the sink is paused. -/
def handedThenPausing : List Action :=
  byteFramed ++ [.advance 2 0 [], .advance 2 0 []] ++ pausing

/-- The clock finds the byte overdue, and the peer asks for it. -/
def asked : List Action :=
  [.advance 1 5000 [],
    .inbound 0 (controlFrame .nack ([1] ++ zeroId.toList ++ [0, 1, 0, 0, 0, 0])) 5000 []]

/-- The byte is framed, the sink is paused, and the byte is handed over. -/
def pausedThenHanded : List Action :=
  byteFramed ++ pausing ++ [.advance 3 0 [], .advance 2 0 []]

/-- The byte is in the partial buffer; the sink is paused, and finished by
task 4. -/
def pausedThenFinished : List Action :=
  oneByteSink ++ pausing ++
    .advance 3 0 [] :: .start 4 (.sinkFinish zeroId) :: List.replicate 5 (.advance 4 0 [])

/-- The sink is resumed before the pause is written, and written after. -/
def resumedThenPaused : List Action :=
  wireUp 0 0 1 0 ++ .openBinarySink zeroId 1 0 :: pausing ++
    .sinkResume zeroId 0 :: .advance 3 0 [] :: .start 2 (.sinkWrite zeroId [7]) ::
      List.replicate 4 (.advance 2 0 [])

end Sample

theorem no_data_after_pause_sample :
    ∃ s₀ s newer, run step (new Sample.byteFrames 0) Sample.handedThenPausing = some s₀ ∧
      run step s₀ (.advance 3 0 [] :: Sample.asked) = some s ∧
      s.log = newer ++ .wrote 0 ⟨.data, pauseFrame zeroId, true⟩ :: s₀.log ∧
      ∀ c w, .wrote c w ∈ newer → w.frame.frameType = .dataBinary →
        w.frame.transactionId ≠ zeroId := by
  obtain ⟨s₀, s, hrun₀, hrun, hpause, hmeets, hlog, hopened⟩ :
      ∃ s₀ s, run step (new Sample.byteFrames 0) Sample.handedThenPausing = some s₀ ∧
        run step s₀ (.advance 3 0 [] :: Sample.asked) = some s ∧
        s₀.tasks.get? 3 = some (.sinkPause zeroId (.write 0)) ∧
        RunMeets step (PauseLast zeroId) s₀ (.advance 3 0 [] :: Sample.asked) ∧
        s.log = s.log.take (s.log.length - s₀.log.length - 1) ++
          .wrote 0 ⟨.data, pauseFrame zeroId, true⟩ :: s₀.log ∧
        .opened zeroId ∉ s.log.take (s.log.length - s₀.log.length - 1) := by decide
  have hresume : ∀ a ∈ Sample.asked, ∀ now, a ≠ .sinkResume zeroId now := by
    intro a ha now heq
    subst heq
    simp [Sample.asked] at ha
  exact ⟨_, _, _, hrun₀, hrun, hlog,
    no_data_after_pause hrun₀ hpause hrun hmeets hresume hlog hopened⟩

/-- **Data follows the pause** three ways: a write that framed before hands
its frame over after; a finish frames the tail and flushes it; and
`sink_resume` clears the flag before the frame is written, so that a write
after it finds no pause. -/
theorem data_after_pause :
    (∃ s older, run step (new Sample.byteFrames 0) Sample.pausedThenHanded = some s ∧
      s.log = .wrote 0 ⟨.data, dataFrame zeroId 1 0 [7], true⟩ ::
        .wrote 0 ⟨.data, pauseFrame zeroId, true⟩ :: older) ∧
    (∃ s older, run step (new {} 0) Sample.pausedThenFinished = some s ∧
      s.log = .wrote 0 ⟨.data, dataFrame zeroId 1 0 [7], true⟩ ::
        .wrote 0 ⟨.data, pauseFrame zeroId, true⟩ :: older) ∧
    ∃ s older, run step (new Sample.byteFrames 0) Sample.resumedThenPaused = some s ∧
      s.log = .wrote 0 ⟨.data, dataFrame zeroId 1 0 [7], true⟩ ::
        .wrote 0 ⟨.data, pauseFrame zeroId, true⟩ :: older := by
  -- what is older is read off the log
  have hends : ∀ o : Option Session, (∃ s, o = some s ∧
      s.log = .wrote 0 ⟨.data, dataFrame zeroId 1 0 [7], true⟩ ::
        .wrote 0 ⟨.data, pauseFrame zeroId, true⟩ :: s.log.drop 2) →
      ∃ s older, o = some s ∧ s.log = .wrote 0 ⟨.data, dataFrame zeroId 1 0 [7], true⟩ ::
        .wrote 0 ⟨.data, pauseFrame zeroId, true⟩ :: older :=
    fun o h => h.imp fun s hs => ⟨_, hs⟩
  exact ⟨hends _ (by decide), hends _ (by decide), hends _ (by decide)⟩

end Session

end Transfer

end Xacpp
