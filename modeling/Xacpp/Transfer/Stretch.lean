import Xacpp.Reliability.Operations
import Xacpp.Transfer.Model.Session
/-!
# What a stretch can do

The inversion of `Session.advance`. Most stretches only move their own
program counter, on what they read of the session (`Moves`); the others
are a locked section or a transport write, and `Stretch` lists them with
the guards under which they happen. Everything that holds of a session
across its tasks is read off `advance_stretch`.
-/

namespace Xacpp

namespace Transfer

open Reliability

/-- The frames a task has still to hand to a transport. -/
def Task.holding : Task → List Frame
  | .sinkWrite _ _ (.flush _ frames) => frames
  | .sinkFinish _ (.sampleGate tail) | .sinkFinish _ (.checkWiring tail _ _)
  | .sinkFinish _ (.parked tail _) | .sinkFinish _ (.flush _ tail) => tail
  | .sendBinary _ _ _ _ (.flush frames) => frames
  | _ => []

/-- The call a task runs; the clock runs none. -/
def Task.call? : Task → Option Call
  | .sinkWrite txid chunk _ => some (.sinkWrite txid chunk)
  | .sinkFinish txid _ => some (.sinkFinish txid)
  | .sinkAbort txid _ => some (.sinkAbort txid)
  | .sinkPause txid _ => some (.sinkPause txid)
  | .sendBinary txid payload onComplete conn _ => some (.sendBinary txid payload onComplete conn)
  | .wire conn c _ => some (.wire conn c)
  | .unwire _ => some .unwire
  | .declarePendingSends _ => some .declarePendingSends
  | .clock _ _ => none

/-- A `send_binary` that has not entered its locked section. -/
def Task.unsent : Task → Bool
  | .sendBinary _ _ _ _ .lock => true
  | _ => false

/-- Where the inline abort of `sink_finish` goes. -/
def FinishPc.ofAbort : AbortPc → FinishPc
  | .returned _ => .returned none
  | pc => .aborting pc

/-- Nothing happened to the slots, the stream tables and the stream
objects. -/
structure SameSurface (st st' : SessionState) : Prop where
  reassembler : st'.reassembler = st.reassembler
  streams : st'.streams = st.streams
  streamOwned : st'.streamOwned = st.streamOwned
  objects : st'.objects = st.objects

namespace Session

variable {s s' : Session} {k now : ℕ} {outcomes : List Bool} {t t' : Task}

variable {txid : TxId} {payload : Bytes} {cb existed : Bool}
  {r : Option (List Frame) × Session} {s₁ : Session}

/-- What a quiet stretch may do on the receive side: nothing, or mark the
streams stalled, or clear the mark. A handler once registered stays. -/
structure Idles (s s' : Session) : Prop where
  handler : s.binaryHandler = true → s'.binaryHandler = true
  surface : SameSurface s.state s'.state ∨ SameSurface s.state.stallStreams s'.state ∨
    SameSurface (s.state.onStreams StreamInner.clearStalled) s'.state

theorem Idles.of_state (hhandler : s'.binaryHandler = s.binaryHandler)
    (hstate : s'.state = s.state) : Idles s s' :=
  ⟨fun h => hhandler.trans h, .inl (by rw [hstate]; exact ⟨rfl, rfl, rfl, rfl⟩)⟩

/-- What the locked sections of the transfer read and write, and the
history. Left out: wiring, wake surface, clocks, tasks, stream objects. -/
structure Core where
  sender : TransactionSender
  reassembler : TransactionReassembler
  completions : Table TxId Callback
  pendingAckFrames : Table TxId ℕ
  sinks : Finset TxId
  log : List Event

def core (s : Session) : Core where
  sender := s.state.sender
  reassembler := s.state.reassembler
  completions := s.state.completions
  pendingAckFrames := s.state.pendingAckFrames
  sinks := s.sinks
  log := s.log

/-- The moves of `sink_abort` that touch nothing. -/
inductive AbortMoves (s : Session) : AbortPc → AbortPc → Prop
  | unwired (h : s.wiring = none) : AbortMoves s .readWiring (.returned false)
  | wired {conn : ℕ} (h : s.wiring = some conn) : AbortMoves s .readWiring (.write conn)

/-- The moves of `sink_write` that touch nothing. -/
inductive WriteMoves (s : Session) (txid : TxId) : WritePc → WritePc → Prop
  | subscribe : WriteMoves s txid .subscribe (.readWiring s.watch)
  | unwired {seen : ℕ} (h : s.wiring = none) : WriteMoves s txid (.readWiring seen) (.parked seen)
  | wired {seen conn : ℕ} (h : s.wiring = some conn) :
      WriteMoves s txid (.readWiring seen) (.append seen conn)
  /-- Paused, gated, or over the cap. -/
  | park {seen conn : ℕ} : WriteMoves s txid (.append seen conn) (.parked seen)
  | fail {seen conn : ℕ} : WriteMoves s txid (.append seen conn) (.returned false)
  | woken {seen : ℕ} (h : s.watch ≠ seen) : WriteMoves s txid (.parked seen) .subscribe
  | flushed {conn : ℕ} : WriteMoves s txid (.flush conn []) (.returned true)

/-- The moves of `sink_finish` that touch nothing. -/
inductive FinishMoves (s : Session) (k : ℕ) (txid : TxId) : FinishPc → FinishPc → Prop
  | pending (h : s.state.sender.containsTransaction txid = true) :
      FinishMoves s k txid .fastPath .close
  | absent (h : s.state.sender.containsTransaction txid = false) :
      FinishMoves s k txid .fastPath (.returned (some true))
  | abort {pc pc' : AbortPc} (h : AbortMoves s pc pc') :
      FinishMoves s k txid (.aborting pc) (FinishPc.ofAbort pc')
  | gated {tail : List Frame} (h : s.state.sender.isAwaitingResume txid = true) :
      FinishMoves s k txid (.sampleGate tail) .register
  | ungated {tail : List Frame} (h : s.state.sender.isAwaitingResume txid = false) :
      FinishMoves s k txid (.sampleGate tail) (.checkWiring tail s.watch false)
  | wired {tail : List Frame} {seen conn : ℕ} {waited : Bool} (h : s.wiring = some conn) :
      FinishMoves s k txid (.checkWiring tail seen waited) (.flush conn tail)
  | giveUp {tail : List Frame} {seen : ℕ} (h : s.wiring = none) :
      FinishMoves s k txid (.checkWiring tail seen true) .register
  | park {tail : List Frame} {seen : ℕ} (h : s.wiring = none) :
      FinishMoves s k txid (.checkWiring tail seen false) (.parked tail seen)
  | woken {tail : List Frame} {seen : ℕ} (h : s.watch ≠ seen) :
      FinishMoves s k txid (.parked tail seen) (.checkWiring tail seen true)
  | flushed {conn : ℕ} : FinishMoves s k txid (.flush conn []) .announce
  | unannounced (h : s.wiring = none) : FinishMoves s k txid .announce .register
  | announce {conn : ℕ} (h : s.wiring = some conn) :
      FinishMoves s k txid .announce (.announceWrite conn)
  | stillPending (h : s.state.sender.containsTransaction txid = true) :
      FinishMoves s k txid .recheck .awaiting
  | gone (h : s.state.sender.containsTransaction txid = false) :
      FinishMoves s k txid .recheck .consume
  | fired {confirmed : Bool} (h : s.firedResult k = some confirmed) :
      FinishMoves s k txid .awaiting (.returned (some confirmed))
  | dropped (h : s.firedResult k = none) : FinishMoves s k txid .awaiting (.returned none)

/-- The moves of `sink_pause` that touch nothing. -/
inductive PauseMoves (s : Session) : PausePc → PausePc → Prop
  | unknown : PauseMoves s .lock (.returned false)
  | unwired (h : s.wiring = none) : PauseMoves s .readWiring (.returned false)
  | wired {conn : ℕ} (h : s.wiring = some conn) : PauseMoves s .readWiring (.write conn)

/-- The moves of `wire` that touch no transaction. -/
inductive WireMoves (s : Session) : WirePc → WirePc → Prop
  | refused (h : s.wiring.isSome = true) : WireMoves s .check (.returned false)
  | accepted (h : s.wiring.isSome = false) : WireMoves s .check .resetActivity
  | resetActivity : WireMoves s .resetActivity .spawnClock
  | hooks : WireMoves s .hooks .storeWiring
  | storeWiring : WireMoves s .storeWiring .arm
  | recover : WireMoves s .recover (.returned true)

/-- The moves of the clock between ticks. -/
inductive ClockMoves : ClockPc → ClockPc → Prop
  | unhook {silent : Bool} : ClockMoves (.unhook silent) (.clearWiring silent)
  | clearWiring {silent : Bool} : ClockMoves (.clearWiring silent) (.stall silent)
  | stall {silent : Bool} : ClockMoves (.stall silent) (if silent then .disconnect else .exited)
  | disconnect : ClockMoves .disconnect .exited

/-- The moves that touch nothing but the task itself and, for wiring and
clock tasks, what no locked section reads. -/
inductive Moves (s : Session) (k : ℕ) : Task → Task → Prop
  | write {txid : TxId} {chunk : Bytes} {pc pc' : WritePc} (h : WriteMoves s txid pc pc') :
      Moves s k (.sinkWrite txid chunk pc) (.sinkWrite txid chunk pc')
  | finish {txid : TxId} {pc pc' : FinishPc} (h : FinishMoves s k txid pc pc') :
      Moves s k (.sinkFinish txid pc) (.sinkFinish txid pc')
  | abort {txid : TxId} {pc pc' : AbortPc} (h : AbortMoves s pc pc') :
      Moves s k (.sinkAbort txid pc) (.sinkAbort txid pc')
  | pause {txid : TxId} {pc pc' : PausePc} (h : PauseMoves s pc pc') :
      Moves s k (.sinkPause txid pc) (.sinkPause txid pc')
  | sendFlushed {txid : TxId} {payload : Bytes} {cb : Bool} {conn : ℕ} :
      Moves s k (.sendBinary txid payload cb conn (.flush []))
        (.sendBinary txid payload cb conn .announce)
  | wire {conn clock : ℕ} {pc pc' : WirePc} (h : WireMoves s pc pc') :
      Moves s k (.wire conn clock pc) (.wire conn clock pc')
  | unwire {pc pc' : UnwirePc} : Moves s k (.unwire pc) (.unwire pc')
  | declareUnwired : Moves s k (.declarePendingSends .readWiring) (.declarePendingSends .returned)
  | declareWired {conn : ℕ} (h : s.wiring = some conn) :
      Moves s k (.declarePendingSends .readWiring) (.declarePendingSends (.snapshot conn))
  | clock {conn : ℕ} {pc pc' : ClockPc} (h : ClockMoves pc pc') :
      Moves s k (.clock conn pc) (.clock conn pc')

/-- A frame that is the head of what a task holds is handed over; a failure
drops the rest. -/
inductive Hands : Task → ℕ → Frame → Bool → Task → Prop
  | write {txid : TxId} {chunk : Bytes} {conn : ℕ} {frame : Frame} {rest : List Frame} :
      Hands (.sinkWrite txid chunk (.flush conn (frame :: rest))) conn frame true
        (.sinkWrite txid chunk (.flush conn rest))
  | writeFails {txid : TxId} {chunk : Bytes} {conn : ℕ} {frame : Frame} {rest : List Frame} :
      Hands (.sinkWrite txid chunk (.flush conn (frame :: rest))) conn frame false
        (.sinkWrite txid chunk (.returned true))
  | finish {txid : TxId} {conn : ℕ} {frame : Frame} {rest : List Frame} :
      Hands (.sinkFinish txid (.flush conn (frame :: rest))) conn frame true
        (.sinkFinish txid (.flush conn rest))
  | finishFails {txid : TxId} {conn : ℕ} {frame : Frame} {rest : List Frame} :
      Hands (.sinkFinish txid (.flush conn (frame :: rest))) conn frame false
        (.sinkFinish txid .register)
  | send {txid : TxId} {payload : Bytes} {cb : Bool} {conn : ℕ} {frame : Frame}
      {rest : List Frame} :
      Hands (.sendBinary txid payload cb conn (.flush (frame :: rest))) conn frame true
        (.sendBinary txid payload cb conn (.flush rest))
  | sendFails {txid : TxId} {payload : Bytes} {cb : Bool} {conn : ℕ} {frame : Frame}
      {rest : List Frame} :
      Hands (.sendBinary txid payload cb conn (.flush (frame :: rest))) conn frame false
        (.sendBinary txid payload cb conn (.returned false))

/-- A task writes a transaction control frame on the data channel. -/
inductive Announces : Task → ℕ → Frame → Bool → Task → Prop
  | abort {txid : TxId} {conn : ℕ} {ok : Bool} :
      Announces (.sinkAbort txid (.write conn)) conn (abortFrame txid) ok
        (.sinkAbort txid (.returned ok))
  | finishAbort {txid : TxId} {conn : ℕ} {ok : Bool} :
      Announces (.sinkFinish txid (.aborting (.write conn))) conn (abortFrame txid) ok
        (.sinkFinish txid (.returned none))
  | finish {txid : TxId} {conn : ℕ} {ok : Bool} :
      Announces (.sinkFinish txid (.announceWrite conn)) conn (completedFrame txid) ok
        (.sinkFinish txid .register)
  | pause {txid : TxId} {conn : ℕ} {ok : Bool} :
      Announces (.sinkPause txid (.write conn)) conn (pauseFrame txid) ok
        (.sinkPause txid (.returned ok))
  | send {txid : TxId} {payload : Bytes} {cb : Bool} {conn : ℕ} {ok : Bool} :
      Announces (.sendBinary txid payload cb conn .announce) conn (completedFrame txid) ok
        (.sendBinary txid payload cb conn (.returned ok))

/-- A task enters the locked section of `sink_abort`, and where it goes on. -/
inductive Aborts (txid : TxId) : Task → Bool → Task → Prop
  | abort : Aborts txid (.sinkAbort txid .lock) true (.sinkAbort txid .readWiring)
  | abortFails : Aborts txid (.sinkAbort txid .lock) false (.sinkAbort txid (.returned false))
  | finish : Aborts txid (.sinkFinish txid (.aborting .lock)) true
      (.sinkFinish txid (.aborting .readWiring))
  | finishFails : Aborts txid (.sinkFinish txid (.aborting .lock)) false
      (.sinkFinish txid (.returned none))

/-- **What a stretch of task `k` can do**, and the session it leaves. -/
inductive Stretch (s : Session) (k now : ℕ) (outcomes : List Bool) : Task → Session → Prop
  | quiet {t t' : Task} {s' : Session} (hmoves : Moves s k t t') (hsame : s'.core = s.core)
      (htasks : s'.tasks = s.tasks.insert k t') (hidles : Idles s s') :
      Stretch s k now outcomes t s'
  | spawnClock {conn clock : ℕ} {s' : Session} (hfresh : s.tasks.contains clock = false)
      (hsame : s'.core = s.core)
      (htasks : s'.tasks = (s.tasks.insert clock (.clock conn .idle)).insert k
        (.wire conn clock .hooks)) (hidles : Idles s s') :
      Stretch s k now outcomes (.wire conn clock .spawnClock) s'
  | stopClock {conn clock : ℕ} {pc : ClockPc} {s' : Session}
      (hclock : s.tasks.get? clock = some (.clock conn pc)) (hsame : s'.core = s.core)
      (htasks : s'.tasks = (s.tasks.insert clock (.clock conn .exited)).insert k
        (.unwire .returned)) (hidles : Idles s s') (hstop : s.clock = some clock) :
      Stretch s k now outcomes (.unwire .stopClock) s'
  | hand {t t' : Task} {conn : ℕ} {frame : Frame} {ok : Bool} (hok : outcomes.headD true = ok)
      (h : Hands t conn frame ok t') :
      Stretch s k now outcomes t ((s.record [.wrote conn ⟨.data, frame, ok⟩]).setTask k t')
  | announce {t t' : Task} {conn : ℕ} {frame : Frame} {ok : Bool}
      (h : Announces t conn frame ok t') :
      Stretch s k now outcomes t ((s.record [.wrote conn ⟨.data, frame, ok⟩]).setTask k t')
  | append {txid : TxId} {chunk : Bytes} {seen conn : ℕ} {frames : List Frame}
      {sender : TransactionSender} (hpaused : s.state.sender.isTransactionPaused txid = false)
      (hgate : s.state.sender.isAwaitingResume txid = false)
      (h : s.state.sender.appendChunk txid chunk now = (.ok frames, sender)) :
      Stretch s k now outcomes (.sinkWrite txid chunk (.append seen conn))
        ((s.withSender sender).setTask k (.sinkWrite txid chunk (.flush conn frames)))
  | close {txid : TxId} {tail : List Frame} {sender : TransactionSender}
      (h : s.state.sender.finishTransaction txid now = (.ok tail, sender)) :
      Stretch s k now outcomes (.sinkFinish txid .close)
        ((s.withSender sender).setTask k (.sinkFinish txid (.sampleGate tail)))
  | closeFails {txid : TxId} {e : BeginError} {sender : TransactionSender}
      (h : s.state.sender.finishTransaction txid now = (.error e, sender)) :
      Stretch s k now outcomes (.sinkFinish txid .close)
        ((s.withSender sender).setTask k (.sinkFinish txid (.aborting .lock)))
  | abort {txid : TxId} {t t' : Task} {existed : Bool} {s₁ : Session}
      (hlock : s.abortLocked txid = (existed, s₁)) (h : Aborts txid t existed t') :
      Stretch s k now outcomes t (s₁.setTask k t')
  | register {txid : TxId} :
      Stretch s k now outcomes (.sinkFinish txid .register)
        (((s.withCompletions (s.state.completions.insert txid (.finish k))).record
          [.registered txid (.finish k)]).setTask k (.sinkFinish txid .recheck))
  | consume {txid : TxId} :
      Stretch s k now outcomes (.sinkFinish txid .consume)
        ((s.withCompletions (s.state.completions.erase txid)).setTask k
          (.sinkFinish txid (.returned (some true))))
  | pause {txid : TxId} {sender : TransactionSender}
      (h : s.state.sender.setPaused txid true now = (true, sender)) :
      Stretch s k now outcomes (.sinkPause txid .lock)
        ((s.withSender sender).setTask k (.sinkPause txid .readWiring))
  | send {txid : TxId} {payload : Bytes} {cb : Bool} {conn : ℕ} {frames : List Frame}
      {s₁ : Session} (hlock : s.sendLocked k txid payload cb now = (some frames, s₁)) :
      Stretch s k now outcomes (.sendBinary txid payload cb conn .lock)
        (s₁.setTask k (.sendBinary txid payload cb conn (.flush frames)))
  | sendFails {txid : TxId} {payload : Bytes} {cb : Bool} {conn : ℕ} {s₁ : Session}
      (hlock : s.sendLocked k txid payload cb now = (none, s₁)) :
      Stretch s k now outcomes (.sendBinary txid payload cb conn .lock)
        (s₁.setTask k (.sendBinary txid payload cb conn (.returned false)))
  | arm {conn clock : ℕ} :
      Stretch s k now outcomes (.wire conn clock .arm)
        ((s.withSender (s.state.sender.declarePending now).2).setTask k
          (.wire conn clock .recover))
  | snapshot {conn : ℕ} {pc : DeclarePc}
      (h : pc = .returned ∨ pc = .write conn (s.state.sender.declarePending now).1) :
      Stretch s k now outcomes (.declarePendingSends (.snapshot conn))
        ((s.withSender (s.state.sender.declarePending now).2).setTask k
          (.declarePendingSends pc))
  | declare {conn : ℕ} {entries : List AckEntry} :
      Stretch s k now outcomes (.declarePendingSends (.write conn entries))
        ((s.absorb conn ((Handling.start s.state outcomes).sendResumeFrame entries)).setTask k
          (.declarePendingSends .returned))
  | tickDead {conn : ℕ} {h : Handling}
      (htick : clockTick s.config s.state now outcomes = (true, h)) :
      Stretch s k now outcomes (.clock conn .idle)
        ((s.absorb conn h).setTask k (.clock conn (.unhook true)))
  | tick {conn : ℕ} {h : Handling}
      (htick : clockTick s.config s.state now outcomes = (false, h)) :
      Stretch s k now outcomes (.clock conn .idle)
        ((s.absorb conn h).wakeWriters.setTask k (.clock conn .drain))
  | drain {conn : ℕ} {taken : List (TxId × Bytes)} {state : SessionState}
      (hdrain : drainCompleted s.state s.binaryHandler = (taken, state)) :
      Stretch s k now outcomes (.clock conn .drain)
        (({ s with state := state }.record
          (taken.map (Function.uncurry Event.delivered))).setTask k (.clock conn .idle))

/-- A drain takes what is complete, and does nothing else. -/
theorem Stretch.drained {conn : ℕ} (h : Stretch s k now outcomes (.clock conn .drain) s') :
    ∃ taken state, drainCompleted s.state s.binaryHandler = (taken, state) ∧ s'.state = state ∧
      s'.log = (taken.map (Function.uncurry Event.delivered)).reverse ++ s.log := by
  cases h with
  | quiet hmoves => cases hmoves with | clock hmoves => cases hmoves
  | hand hok hhands => cases hhands
  | announce hann => cases hann
  | abort hlock haborts => cases haborts
  | drain hdrain => exact ⟨_, _, hdrain, rfl, rfl⟩

theorem Stretch.moved (h : Moves s k t t') : Stretch s k now outcomes t (s.setTask k t') :=
  .quiet h rfl rfl (.of_state rfl rfl)

theorem advanceWrite_stretch {chunk : Bytes} {pc : WritePc}
    (h : s.advanceWrite k txid chunk now outcomes pc = some s') :
    Stretch s k now outcomes (.sinkWrite txid chunk pc) s' := by
  cases pc with
  | subscribe => cases h; exact .moved (.write .subscribe)
  | readWiring seen =>
    simp only [advanceWrite] at h
    split at h
    · next hw => cases h; exact .moved (.write (.unwired hw))
    · next conn hw => cases h; exact .moved (.write (.wired hw))
  | append seen conn =>
    simp only [advanceWrite] at h
    split at h
    · cases h; exact .moved (.write .park)
    · next hopen =>
      rw [Bool.or_eq_true, not_or, Bool.not_eq_true, Bool.not_eq_true] at hopen
      split at h
      · next frames sender happend => cases h; exact .append hopen.1 hopen.2 happend
      · cases h; exact .moved (.write .park)
      · cases h; exact .moved (.write .fail)
  | parked seen =>
    simp only [advanceWrite] at h
    split at h
    · cases h
    · next hw => cases h; exact .moved (.write (.woken hw))
  | flush conn frames =>
    cases frames with
    | nil => cases h; exact .moved (.write .flushed)
    | cons frame rest =>
      simp only [advanceWrite, attempt] at h
      cases hok : outcomes.headD true with
      | true => rw [hok] at h; cases h; exact .hand hok .write
      | false => rw [hok] at h; cases h; exact .hand hok .writeFails
  | returned ok => cases h

/-- `sink_abort` runs as its own task and inline in `sink_finish`; `t` says
as what. -/
theorem advanceAbort_stretch {pc pc' : AbortPc} (t : AbortPc → Task)
    (hmoves : ∀ {pc pc'}, AbortMoves s pc pc' → Moves s k (t pc) (t pc'))
    (haborts : Aborts txid (t .lock) true (t .readWiring))
    (hfails : Aborts txid (t .lock) false (t (.returned false)))
    (hwrites : ∀ {conn ok}, Announces (t (.write conn)) conn (abortFrame txid) ok
      (t (.returned ok)))
    (h : s.advanceAbort txid outcomes pc = some (s', pc')) :
    Stretch s k now outcomes (t pc) (s'.setTask k (t pc')) := by
  cases pc with
  | lock =>
    simp only [advanceAbort] at h
    split at h
    · next s₁ hlock => cases h; exact .abort hlock haborts
    · next s₁ hlock => cases h; exact .abort hlock hfails
  | readWiring =>
    simp only [advanceAbort] at h
    split at h
    · next hw => cases h; exact .moved (hmoves (.unwired hw))
    · next conn hw => cases h; exact .moved (hmoves (.wired hw))
  | write conn => cases h; exact .announce hwrites
  | returned ok => cases h

/-- A cleanup inside `sink_finish` goes as an abort does. -/
theorem advanceFinish_aborting {pc : AbortPc}
    (h : s.advanceFinish k txid now outcomes (.aborting pc) = some s') :
    Stretch s k now outcomes (.sinkFinish txid (.aborting pc)) s' := by
  have key : ∀ s₁ pc', s.advanceAbort txid outcomes pc = some (s₁, pc') →
      Stretch s k now outcomes (.sinkFinish txid (.ofAbort pc))
        (s₁.setTask k (.sinkFinish txid (.ofAbort pc'))) := fun s₁ pc' hadv =>
    advanceAbort_stretch (fun pc => .sinkFinish txid (.ofAbort pc))
      (fun hm => by cases hm with
        | unwired hw => exact .finish (.abort (.unwired hw))
        | wired hw => exact .finish (.abort (.wired hw)))
      .finish .finishFails .finishAbort hadv
  cases hadv : s.advanceAbort txid outcomes pc with
  | none => simp only [advanceFinish, hadv] at h; cases h
  | some r =>
    obtain ⟨s₁, pc'⟩ := r
    have hpc : FinishPc.ofAbort pc = .aborting pc := by
      cases pc with
      | returned ok => cases hadv
      | lock | readWiring | write conn => rfl
    have hs' : s' = s₁.setTask k (.sinkFinish txid (.ofAbort pc')) := by
      cases pc' <;> simp only [advanceFinish, hadv, Option.some.injEq] at h <;> exact h.symm
    exact hs' ▸ hpc ▸ key s₁ pc' hadv

theorem advanceFinish_stretch {pc : FinishPc}
    (h : s.advanceFinish k txid now outcomes pc = some s') :
    Stretch s k now outcomes (.sinkFinish txid pc) s' := by
  cases pc with
  | fastPath =>
    simp only [advanceFinish] at h
    split at h
    · next hc => cases h; exact .moved (.finish (.pending hc))
    · next hc => cases h; exact .moved (.finish (.absent (Bool.not_eq_true _ ▸ hc)))
  | close =>
    simp only [advanceFinish] at h
    split at h
    · next tail sender hclose => cases h; exact .close hclose
    · next e sender hclose => cases h; exact .closeFails hclose
  | aborting pc => exact advanceFinish_aborting h
  | sampleGate tail =>
    simp only [advanceFinish] at h
    split at h
    · next hg => cases h; exact .moved (.finish (.gated hg))
    · next hg => cases h; exact .moved (.finish (.ungated (Bool.not_eq_true _ ▸ hg)))
  | checkWiring tail seen waited =>
    simp only [advanceFinish] at h
    split at h
    · next conn hw => cases h; exact .moved (.finish (.wired hw))
    · next hw =>
      cases waited with
      | true => cases h; exact .moved (.finish (.giveUp hw))
      | false => cases h; exact .moved (.finish (.park hw))
  | parked tail seen =>
    simp only [advanceFinish] at h
    split at h
    · cases h
    · next hw => cases h; exact .moved (.finish (.woken hw))
  | flush conn tail =>
    cases tail with
    | nil => cases h; exact .moved (.finish .flushed)
    | cons frame rest =>
      simp only [advanceFinish, attempt] at h
      cases hok : outcomes.headD true with
      | true => rw [hok] at h; cases h; exact .hand hok .finish
      | false => rw [hok] at h; cases h; exact .hand hok .finishFails
  | announce =>
    simp only [advanceFinish] at h
    split at h
    · next hw => cases h; exact .moved (.finish (.unannounced hw))
    · next conn hw => cases h; exact .moved (.finish (.announce hw))
  | announceWrite conn => cases h; exact .announce .finish
  | register => cases h; exact .register
  | recheck =>
    simp only [advanceFinish] at h
    split at h
    · next hc => cases h; exact .moved (.finish (.stillPending hc))
    · next hc => cases h; exact .moved (.finish (.gone (Bool.not_eq_true _ ▸ hc)))
  | consume => cases h; exact .consume
  | awaiting =>
    simp only [advanceFinish] at h
    split at h
    · next confirmed hf => cases h; exact .moved (.finish (.fired hf))
    · next hf =>
      split at h
      · cases h
      · cases h; exact .moved (.finish (.dropped hf))
  | returned result => cases h

theorem advancePause_stretch {pc : PausePc} (h : s.advancePause k txid now outcomes pc = some s') :
    Stretch s k now outcomes (.sinkPause txid pc) s' := by
  cases pc with
  | lock =>
    simp only [advancePause] at h
    split at h
    · cases h; exact .moved (.pause .unknown)
    · next sender hpause => cases h; exact .pause hpause
  | readWiring =>
    simp only [advancePause] at h
    split at h
    · next hw => cases h; exact .moved (.pause (.unwired hw))
    · next conn hw => cases h; exact .moved (.pause (.wired hw))
  | write conn => cases h; exact .announce .pause
  | returned ok => cases h

theorem advanceSend_stretch {conn : ℕ}
    {pc : SendPc} (h : s.advanceSend k txid payload cb conn now outcomes pc = some s') :
    Stretch s k now outcomes (.sendBinary txid payload cb conn pc) s' := by
  cases pc with
  | lock =>
    simp only [advanceSend] at h
    split at h
    · next s₁ hlock => cases h; exact .sendFails hlock
    · next frames s₁ hlock => cases h; exact .send hlock
  | flush frames =>
    cases frames with
    | nil => cases h; exact .moved .sendFlushed
    | cons frame rest =>
      simp only [advanceSend, attempt] at h
      cases hok : outcomes.headD true with
      | true => rw [hok] at h; cases h; exact .hand hok .send
      | false => rw [hok] at h; cases h; exact .hand hok .sendFails
  | announce => cases h; exact .announce .send
  | returned ok => cases h

theorem advanceWire_stretch {conn clock : ℕ} {pc : WirePc}
    (h : s.advanceWire k conn clock now pc = some s') :
    Stretch s k now outcomes (.wire conn clock pc) s' := by
  cases pc with
  | check =>
    simp only [advanceWire] at h
    split at h
    · next hw => cases h; exact .moved (.wire (.refused hw))
    · next hw => cases h; exact .moved (.wire (.accepted (Bool.not_eq_true _ ▸ hw)))
  | resetActivity =>
    cases h
    exact .quiet (.wire .resetActivity) rfl rfl ⟨fun h => h, .inl ⟨rfl, rfl, rfl, rfl⟩⟩
  | spawnClock =>
    simp only [advanceWire] at h
    split at h
    · cases h
    · next hfresh =>
      cases h
      exact .spawnClock (Bool.not_eq_true _ ▸ hfresh) rfl rfl (.of_state rfl rfl)
  | hooks => cases h; exact .quiet (.wire .hooks) rfl rfl (.of_state rfl rfl)
  | storeWiring => cases h; exact .quiet (.wire .storeWiring) rfl rfl (.of_state rfl rfl)
  | arm => cases h; exact .arm
  | recover =>
    cases h
    exact .quiet (.wire .recover) rfl rfl ⟨fun h => h, .inr (.inr ⟨rfl, rfl, rfl, rfl⟩)⟩
  | returned ok => cases h

theorem core_unhook (s : Session) : s.unhook.core = s.core := by
  unfold unhook
  split
  · rfl
  · rfl

theorem tasks_unhook (s : Session) : s.unhook.tasks = s.tasks := by
  unfold unhook
  split
  · rfl
  · rfl

theorem idles_unhook (s : Session) : Idles s (s.unhook.setTask k t) := by
  unfold unhook
  split
  · exact .of_state rfl rfl
  · exact .of_state rfl rfl

theorem advanceUnwire_stretch {pc : UnwirePc} (h : s.advanceUnwire k pc = some s') :
    Stretch s k now outcomes (.unwire pc) s' := by
  cases pc with
  | unhook =>
    cases h
    exact .quiet .unwire (core_unhook s) (congrArg (Table.insert · k _) (tasks_unhook s))
      (idles_unhook s)
  | clearWiring => cases h; exact .quiet .unwire rfl rfl (.of_state rfl rfl)
  | stall =>
    cases h
    exact .quiet .unwire rfl rfl ⟨fun h => h, .inr (.inl ⟨rfl, rfl, rfl, rfl⟩)⟩
  | stopClock =>
    simp only [advanceUnwire] at h
    split at h
    · cases h; exact .quiet .unwire rfl rfl (.of_state rfl rfl)
    · next clock hclock =>
      split at h
      · next conn pc hget => cases h; exact .stopClock hget rfl rfl (.of_state rfl rfl) hclock
      · cases h; exact .quiet .unwire rfl rfl (.of_state rfl rfl)
  | returned => cases h

theorem advanceDeclare_stretch {pc : DeclarePc}
    (h : s.advanceDeclare k now outcomes pc = some s') :
    Stretch s k now outcomes (.declarePendingSends pc) s' := by
  cases pc with
  | readWiring =>
    simp only [advanceDeclare] at h
    split at h
    · cases h; exact .moved .declareUnwired
    · next conn hw => cases h; exact .moved (.declareWired hw)
  | snapshot conn =>
    simp only [advanceDeclare] at h
    split at h
    · cases h; exact .snapshot (.inl rfl)
    · cases h; exact .snapshot (.inr rfl)
  | write conn entries => cases h; exact .declare
  | returned => cases h

theorem advanceClock_stretch {conn : ℕ} {pc : ClockPc}
    (h : s.advanceClock k conn now outcomes pc = some s') :
    Stretch s k now outcomes (.clock conn pc) s' := by
  cases pc with
  | idle =>
    simp only [advanceClock] at h
    split at h
    · next hd htick => cases h; exact .tickDead htick
    · next hd htick => cases h; exact .tick htick
  | drain => cases h; exact .drain rfl
  | unhook silent =>
    cases h
    exact .quiet (.clock .unhook) (core_unhook s) (congrArg (Table.insert · k _) (tasks_unhook s))
      (idles_unhook s)
  | clearWiring silent => cases h; exact .quiet (.clock .clearWiring) rfl rfl (.of_state rfl rfl)
  | stall silent =>
    cases h
    exact .quiet (.clock .stall) rfl rfl ⟨fun h => h, .inr (.inl ⟨rfl, rfl, rfl, rfl⟩)⟩
  | disconnect => cases h; exact .quiet (.clock .disconnect) rfl rfl (.of_state rfl rfl)
  | exited => cases h

/-- **The inversion of `advance`.** -/
theorem advance_stretch (h : s.advance k now outcomes t = some s') :
    Stretch s k now outcomes t s' := by
  cases t with
  | sinkWrite txid chunk pc => exact advanceWrite_stretch h
  | sinkFinish txid pc => exact advanceFinish_stretch h
  | sinkAbort txid pc =>
    obtain ⟨⟨s₁, pc'⟩, hadv, rfl⟩ := Option.map_eq_some_iff.1 h
    exact advanceAbort_stretch (.sinkAbort txid) .abort .abort .abortFails .abort hadv
  | sinkPause txid pc => exact advancePause_stretch h
  | sendBinary txid payload cb conn pc => exact advanceSend_stretch h
  | wire conn clock pc => exact advanceWire_stretch h
  | unwire pc => exact advanceUnwire_stretch h
  | declarePendingSends pc => exact advanceDeclare_stretch h
  | clock conn pc => exact advanceClock_stretch h

/-! ## The locked sections of the operations -/

/-- The locked section of an abort. -/
theorem abortLocked_eq (s : Session) (txid : TxId) :
    s.abortLocked txid =
      if s.state.sender.containsTransaction txid then
        (true, (((s.withSender (s.state.sender.abortTransaction txid).2).withCompletions
          (s.state.completions.erase txid)).record (.settled txid .aborted ::
            (s.state.completions.get? txid).toList.map fun cb =>
              Event.fired cb ⟨txid, false⟩)).wakeWriters)
      else (false, (s.withSender (s.state.sender.abortTransaction txid).2).withCompletions
          (s.state.completions.erase txid)) := rfl

theorem sender_of_abortLocked (h : s.abortLocked txid = (existed, s₁)) :
    s₁.state.sender = (s.state.sender.abortTransaction txid).2 := by
  rw [abortLocked_eq] at h
  split at h
  · cases h
    rfl
  · cases h
    rfl

/-- The registration of the caller's callback, where there is one. -/
def registering (s : Session) (k : ℕ) (txid : TxId) : Bool → Session
  | false => s
  | true => (s.withCompletions (s.state.completions.insert txid (.user k))).record
      [.registered txid (.user k)]

/-- What the locked section of `send_binary` can do. -/
inductive SendLocked (s : Session) (k : ℕ) (txid : TxId) (payload : Bytes) (cb : Bool) (now : ℕ) :
    Option (List Frame) × Session → Prop
  | refused : SendLocked s k txid payload cb now (none, s)
  /-- The payload does not fit the cap: the copy opened for it stays. -/
  | stranded {sender : TransactionSender}
      (hopen : s.state.sender.openTransaction txid (UInt32.ofNat payload.length) now =
        (.ok (), sender)) :
      SendLocked s k txid payload cb now (none, (s.withSender sender).record [.opened txid])
  | framed {sender sender₁ sender₂ : TransactionSender} {frames tail : List Frame}
      (hopen : s.state.sender.openTransaction txid (UInt32.ofNat payload.length) now =
        (.ok (), sender))
      (happend : sender.appendChunk txid payload now = (.ok frames, sender₁))
      (hfinish : sender₁.finishTransaction txid now = (.ok tail, sender₂)) :
      SendLocked s k txid payload cb now (some (frames ++ tail),
        (((s.withSender sender).record [.opened txid]).withSender sender₂).registering k txid cb)

/-- A payload that was opened and appended whole always finishes. -/
theorem finishTransaction_of_append {s₀ s₁ s₂ : TransactionSender} {now : ℕ} {frames : List Frame}
    (hopen : s₀.openTransaction txid (UInt32.ofNat payload.length) now = (.ok (), s₁))
    (happend : s₁.appendChunk txid payload now = (.ok frames, s₂)) :
    ∃ tail s₃, s₂.finishTransaction txid now = (.ok tail, s₃) := by
  obtain ⟨-, -, txn, rfl, htotal, -, -, -, hwritten, -⟩ :=
    TransactionSender.openTransaction_ok hopen
  obtain ⟨txn₁, hget, hroom, -, rfl⟩ := TransactionSender.appendChunk_ok happend
  rw [TransactionSender.get?_withPending_insert, Option.some.injEq] at hget
  subst hget
  rw [TransactionSender.finishTransaction_some TransactionSender.get?_withPending_insert]
  have hle : (UInt32.ofNat payload.length).toNat ≤ payload.length := by
    rw [UInt32.toNat_ofNat']
    exact Nat.mod_le _ _
  have hfull : txn.written + payload.length = txn.totalLen.toNat := by
    rw [htotal] at hroom ⊢
    omega
  simp only [PendingTxn.extend_written, PendingTxn.extend_totalLen, PendingTxn.taken_written,
    PendingTxn.taken_totalLen, hfull, ne_eq, not_true_eq_false, if_false]
  exact ⟨_, _, rfl⟩

theorem sendLocked_cases (hlock : s.sendLocked k txid payload cb now = r) :
    SendLocked s k txid payload cb now r := by
  subst hlock
  unfold sendLocked
  split
  · exact .refused
  · split
    · exact .refused
    · next sender hopen =>
      dsimp only
      split
      · exact .stranded hopen
      · next frames sender₁ happend =>
        obtain ⟨tail, sender₂, hfinish⟩ := finishTransaction_of_append hopen happend
        rw [hfinish]
        cases cb with
        | false | true => exact .framed hopen happend hfinish

theorem tasks_of_abortLocked (h : s.abortLocked txid = (existed, s₁)) : s₁.tasks = s.tasks := by
  rw [abortLocked_eq] at h
  split at h <;> cases h <;> rfl

theorem SendLocked.tasks (h : SendLocked s k txid payload cb now r) : r.2.tasks = s.tasks := by
  cases h with
  | refused | stranded hopen => rfl
  | framed hopen happend hfinish => cases cb <;> rfl

/-! ## What a stretch writes -/

/-- The writes among the events of a section are those of its port. -/
theorem mem_events {h : Handling} {conn c : ℕ} {w : Write} :
    .wrote c w ∈ (h.events conn).reverse ↔ c = conn ∧ w ∈ h.port.writes := by
  rw [List.mem_reverse, Handling.events]
  simp only [List.mem_append, List.mem_map, Function.uncurry_def, Event.wrote.injEq, reduceCtorEq,
    and_false, exists_false, or_false]
  constructor
  · rintro ⟨w', hw', rfl, rfl⟩
    exact ⟨rfl, hw'⟩
  · rintro ⟨rfl, hw⟩
    exact ⟨w, hw, rfl, rfl⟩

/-- The locked section of `send_binary` writes nothing. -/
theorem SendLocked.log (h : SendLocked s k txid payload cb now r) :
    ∃ events, r.2.log = events ++ s.log ∧ ∀ conn w, .wrote conn w ∉ events := by
  cases h with
  | refused => exact ⟨[], rfl, fun _ _ => List.not_mem_nil⟩
  | stranded hopen => exact ⟨[.opened txid], rfl, fun _ _ => by simp⟩
  | framed hopen happend hfinish =>
    cases cb with
    | false => exact ⟨[.opened txid], rfl, fun _ _ => by simp⟩
    | true => exact ⟨[.registered txid (.user k), .opened txid], rfl, fun _ _ => by simp⟩

/-- **What a stretch may write**, and to which connection. -/
inductive StretchWrites (s : Session) (now : ℕ) (outcomes : List Bool) : Task → ℕ → Write → Prop
  | handed {t t' : Task} {conn : ℕ} {frame : Frame} {ok : Bool} (h : Hands t conn frame ok t') :
      StretchWrites s now outcomes t conn ⟨.data, frame, ok⟩
  | announced {t t' : Task} {conn : ℕ} {frame : Frame} {ok : Bool}
      (h : Announces t conn frame ok t') :
      StretchWrites s now outcomes t conn ⟨.data, frame, ok⟩
  | declared {conn : ℕ} {entries : List AckEntry} {w : Write}
      (hw : w ∈ ((Handling.start s.state outcomes).sendResumeFrame entries).port.writes) :
      StretchWrites s now outcomes (.declarePendingSends (.write conn entries)) conn w
  | ticked {conn : ℕ} {dead : Bool} {h : Handling} {w : Write}
      (htick : clockTick s.config s.state now outcomes = (dead, h)) (hw : w ∈ h.port.writes) :
      StretchWrites s now outcomes (.clock conn .idle) conn w

theorem Stretch.logs (h : Stretch s k now outcomes t s') :
    ∃ events, s'.log = events ++ s.log ∧
      ∀ conn w, .wrote conn w ∈ events → StretchWrites s now outcomes t conn w := by
  have hsilent : ∀ events : List Event, s'.log = events ++ s.log →
      (∀ conn w, .wrote conn w ∉ events) →
      ∃ events, s'.log = events ++ s.log ∧
        ∀ conn w, .wrote conn w ∈ events → StretchWrites s now outcomes t conn w :=
    fun events hlog hno => ⟨events, hlog, fun conn w hw => absurd hw (hno conn w)⟩
  have hquiet : s'.log = s.log → ∃ events, s'.log = events ++ s.log ∧
      ∀ conn w, .wrote conn w ∈ events → StretchWrites s now outcomes t conn w :=
    fun hlog => hsilent [] hlog fun _ _ => List.not_mem_nil
  cases h with
  | quiet hmoves hsame htasks | spawnClock hfresh hsame htasks | stopClock hclock hsame htasks =>
    exact hquiet (congrArg Core.log hsame)
  | @hand t t' conn frame ok hok hhands =>
    refine ⟨[.wrote conn ⟨.data, frame, ok⟩], rfl, fun c w hw => ?_⟩
    cases List.mem_singleton.1 hw
    exact .handed hhands
  | @announce t t' conn frame ok hann =>
    refine ⟨[.wrote conn ⟨.data, frame, ok⟩], rfl, fun c w hw => ?_⟩
    cases List.mem_singleton.1 hw
    exact .announced hann
  | @abort txid t t' existed s₁ hlock haborts =>
    rw [abortLocked_eq] at hlock
    split at hlock
    · cases hlock
      -- an abort settles and fires, and writes later
      refine hsilent _ rfl fun c w hw => ?_
      rw [List.mem_reverse] at hw
      simp at hw
    · cases hlock
      exact hquiet rfl
  | @register txid => exact hsilent [.registered txid (.finish k)] rfl fun _ _ => by simp
  | send hlock | sendFails hlock =>
    obtain ⟨events, hlog, hno⟩ := (sendLocked_cases hlock).log
    exact hsilent events hlog hno
  | @declare conn entries =>
    refine ⟨_, rfl, fun c w hw => ?_⟩
    obtain ⟨rfl, hmem⟩ := mem_events.1 hw
    exact .declared hmem
  | @tickDead conn h htick | @tick conn h htick =>
    refine ⟨_, rfl, fun c w hw => ?_⟩
    obtain ⟨rfl, hmem⟩ := mem_events.1 hw
    exact .ticked htick hmem
  | @drain conn taken state hdrain =>
    refine hsilent _ rfl fun c w hw => ?_
    rw [List.mem_reverse] at hw
    obtain ⟨d, -, hd⟩ := List.mem_map.1 hw
    cases hd
  | _ => exact hquiet rfl

/-! ## The task table -/

theorem Moves.keepsCall (h : Moves s k t t') : t'.call? = t.call? ∧ t'.unsent = false := by
  cases h <;> exact ⟨rfl, rfl⟩

theorem Hands.keepsCall {conn : ℕ} {frame : Frame} {ok : Bool} (h : Hands t conn frame ok t') :
    t'.call? = t.call? ∧ t'.unsent = false := by
  cases h <;> exact ⟨rfl, rfl⟩

theorem Announces.keepsCall {conn : ℕ} {frame : Frame} {ok : Bool}
    (h : Announces t conn frame ok t') : t'.call? = t.call? ∧ t'.unsent = false := by
  cases h <;> exact ⟨rfl, rfl⟩

theorem Aborts.keepsCall (h : Aborts txid t existed t') :
    t'.call? = t.call? ∧ t'.unsent = false := by
  cases h <;> exact ⟨rfl, rfl⟩

/-- The task keeps its call, and every other task that is not a clock keeps
its place. -/
structure TasksStep (s : Session) (k : ℕ) (t : Task) (s' : Session) (t' : Task) : Prop where
  call : t'.call? = t.call?
  sent : t'.unsent = false
  self : s'.tasks.get? k = some t'
  others : ∀ k', k' ≠ k → s'.tasks.get? k' = s.tasks.get? k' ∨
    (∃ conn pc, s'.tasks.get? k' = some (.clock conn pc)) ∧
      ∀ t₀, s.tasks.get? k' = some t₀ → t₀.call? = none ∧ t₀.unsent = false

theorem TasksStep.of_insert (htasks : s'.tasks = s.tasks.insert k t')
    (hkeeps : t'.call? = t.call? ∧ t'.unsent = false) : TasksStep s k t s' t' :=
  ⟨hkeeps.1, hkeeps.2, by rw [htasks]; exact Table.get?_insert_self _ _ _,
    fun k' hne => .inl (by rw [htasks]; exact Table.get?_insert_of_ne _ _ hne)⟩

theorem TasksStep.of_clock {conn clock : ℕ} {pc : ClockPc}
    (htasks : s'.tasks = (s.tasks.insert clock (.clock conn pc)).insert k t')
    (hkeeps : t'.call? = t.call? ∧ t'.unsent = false)
    (hwas : ∀ t₀, s.tasks.get? clock = some t₀ → t₀.call? = none ∧ t₀.unsent = false) :
    TasksStep s k t s' t' := by
  refine ⟨hkeeps.1, hkeeps.2, by rw [htasks]; exact Table.get?_insert_self _ _ _, ?_⟩
  intro k' hne
  rw [htasks, Table.get?_insert_of_ne _ _ hne, Table.get?_insert]
  split
  · next heq =>
    subst heq
    exact .inr ⟨⟨conn, pc, rfl⟩, hwas⟩
  · exact .inl rfl

theorem Stretch.tasks (h : Stretch s k now outcomes t s') : ∃ t', TasksStep s k t s' t' := by
  cases h with
  | quiet hmoves hsame htasks => exact ⟨_, .of_insert htasks hmoves.keepsCall⟩
  | spawnClock hfresh hsame htasks =>
    refine ⟨_, .of_clock htasks ⟨rfl, rfl⟩ fun t₀ hget => ?_⟩
    rw [Table.contains, hget] at hfresh
    cases hfresh
  | stopClock hclock hsame htasks =>
    refine ⟨_, .of_clock htasks ⟨rfl, rfl⟩ fun t₀ hget => ?_⟩
    rw [hclock, Option.some.injEq] at hget
    exact hget ▸ ⟨rfl, rfl⟩
  | hand hok hhands => exact ⟨_, .of_insert rfl hhands.keepsCall⟩
  | announce hann => exact ⟨_, .of_insert rfl hann.keepsCall⟩
  | append hpaused hgate happend | close hclose | closeFails hclose =>
    exact ⟨_, .of_insert rfl ⟨rfl, rfl⟩⟩
  | abort hlock haborts =>
    have htasks := tasks_of_abortLocked hlock
    exact ⟨_, .of_insert (congrArg (Table.insert · k _) htasks) haborts.keepsCall⟩
  | register | consume | pause hpause => exact ⟨_, .of_insert rfl ⟨rfl, rfl⟩⟩
  | send hlock | sendFails hlock =>
    have htasks := (sendLocked_cases hlock).tasks
    exact ⟨_, .of_insert (congrArg (Table.insert · k _) htasks) ⟨rfl, rfl⟩⟩
  | arm | snapshot hpc | declare | tickDead htick | tick htick | drain hdrain =>
    exact ⟨_, .of_insert rfl ⟨rfl, rfl⟩⟩

/-- A clock is moved by its own stretches and stopped by an unwire. -/
theorem Stretch.clock_kept (h : Stretch s k now outcomes t s') {k' conn : ℕ} {pc : ClockPc}
    (hne : k' ≠ k) (hget : s.tasks.get? k' = some (.clock conn pc)) :
    s'.tasks.get? k' = some (.clock conn pc) ∨ t = .unwire .stopClock ∧ s.clock = some k' := by
  have hinsert : ∀ {tasks : Table ℕ Task} {t' : Task}, tasks = s.tasks →
      (tasks.insert k t').get? k' = some (.clock conn pc) := by
    rintro tasks t' rfl
    exact (Table.get?_insert_of_ne _ _ hne).trans hget
  cases h with
  | quiet hmoves hsame htasks =>
    rw [htasks]
    exact .inl (hinsert rfl)
  | @spawnClock conn' clock s' hfresh hsame htasks =>
    have hother := Table.ne_of_fresh hget hfresh
    rw [htasks, Table.get?_insert_of_ne _ _ hne, Table.get?_insert_of_ne _ _ hother]
    exact .inl hget
  | @stopClock conn' clock pc' s' hclock hsame htasks hidles hstop =>
    by_cases hk : k' = clock
    · exact .inr ⟨rfl, hk ▸ hstop⟩
    · rw [htasks, Table.get?_insert_of_ne _ _ hne, Table.get?_insert_of_ne _ _ hk]
      exact .inl hget
  | abort hlock haborts => exact .inl (hinsert (tasks_of_abortLocked hlock))
  | send hlock | sendFails hlock => exact .inl (hinsert (sendLocked_cases hlock).tasks)
  | _ => exact .inl (hinsert rfl)

/-- The frame an action brings in. -/
def Action.arrival : Action → List Event
  | .inbound conn frame _ _ => [.inbound conn frame]
  | _ => []

/-- **What a step can do.** -/
inductive Steps (s : Session) : Action → Session → Prop
  /-- Nothing happens to a transfer. -/
  | idle {a : Action} {s' : Session} (hsame : s'.core = s.core) (htasks : s'.tasks = s.tasks)
      (hquiet : a.arrival = []) (hidles : Idles s s') : Steps s a s'
  | opened {txid : TxId} {totalLen : UInt32} {now : ℕ} {sender : TransactionSender}
      (hopen : s.state.sender.openTransaction txid totalLen now = (.ok (), sender)) :
      Steps s (.openBinarySink txid totalLen now)
        (({ s with sinks := insert txid s.sinks }.withSender sender).record [.opened txid])
  | unpaused {txid : TxId} {now : ℕ} {sender : TransactionSender}
      (hpaused : s.state.sender.setPaused txid false now = (true, sender)) :
      Steps s (.sinkResume txid now) (s.withSender sender).wakeWriters
  | started {k : ℕ} {call : Call} (hfresh : s.tasks.contains k = false)
      (hcall : s.callable call = true) : Steps s (.start k call) (s.setTask k call.task)
  | advanced {k now : ℕ} {outcomes : List Bool} {t : Task} {s' : Session}
      (hget : s.tasks.get? k = some t) (hstretch : Stretch s k now outcomes t s') :
      Steps s (.advance k now outcomes) s'
  | received {conn : ℕ} {frame : Frame} {now : ℕ} {outcomes : List Bool}
      (hconn : conn ∈ s.hooked) :
      Steps s (.inbound conn frame now outcomes) (s.receive conn frame now outcomes)
  | sawClosed {k conn : ℕ} (hget : s.tasks.get? k = some (.clock conn .idle)) :
      Steps s (.seeClosed k) (s.setTask k (.clock conn (.unhook false)))

/-- **The inversion of `step`.** -/
theorem step_steps {a : Action} (h : step s a = some s') : Steps s a s' := by
  cases a with
  | openBinarySink txid totalLen now =>
    simp only [step] at h
    split at h
    · cases h; exact .idle rfl rfl rfl (.of_state rfl rfl)
    · next sender hopen => cases h; exact .opened hopen
  | sinkResume txid now =>
    simp only [step] at h
    split at h
    · cases h; exact .idle rfl rfl rfl (.of_state rfl rfl)
    · next sender hpaused => cases h; exact .unpaused hpaused
  | start k call =>
    simp only [step] at h
    split at h
    · cases h
    · next hok =>
      rw [Bool.or_eq_true, not_or, Bool.not_eq_true, Bool.not_eq_true, Bool.not_eq_false'] at hok
      cases h
      exact .started hok.1 hok.2
  | advance k now outcomes =>
    obtain ⟨t, hget, hadv⟩ := Option.bind_eq_some_iff.1 h
    exact .advanced hget (advance_stretch hadv)
  | inbound conn frame now outcomes =>
    simp only [step] at h
    split at h
    · next hconn => cases h; exact .received hconn
    · cases h
  | activity now => cases h; exact .idle rfl rfl rfl ⟨fun h => h, .inl ⟨rfl, rfl, rfl, rfl⟩⟩
  | onBinary => cases h; exact .idle rfl rfl rfl ⟨fun _ => rfl, .inl ⟨rfl, rfl, rfl, rfl⟩⟩
  | onBinaryStream | close conn => cases h; exact .idle rfl rfl rfl (.of_state rfl rfl)
  | seeClosed k =>
    simp only [step] at h
    split at h
    · next conn hget =>
      split at h
      · cases h; exact .sawClosed hget
      · cases h
    · cases h

theorem receive_log (s : Session) (conn : ℕ) (frame : Frame) (now : ℕ) (outcomes : List Bool) :
    (s.receive conn frame now outcomes).log =
      ((handleInbound s.state frame s.binaryHandler s.streamHandler now outcomes).events
        conn).reverse ++ [.inbound conn frame] ++ s.log := by
  unfold receive
  dsimp only
  rw [List.append_assoc]
  split <;> rfl

theorem receive_state (s : Session) (conn : ℕ) (frame : Frame) (now : ℕ) (outcomes : List Bool) :
    (s.receive conn frame now outcomes).state =
      (handleInbound s.state frame s.binaryHandler s.streamHandler now outcomes).st := by
  unfold receive
  dsimp only
  split <;> rfl

theorem tasks_receive (s : Session) (conn : ℕ) (frame : Frame) (now : ℕ) (outcomes : List Bool) :
    (s.receive conn frame now outcomes).tasks = s.tasks := by
  unfold receive
  dsimp only
  split <;> rfl

/-- How a task comes to stand where it does after a step. -/
inductive TaskStep (s : Session) (k : ℕ) (t' : Task) (s' : Session) : Action → Prop
  | stood {a : Action} (hget : s.tasks.get? k = some t') : TaskStep s k t' s' a
  | started {call : Call} (hcall : s.callable call = true) (ht : t' = call.task) :
      TaskStep s k t' s' (.start k call)
  | advanced {now : ℕ} {outcomes : List Bool} {t : Task} (hget : s.tasks.get? k = some t)
      (hstretch : Stretch s k now outcomes t s') : TaskStep s k t' s' (.advance k now outcomes)
  | clock {a : Action} {conn : ℕ} {pc : ClockPc} (ht : t' = .clock conn pc) : TaskStep s k t' s' a

/-- **A task stood there, was started, or took a stretch**, clocks apart:
others start and stop them. -/
theorem step_task {a : Action} (h : step s a = some s') (hget' : s'.tasks.get? k = some t') :
    TaskStep s k t' s' a := by
  cases step_steps h with
  | idle hcore htasks => exact .stood (htasks ▸ hget')
  | opened hopen | unpaused hpaused => exact .stood hget'
  | @started k₁ call hfresh hcall =>
    by_cases hk : k = k₁
    · subst hk
      exact .started hcall (Option.some.inj (hget'.symm.trans (Table.get?_insert_self _ _ _)))
    · exact .stood ((Table.get?_insert_of_ne _ _ hk).symm.trans hget')
  | @advanced k₁ now outcomes t s' hget hstretch =>
    by_cases hk : k = k₁
    · subst hk
      exact .advanced hget hstretch
    · obtain ⟨t₁, hts⟩ := hstretch.tasks
      rcases hts.others k hk with heq | ⟨⟨conn, pc, heq⟩, -⟩
      · exact .stood (heq.symm.trans hget')
      · exact .clock (Option.some.inj (hget'.symm.trans heq))
  | received hconn =>
    rw [s.tasks_receive] at hget'
    exact .stood hget'
  | @sawClosed k₁ conn hclock =>
    by_cases hk : k = k₁
    · subst hk
      exact .clock (Option.some.inj (hget'.symm.trans (Table.get?_insert_self _ _ _)))
    · exact .stood ((Table.get?_insert_of_ne _ _ hk).symm.trans hget')

/-- **A task stays, with its call.** -/
theorem tasks_persist {a : Action} (h : step s a = some s') (hget : s.tasks.get? k = some t) :
    ∃ t', s'.tasks.get? k = some t' ∧ t'.call? = t.call? ∧
      (t.unsent = false → t'.unsent = false) := by
  have hsame : s'.tasks = s.tasks → ∃ t', s'.tasks.get? k = some t' ∧ t'.call? = t.call? ∧
      (t.unsent = false → t'.unsent = false) := fun htasks =>
    ⟨t, by rw [htasks]; exact hget, rfl, fun h => h⟩
  cases step_steps h with
  | idle hcore htasks => exact hsame htasks
  | opened hopen | unpaused hpaused => exact hsame rfl
  | @started k' call hfresh hcall =>
    have hne := Table.ne_of_fresh hget hfresh
    exact ⟨t, (Table.get?_insert_of_ne _ _ hne).trans hget, rfl, fun h => h⟩
  | @advanced k' now outcomes t₁ s' hget₁ hstretch =>
    obtain ⟨t', hts⟩ := hstretch.tasks
    by_cases hk : k = k'
    · subst hk
      rw [hget, Option.some.injEq] at hget₁
      exact ⟨t', hts.self, hget₁ ▸ hts.call, fun _ => hts.sent⟩
    · rcases hts.others k hk with heq | ⟨⟨conn, pc, heq⟩, hwas⟩
      · exact ⟨t, heq.trans hget, rfl, fun h => h⟩
      · exact ⟨_, heq, (hwas t hget).1.symm, fun _ => rfl⟩
  | received hconn => exact hsame (s.tasks_receive _ _ _ _)
  | @sawClosed k' conn hclock =>
    by_cases hk : k = k'
    · subst hk
      rw [hget, Option.some.injEq] at hclock
      subst hclock
      exact ⟨_, Table.get?_insert_self _ _ _, rfl, fun _ => rfl⟩
    · exact ⟨t, (Table.get?_insert_of_ne _ _ hk).trans hget, rfl, fun h => h⟩

/-- **Where a task comes from**: it was there with its call, a caller
started it just now, or it is a clock. -/
theorem tasks_origin {a : Action} (h : step s a = some s') {t' : Task}
    (hget' : s'.tasks.get? k = some t') :
    (∃ t, s.tasks.get? k = some t ∧ t'.call? = t.call?) ∨ t'.call? = none ∨
      ∃ call, a = .start k call ∧ s.callable call = true ∧ t' = call.task := by
  cases hget : s.tasks.get? k with
  | some t =>
    obtain ⟨t'', hget'', hcall, -⟩ := tasks_persist h hget
    rw [hget', Option.some.injEq] at hget''
    exact .inl ⟨t, rfl, hget'' ▸ hcall⟩
  | none =>
    refine .inr ?_
    cases step_task h hget' with
    | stood hget₁ =>
      rw [hget] at hget₁
      cases hget₁
    | started hcall ht => exact .inr ⟨_, rfl, hcall, ht⟩
    | advanced hget₁ hstretch =>
      rw [hget] at hget₁
      cases hget₁
    | clock ht => exact .inl (ht ▸ rfl)

/-! ## A call on its own -/

/-- **What the stretches of a call keep holds at its end**, where no other
task runs beside it. -/
theorem call_induct {I : Session → Prop} {call : Call} {acts : List Action}
    (hstep : ∀ t now outcomes t', I t → step t (.advance k now outcomes) = some t' → I t')
    (hstart : I (s.setTask k call.task))
    (hown : ∀ a ∈ acts, ∃ now outcomes, a = .advance k now outcomes)
    (hrun : run step s (.start k call :: acts) = some s') : I s' := by
  obtain ⟨s₁, hs₁, hrest⟩ := run_cons_eq_some.1 hrun
  have hcalled : I s₁ := by
    rw [step] at hs₁
    split at hs₁
    · cases hs₁
    · cases hs₁
      exact hstart
  refine run_induct_of (C := fun _ a => ∃ now outcomes, a = .advance k now outcomes) ?_ hcalled
    (.of_mem fun a ha _ => hown a ha) hrest
  rintro t a t' ht ⟨now, outcomes, rfl⟩ hadvance
  exact hstep t now outcomes t' ht hadvance

end Session

end Transfer

end Xacpp
