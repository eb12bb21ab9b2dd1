import Xacpp.Common.Run
import Xacpp.Transfer.Model.Task
/-!
# A session and its tasks

`Session.step` is the session as a transition system: a caller starts an
operation, a task runs to its next suspension point, an inbound frame is
handled, a connection ends. Which task runs next and which transport
writes succeed is part of the action, so a run is a list of actions.

Connections and tasks are numbered. `log` is the history, newest first.
-/

namespace Xacpp

namespace Transfer

open Reliability

/-- What a locked section did, in order. -/
def Handling.events (conn : ℕ) (h : Handling) : List Event :=
  h.port.writes.map (Event.wrote conn) ++
    (h.settled.map (Function.uncurry Event.settled) ++
      (h.opened.toList.map (Function.uncurry Event.streamOpened) ++
        (h.delivered.map (Function.uncurry Event.delivered) ++
          h.completions.map (Function.uncurry Event.fired))))

/-- The session core, its tasks and the history. -/
structure Session where
  config : TransferConfig
  state : SessionState
  binaryHandler : Bool
  streamHandler : Bool
  /-- The wake surface parked writers watch. -/
  watch : ℕ
  /-- The wired transport. -/
  wiring : Option ℕ
  /-- Transports that route inbound frames here. -/
  hooked : Finset ℕ
  /-- Transports whose connection has ended. -/
  closed : Finset ℕ
  /-- The clock task to abort on unwire. -/
  clock : Option ℕ
  tasks : Table ℕ Task
  /-- Transactions a sink handle exists for. -/
  sinks : Finset TxId
  log : List Event

namespace Session

/-- A new session. -/
def new (config : TransferConfig) (now : ℕ) : Session where
  config := config
  state := .new config now
  binaryHandler := false
  streamHandler := false
  watch := 0
  wiring := none
  hooked := ∅
  closed := ∅
  clock := none
  tasks := ∅
  sinks := ∅
  log := []

variable (s : Session)

def setTask (k : ℕ) (task : Task) : Session := { s with tasks := s.tasks.insert k task }

def withSender (sender : TransactionSender) : Session :=
  { s with state := s.state.withSender sender }

def withCompletions (completions : Table TxId Callback) : Session :=
  { s with state := s.state.withCompletions completions }

/-- Add events, in the order they happened. -/
def record (events : List Event) : Session := { s with log := events.reverse ++ s.log }

/-- Bump the wake surface. -/
def wakeWriters : Session := { s with watch := s.watch + 1 }

/-- One transport write; the head of the outcomes says whether it
succeeds. -/
def attempt (conn : ℕ) (channel : Channel) (frame : Frame) (outcomes : List Bool) :
    Bool × Session :=
  let ok := outcomes.headD true
  (ok, s.record [.wrote conn ⟨channel, frame, ok⟩])

/-- What a locked section left, and what is done after the lock. -/
def absorb (conn : ℕ) (h : Handling) : Session :=
  { s with state := h.st }.record (h.events conn)

/-! ## Sending -/

/-- One stretch of `sink_write`. -/
def advanceWrite (k : ℕ) (txid : TxId) (chunk : Bytes) (now : ℕ) (outcomes : List Bool) :
    WritePc → Option Session
  | .subscribe => some (s.setTask k (.sinkWrite txid chunk (.readWiring s.watch)))
  | .readWiring seen =>
    match s.wiring with
    | none => some (s.setTask k (.sinkWrite txid chunk (.parked seen)))
    | some conn => some (s.setTask k (.sinkWrite txid chunk (.append seen conn)))
  | .append seen conn =>
    if s.state.sender.isTransactionPaused txid || s.state.sender.isAwaitingResume txid then
      some (s.setTask k (.sinkWrite txid chunk (.parked seen)))
    else
      match s.state.sender.appendChunk txid chunk now with
      | (.ok frames, sender) =>
        some ((s.withSender sender).setTask k (.sinkWrite txid chunk (.flush conn frames)))
      | (.error (.backpressured ..), _) =>
        some (s.setTask k (.sinkWrite txid chunk (.parked seen)))
      | (.error _, _) => some (s.setTask k (.sinkWrite txid chunk (.returned false)))
  | .parked seen =>
    if s.watch = seen then none else some (s.setTask k (.sinkWrite txid chunk .subscribe))
  | .flush _ [] => some (s.setTask k (.sinkWrite txid chunk (.returned true)))
  | .flush conn (frame :: rest) =>
    match s.attempt conn .data frame outcomes with
    | (true, s) => some (s.setTask k (.sinkWrite txid chunk (.flush conn rest)))
    -- the connection is dying: the chunk is accepted, the frames stay held
    | (false, s) => some (s.setTask k (.sinkWrite txid chunk (.returned true)))
  | .returned _ => none

/-- The locked section of `sink_abort` and what follows without suspension:
the copy is released and its callback fires unconfirmed. `false` where
there was no copy; a callback registered then is dropped. -/
def abortLocked (txid : TxId) : Bool × Session :=
  let (existed, sender) := s.state.sender.abortTransaction txid
  let callback := s.state.completions.get? txid
  let s := (s.withSender sender).withCompletions (s.state.completions.erase txid)
  if existed then
    let fired := callback.toList.map fun cb => Event.fired cb ⟨txid, false⟩
    (true, (s.record (.settled txid .aborted :: fired)).wakeWriters)
  else (false, s)

/-- One stretch of `sink_abort`. -/
def advanceAbort (txid : TxId) (outcomes : List Bool) : AbortPc → Option (Session × AbortPc)
  | .lock =>
    match s.abortLocked txid with
    | (true, s) => some (s, .readWiring)
    | (false, s) => some (s, .returned false)
  | .readWiring =>
    match s.wiring with
    | none => some (s, .returned false)
    | some conn => some (s, .write conn)
  | .write conn =>
    let (ok, s) := s.attempt conn .data (abortFrame txid) outcomes
    some (s, .returned ok)
  | .returned _ => none

/-- The result the task's oneshot was sent. -/
def firedResult (k : ℕ) : Option Bool :=
  s.log.findSome? fun
    | .fired (.finish k') result => if k' = k then some result.confirmed else none
    | _ => none

/-- One stretch of `sink_finish`. -/
def advanceFinish (k : ℕ) (txid : TxId) (now : ℕ) (outcomes : List Bool) :
    FinishPc → Option Session
  | .fastPath =>
    -- not in pending is read as released by the final ACK
    if s.state.sender.containsTransaction txid then
      some (s.setTask k (.sinkFinish txid .close))
    else some (s.setTask k (.sinkFinish txid (.returned (some true))))
  | .close =>
    match s.state.sender.finishTransaction txid now with
    | (.ok tail, sender) =>
      some ((s.withSender sender).setTask k (.sinkFinish txid (.sampleGate tail)))
    | (.error _, sender) =>
      some ((s.withSender sender).setTask k (.sinkFinish txid (.aborting .lock)))
  | .aborting pc =>
    match s.advanceAbort txid outcomes pc with
    | none => none
    | some (s, .returned _) => some (s.setTask k (.sinkFinish txid (.returned none)))
    | some (s, pc) => some (s.setTask k (.sinkFinish txid (.aborting pc)))
  | .sampleGate tail =>
    if s.state.sender.isAwaitingResume txid then some (s.setTask k (.sinkFinish txid .register))
    else some (s.setTask k (.sinkFinish txid (.checkWiring tail s.watch false)))
  | .checkWiring tail seen waited =>
    match s.wiring with
    | some conn => some (s.setTask k (.sinkFinish txid (.flush conn tail)))
    | none =>
      if waited then some (s.setTask k (.sinkFinish txid .register))
      else some (s.setTask k (.sinkFinish txid (.parked tail seen)))
  | .parked tail seen =>
    if s.watch = seen then none
    else some (s.setTask k (.sinkFinish txid (.checkWiring tail seen true)))
  | .flush _ [] => some (s.setTask k (.sinkFinish txid .announce))
  | .flush conn (frame :: rest) =>
    match s.attempt conn .data frame outcomes with
    | (true, s) => some (s.setTask k (.sinkFinish txid (.flush conn rest)))
    | (false, s) => some (s.setTask k (.sinkFinish txid .register))
  | .announce =>
    match s.wiring with
    | none => some (s.setTask k (.sinkFinish txid .register))
    | some conn => some (s.setTask k (.sinkFinish txid (.announceWrite conn)))
  | .announceWrite conn =>
    let (_, s) := s.attempt conn .data (completedFrame txid) outcomes
    some (s.setTask k (.sinkFinish txid .register))
  | .register =>
    some (((s.withCompletions (s.state.completions.insert txid (.finish k))).record
      [.registered txid (.finish k)]).setTask k (.sinkFinish txid .recheck))
  | .recheck =>
    -- the same reading of absence, after the registration
    if s.state.sender.containsTransaction txid then
      some (s.setTask k (.sinkFinish txid .awaiting))
    else some (s.setTask k (.sinkFinish txid .consume))
  | .consume =>
    some ((s.withCompletions (s.state.completions.erase txid)).setTask k
      (.sinkFinish txid (.returned (some true))))
  | .awaiting =>
    match s.firedResult k with
    | some confirmed => some (s.setTask k (.sinkFinish txid (.returned (some confirmed))))
    | none =>
      -- a callback that was dropped unfired fails the wait
      if s.state.completions.get? txid = some (.finish k) then none
      else some (s.setTask k (.sinkFinish txid (.returned none)))
  | .returned _ => none

/-- One stretch of `sink_pause`. -/
def advancePause (k : ℕ) (txid : TxId) (now : ℕ) (outcomes : List Bool) :
    PausePc → Option Session
  | .lock =>
    match s.state.sender.setPaused txid true now with
    | (false, _) => some (s.setTask k (.sinkPause txid (.returned false)))
    | (true, sender) => some ((s.withSender sender).setTask k (.sinkPause txid .readWiring))
  | .readWiring =>
    match s.wiring with
    | none => some (s.setTask k (.sinkPause txid (.returned false)))
    | some conn => some (s.setTask k (.sinkPause txid (.write conn)))
  | .write conn =>
    let (ok, s) := s.attempt conn .data (pauseFrame txid) outcomes
    some (s.setTask k (.sinkPause txid (.returned ok)))
  | .returned _ => none

/-- The locked section of `send_binary`: the frames to write, or `none`
where it fails. A copy opened before the failure stays. -/
def sendLocked (k : ℕ) (txid : TxId) (payload : Bytes) (onComplete : Bool) (now : ℕ) :
    Option (List Frame) × Session :=
  if s.state.sender.isPaused then (none, s)
  else
    match s.state.sender.openTransaction txid (UInt32.ofNat payload.length) now with
    | (.error _, _) => (none, s)
    | (.ok (), sender) =>
      let s := (s.withSender sender).record [.opened txid]
      match s.state.sender.appendChunk txid payload now with
      | (.error _, _) => (none, s)
      | (.ok frames, sender) =>
        match sender.finishTransaction txid now with
        | (.error _, sender) => (none, s.withSender sender)
        | (.ok tail, sender) =>
          let s := s.withSender sender
          if onComplete then
            (some (frames ++ tail), (s.withCompletions
              (s.state.completions.insert txid (.user k))).record [.registered txid (.user k)])
          else (some (frames ++ tail), s)

/-- One stretch of `send_binary`. -/
def advanceSend (k : ℕ) (txid : TxId) (payload : Bytes) (onComplete : Bool) (conn : ℕ)
    (now : ℕ) (outcomes : List Bool) : SendPc → Option Session
  | .lock =>
    match s.sendLocked k txid payload onComplete now with
    | (none, s) => some (s.setTask k (.sendBinary txid payload onComplete conn (.returned false)))
    | (some frames, s) =>
      some (s.setTask k (.sendBinary txid payload onComplete conn (.flush frames)))
  | .flush [] => some (s.setTask k (.sendBinary txid payload onComplete conn .announce))
  | .flush (frame :: rest) =>
    match s.attempt conn .data frame outcomes with
    | (true, s) => some (s.setTask k (.sendBinary txid payload onComplete conn (.flush rest)))
    | (false, s) =>
      some (s.setTask k (.sendBinary txid payload onComplete conn (.returned false)))
  | .announce =>
    let (ok, s) := s.attempt conn .data (completedFrame txid) outcomes
    some (s.setTask k (.sendBinary txid payload onComplete conn (.returned ok)))
  | .returned _ => none

/-! ## Wiring -/

/-- One stretch of `TransferSession::wire`. -/
def advanceWire (k conn clock : ℕ) (now : ℕ) : WirePc → Option Session
  | .check =>
    if s.wiring.isSome then some (s.setTask k (.wire conn clock (.returned false)))
    else some (s.setTask k (.wire conn clock .resetActivity))
  | .resetActivity =>
    some ({ s with state := s.state.touch now }.setTask k
      (.wire conn clock .spawnClock))
  | .spawnClock =>
    if s.tasks.contains clock then none
    else
      some (({ s with clock := some clock }.setTask clock (.clock conn .idle)).setTask k
        (.wire conn clock .hooks))
  | .hooks =>
    some ({ s with hooked := insert conn s.hooked }.setTask k (.wire conn clock .storeWiring))
  | .storeWiring =>
    some ({ s with wiring := some conn }.setTask k (.wire conn clock .arm))
  | .arm =>
    some ((s.withSender (s.state.sender.declarePending now).2).setTask k
      (.wire conn clock .recover))
  | .recover =>
    some ({ s with state := s.state.onStreams StreamInner.clearStalled }.wakeWriters.setTask k
      (.wire conn clock (.returned true)))
  | .returned _ => none

/-- `detach_connection`, first half: unregister the wired transport's
hooks. -/
def unhook : Session :=
  match s.wiring with
  | none => s
  | some conn => { s with hooked := s.hooked.erase conn }

/-- `detach_connection`, second half: drop the wiring. -/
def clearWiring : Session := { s with wiring := none }

def stall : Session := { s with state := s.state.stallStreams }

/-- One stretch of `TransferSession::unwire`. -/
def advanceUnwire (k : ℕ) : UnwirePc → Option Session
  | .unhook => some (s.unhook.setTask k (.unwire .clearWiring))
  | .clearWiring => some (s.clearWiring.setTask k (.unwire .stall))
  | .stall => some (s.stall.setTask k (.unwire .stopClock))
  | .stopClock =>
    match s.clock with
    | none => some (s.setTask k (.unwire .returned))
    | some c =>
      match s.tasks.get? c with
      | some (.clock conn _) =>
        some (({ s with clock := none }.setTask c (.clock conn .exited)).setTask k
          (.unwire .returned))
      | _ => some ({ s with clock := none }.setTask k (.unwire .returned))
  | .returned => none

/-- One stretch of `declare_pending_sends`. -/
def advanceDeclare (k : ℕ) (now : ℕ) (outcomes : List Bool) : DeclarePc → Option Session
  | .readWiring =>
    match s.wiring with
    | none => some (s.setTask k (.declarePendingSends .returned))
    | some conn => some (s.setTask k (.declarePendingSends (.snapshot conn)))
  | .snapshot conn =>
    let (entries, sender) := s.state.sender.declarePending now
    if entries.isEmpty then
      some ((s.withSender sender).setTask k (.declarePendingSends .returned))
    else some ((s.withSender sender).setTask k (.declarePendingSends (.write conn entries)))
  | .write conn entries =>
    some ((s.absorb conn ((Handling.start s.state outcomes).sendResumeFrame entries)).setTask k
      (.declarePendingSends .returned))
  | .returned => none

/-- One stretch of `run_clock`. -/
def advanceClock (k conn : ℕ) (now : ℕ) (outcomes : List Bool) : ClockPc → Option Session
  | .idle =>
    match clockTick s.config s.state now outcomes with
    | (true, h) => some ((s.absorb conn h).setTask k (.clock conn (.unhook true)))
    | (false, h) => some ((s.absorb conn h).wakeWriters.setTask k (.clock conn .drain))
  | .drain =>
    let (taken, state) := drainCompleted s.state s.binaryHandler
    some (({ s with state := state }.record
      (taken.map (Function.uncurry Event.delivered))).setTask k
      (.clock conn .idle))
  | .unhook silent => some (s.unhook.setTask k (.clock conn (.clearWiring silent)))
  | .clearWiring silent => some (s.clearWiring.setTask k (.clock conn (.stall silent)))
  | .stall silent =>
    some (s.stall.setTask k (.clock conn (if silent then .disconnect else .exited)))
  | .disconnect =>
    some ({ s with closed := insert conn s.closed }.setTask k (.clock conn .exited))
  | .exited => none

/-! ## The transition system -/

inductive Action
  | openBinarySink (txid : TxId) (totalLen : UInt32) (now : ℕ)
  | sinkResume (txid : TxId) (now : ℕ)
  /-- A caller starts an operation as task `k`. -/
  | start (k : ℕ) (call : Call)
  /-- Task `k` runs to its next suspension point. -/
  | advance (k : ℕ) (now : ℕ) (outcomes : List Bool)
  | inbound (conn : ℕ) (frame : Frame) (now : ℕ) (outcomes : List Bool)
  /-- An envelope frame arrived: the peer is alive. -/
  | activity (now : ℕ)
  | onBinary
  | onBinaryStream
  /-- A connection ends. -/
  | close (conn : ℕ)
  /-- The clock task `k` sees that its connection has ended. -/
  | seeClosed (k : ℕ)
deriving DecidableEq

/-- Sink operations need the handle; an abort is allowed for every id. -/
def callable : Call → Bool
  | .sinkWrite txid _ | .sinkFinish txid | .sinkPause txid => decide (txid ∈ s.sinks)
  | .sinkAbort _ | .sendBinary .. | .wire .. | .unwire | .declarePendingSends => true

def advance (k : ℕ) (now : ℕ) (outcomes : List Bool) : Task → Option Session
  | .sinkWrite txid chunk pc => s.advanceWrite k txid chunk now outcomes pc
  | .sinkFinish txid pc => s.advanceFinish k txid now outcomes pc
  | .sinkAbort txid pc =>
    (s.advanceAbort txid outcomes pc).map fun r => r.1.setTask k (.sinkAbort txid r.2)
  | .sinkPause txid pc => s.advancePause k txid now outcomes pc
  | .sendBinary txid payload onComplete conn pc =>
    s.advanceSend k txid payload onComplete conn now outcomes pc
  | .wire conn clock pc => s.advanceWire k conn clock now pc
  | .unwire pc => s.advanceUnwire k pc
  | .declarePendingSends pc => s.advanceDeclare k now outcomes pc
  | .clock conn pc => s.advanceClock k conn now outcomes pc

/-- The handling of one inbound frame, and what is done after the lock. -/
def receive (conn : ℕ) (frame : Frame) (now : ℕ) (outcomes : List Bool) : Session :=
  let h := handleInbound s.state frame s.binaryHandler s.streamHandler now outcomes
  let s := (s.record [.inbound conn frame]).absorb conn h
  if frame.frameType = .ack ∨ frame.frameType = .resumeResponse then s.wakeWriters else s

/-- The session as a transition system. -/
def step (s : Session) : Action → Option Session
  | .openBinarySink txid totalLen now =>
    match s.state.sender.openTransaction txid totalLen now with
    | (.error _, _) => some s
    | (.ok (), sender) =>
      some ({ s with sinks := insert txid s.sinks }.withSender sender |>.record [.opened txid])
  | .sinkResume txid now =>
    match s.state.sender.setPaused txid false now with
    | (false, _) => some s
    | (true, sender) => some (s.withSender sender).wakeWriters
  | .start k call =>
    if s.tasks.contains k || !s.callable call then none else some (s.setTask k call.task)
  | .advance k now outcomes => (s.tasks.get? k).bind (s.advance k now outcomes)
  | .inbound conn frame now outcomes =>
    if conn ∈ s.hooked then some (s.receive conn frame now outcomes) else none
  | .activity now => some { s with state := s.state.touch now }
  | .onBinary => some { s with binaryHandler := true }
  | .onBinaryStream => some { s with streamHandler := true }
  | .close conn => some { s with closed := insert conn s.closed }
  | .seeClosed k =>
    match s.tasks.get? k with
    | some (.clock conn .idle) =>
      if conn ∈ s.closed then some (s.setTask k (.clock conn (.unhook false))) else none
    | _ => none

/-- One `wire` call that nothing interrupts. -/
def wireUp (k conn clock now : ℕ) : List Action :=
  .start k (.wire conn clock) :: List.replicate 7 (.advance k now [])

end Session

end Transfer

end Xacpp
