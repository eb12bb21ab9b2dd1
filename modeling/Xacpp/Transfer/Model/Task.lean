import Xacpp.Transfer.Model.Clock
/-!
# Tasks of a session

The session's operations are asynchronous, so what is atomic is the stretch
between two suspension points: a locked section, one read of the wiring,
one transport write. Each operation is a task with a program counter that
says which stretch comes next and carries the locals it needs. Callbacks
fire in the stretch that takes them out of the table.
-/

namespace Xacpp

namespace Transfer

/-- `sink_write`. -/
inductive WritePc
  /-- The loop head: subscribe to the wake surface. -/
  | subscribe
  | readWiring (seen : ℕ)
  /-- The locked section: gate, pause and cap checks, then the append. -/
  | append (seen conn : ℕ)
  /-- Parked until the wake surface moves on from `seen`. -/
  | parked (seen : ℕ)
  | flush (conn : ℕ) (frames : List Frame)
  | returned (ok : Bool)
deriving DecidableEq

/-- `sink_abort`. -/
inductive AbortPc
  | lock
  | readWiring
  | write (conn : ℕ)
  | returned (ok : Bool)
deriving DecidableEq

/-- `sink_finish`. The result is `none` for an error and the `confirmed`
flag otherwise. -/
inductive FinishPc
  | fastPath
  | close
  /-- The frame sequence could not be closed: `sink_abort`, inline. -/
  | aborting (pc : AbortPc)
  | sampleGate (tail : List Frame)
  | checkWiring (tail : List Frame) (seen : ℕ) (waited : Bool)
  | parked (tail : List Frame) (seen : ℕ)
  | flush (conn : ℕ) (tail : List Frame)
  | announce
  | announceWrite (conn : ℕ)
  | register
  | recheck
  | consume
  | awaiting
  | returned (result : Option Bool)
deriving DecidableEq

/-- `sink_pause`. -/
inductive PausePc
  | lock
  | readWiring
  | write (conn : ℕ)
  | returned (ok : Bool)
deriving DecidableEq

/-- `send_binary`. -/
inductive SendPc
  | lock
  | flush (frames : List Frame)
  | announce
  | returned (ok : Bool)
deriving DecidableEq

/-- `TransferSession::wire`. -/
inductive WirePc
  | check
  | resetActivity
  | spawnClock
  | hooks
  | storeWiring
  /-- Arm the reconnect gate on every pending send. -/
  | arm
  /-- Clear the stall on every surviving stream and wake the parked. -/
  | recover
  | returned (ok : Bool)
deriving DecidableEq

/-- `TransferSession::unwire`. -/
inductive UnwirePc
  | unhook
  | clearWiring
  | stall
  | stopClock
  | returned
deriving DecidableEq

/-- `declare_pending_sends`. The lock is released between the snapshot and
the write. -/
inductive DeclarePc
  | readWiring
  | snapshot (conn : ℕ)
  | write (conn : ℕ) (entries : List AckEntry)
  | returned
deriving DecidableEq

/-- `run_clock`. -/
inductive ClockPc
  | idle
  | drain
  | unhook (silent : Bool)
  | clearWiring (silent : Bool)
  | stall (silent : Bool)
  | disconnect
  | exited
deriving DecidableEq

/-- A task and where it stands. -/
inductive Task
  | sinkWrite (txid : TxId) (chunk : Bytes) (pc : WritePc)
  | sinkFinish (txid : TxId) (pc : FinishPc)
  | sinkAbort (txid : TxId) (pc : AbortPc)
  | sinkPause (txid : TxId) (pc : PausePc)
  /-- `onComplete` says whether the caller passed a callback. -/
  | sendBinary (txid : TxId) (payload : Bytes) (onComplete : Bool) (conn : ℕ) (pc : SendPc)
  /-- `clock` names the clock task to spawn. -/
  | wire (conn clock : ℕ) (pc : WirePc)
  | unwire (pc : UnwirePc)
  | declarePendingSends (pc : DeclarePc)
  | clock (conn : ℕ) (pc : ClockPc)
deriving DecidableEq

/-- An operation a caller may start. -/
inductive Call
  | sinkWrite (txid : TxId) (chunk : Bytes)
  | sinkFinish (txid : TxId)
  | sinkAbort (txid : TxId)
  | sinkPause (txid : TxId)
  | sendBinary (txid : TxId) (payload : Bytes) (onComplete : Bool) (conn : ℕ)
  | wire (conn clock : ℕ)
  | unwire
  | declarePendingSends
deriving DecidableEq

/-- The task of a call, at its start. -/
def Call.task : Call → Task
  | sinkWrite txid chunk => .sinkWrite txid chunk .subscribe
  | sinkFinish txid => .sinkFinish txid .fastPath
  | sinkAbort txid => .sinkAbort txid .lock
  | sinkPause txid => .sinkPause txid .lock
  | sendBinary txid payload onComplete conn => .sendBinary txid payload onComplete conn .lock
  | wire conn clock => .wire conn clock .check
  | unwire => .unwire .unhook
  | declarePendingSends => .declarePendingSends .readWiring

/-- What happened in a session. -/
inductive Event
  /-- A transaction was opened at the sender. -/
  | opened (txid : TxId)
  | registered (txid : TxId) (callback : Callback)
  /-- An inbound frame was handled. -/
  | inbound (conn : ℕ) (frame : Frame)
  | wrote (conn : ℕ) (write : Write)
  /-- A stream object was handed to the stream handler. -/
  | streamOpened (txid : TxId) (object : ℕ)
  /-- A payload was handed to the binary handler. -/
  | delivered (txid : TxId) (payload : Bytes)
  | settled (txid : TxId) (how : Settlement)
  | fired (callback : Callback) (result : BinarySendResult)
deriving DecidableEq

end Transfer

end Xacpp
