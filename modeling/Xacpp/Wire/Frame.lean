import Mathlib.Data.Vector.Defs
import Xacpp.Common.Bytes
/-!
# Wire frames

The record a transport carries: its type, the transaction it belongs to,
the transaction's declared byte count, the frame's place in it and the
payload. Integers that travel are machine words; a transaction id is
sixteen raw bytes.
-/

namespace Xacpp

/-- A transaction id: sixteen raw bytes. -/
abbrev TxId := List.Vector UInt8 16

-- There are finitely many ids: without these two instances a quantifier over the ids of a list
-- may be decided by trying all of them.
instance (priority := high) decidableForallMemIds (ids : List TxId) (p : TxId → Prop)
    [DecidablePred p] : Decidable (∀ id ∈ ids, p id) := List.decidableBAll p ids

instance (priority := high) decidableForallMemId (id? : Option TxId) (p : TxId → Prop)
    [DecidablePred p] : Decidable (∀ id ∈ id?, p id) := Option.decidableForallMem id?

/-- Frame type identifier. -/
inductive FrameType
  | negotiate
  | ack
  | nack
  | resume
  | resumeResponse
  | heartbeat
  | error
  | transactionPause
  | transactionAbort
  | transactionCompleted
  | securityUpgrade
  | dataJson
  | dataBinary
  /-- Unknown type from a newer minor version; receivers ignore it. -/
  | unknown (v : UInt16)
deriving DecidableEq, Repr

/-- One binary wire frame. -/
structure Frame where
  frameType : FrameType
  /-- UUID of the owning transaction. -/
  transactionId : TxId
  /-- Total transaction byte count. -/
  totalLen : UInt32
  /-- Frame sequence within the transaction, starting at 0. -/
  seq : UInt32
  payload : Bytes
deriving DecidableEq

/-- The all-zero id control frames carry in their header. -/
def zeroId : TxId := ⟨List.replicate 16 0, List.length_replicate⟩

/-- A control frame. Header identity fields carry no meaning for control
payloads: zeroed transaction id, `total_len = 0`, `seq = 0`. -/
def controlFrame (frameType : FrameType) (payload : Bytes) : Frame where
  frameType := frameType
  transactionId := zeroId
  totalLen := 0
  seq := 0
  payload := payload

@[simp] theorem controlFrame_frameType (t : FrameType) (p : Bytes) :
    (controlFrame t p).frameType = t := rfl

@[simp] theorem controlFrame_payload (t : FrameType) (p : Bytes) :
    (controlFrame t p).payload = p := rfl

end Xacpp
