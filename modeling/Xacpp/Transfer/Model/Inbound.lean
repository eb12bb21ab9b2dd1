import Xacpp.Transfer.Model.State
/-!
# Inbound frames

One handler per frame type, each run under the state lock for its whole
length, transport writes included. `Handling` is what a handler threads
through: the state, the write surface, and what the caller does after the
lock is released (hand over a stream, deliver payloads, fire callbacks).
`settled` is history: how each copy released here came to be released.

Malformed payloads are dropped.
-/

namespace Xacpp

namespace Transfer

open Reliability

/-- What a handler threads through. -/
structure Handling where
  st : SessionState
  port : Port
  /-- The stream to hand to the stream handler: its transaction and object. -/
  opened : Option (TxId × ℕ) := none
  /-- Payloads to deliver to the binary handler. -/
  delivered : List (TxId × Bytes) := []
  /-- Callbacks to fire. -/
  completions : List (Callback × BinarySendResult) := []
  settled : List (TxId × Settlement) := []

namespace Handling

/-- A section starts with the state under the lock, and nothing done. -/
def start (st : SessionState) (outcomes : List Bool) : Handling where
  st := st
  port := .new outcomes

variable (h : Handling)

def withState (st : SessionState) : Handling := { h with st := st }

/-- Write a control frame; a failure is logged and otherwise ignored. -/
def writeControl (frameType : FrameType) (payload : Except ControlError Bytes) : Handling :=
  match payload with
  | .error _ => h
  | .ok bytes => { h with port := (h.port.write .control (controlFrame frameType bytes)).2 }

/-- Encode and send an ACK control frame; an empty list sends nothing. -/
def sendAckEntries (entries : List AckEntry) : Handling :=
  if entries.isEmpty then h else h.writeControl .ack (encodeAckPayload entries)

/-- Take the transaction's callback out of the table, to be fired. -/
def complete (txid : TxId) (confirmed : Bool) : Handling :=
  match h.st.completions.get? txid with
  | none => h
  | some callback =>
    { h with
      st := h.st.withCompletions (h.st.completions.erase txid)
      completions := h.completions ++ [(callback, ⟨txid, confirmed⟩)] }

/-! ## Receive side -/

/-- `TRANSACTION_PAUSE`: the named transaction's stream becomes paused. -/
def onTransactionPauseFrame (frame : Frame) : Handling :=
  match decodeTransactionPause frame.payload with
  | .error _ => h
  | .ok txid => h.withState (h.st.onStream txid StreamInner.setPaused)

/-- `TRANSACTION_ABORT`: discard the partial reassembly and cancel the
stream. -/
def onTransactionAbortFrame (frame : Frame) : Handling :=
  match decodeTransactionAbort frame.payload with
  | .error _ => h
  | .ok txid =>
    let st := h.st.dropReceive txid fun inner => inner.finish .cancelled
    h.withState (st.withPendingAckFrames (st.pendingAckFrames.erase txid))

/-- `TRANSACTION_COMPLETED`: the sender declares the transaction closed. No
slot: ignored. Bytes add up: a stream still open is closed as complete.
Bytes missing: the stream ends incomplete and the slot is dropped. -/
def onTransactionCompletedFrame (frame : Frame) : Handling :=
  match decodeTransactionCompleted frame.payload with
  | .error _ => h
  | .ok txid =>
    if h.st.reassembler.containsTransaction txid = false then h
    else if h.st.reassembler.isComplete txid then
      if h.st.streams.contains txid then
        let st := h.st.endStream txid fun inner => inner.finish .complete
        h.withState (st.disown txid)
      else h
    else
      let (received, expected) := (h.st.reassembler.byteProgress txid).getD (0, frame.totalLen)
      let st := h.st.dropReceive txid fun inner => inner.finishIncomplete received expected
      h.withState (st.withPendingAckFrames (st.pendingAckFrames.erase txid))

/-- The stream part of an accepted frame: open a stream, or feed the one
there is. -/
def streamAccepted (frame : Frame) (opensStream : Bool) (emitted : List (ℕ × Bytes)) : Handling :=
  let txid := frame.transactionId
  if opensStream then
    { h with
      st := { h.st with
        streams := h.st.streams.insert txid h.st.objects.length
        streamOwned := insert txid h.st.streamOwned
        objects := h.st.objects ++ [(StreamInner.new txid frame.totalLen).send emitted] }
      opened := some (txid, h.st.objects.length) }
  else h.withState (h.st.onStream txid fun inner => inner.clearPaused.send emitted)

/-- The final ACK of a completed transaction, ahead of the batch. -/
def finalAck (txid : TxId) : Handling :=
  let h := match h.st.reassembler.ackEntry txid with
    | none => h
    | some entry => h.sendAckEntries [entry]
  h.withState (h.st.withPendingAckFrames (h.st.pendingAckFrames.erase txid))

/-- A completed transaction leaves the reassembler: its stream closes, or
its payload is taken for delivery where a handler is registered. -/
def handOver (txid : TxId) (handlerPresent : Bool) : Handling :=
  if txid ∈ h.st.streamOwned then
    let st := (h.st.disown txid).endStream txid fun inner => inner.finish .complete
    h.withState (st.withReassembler (st.reassembler.takeCompleted txid).2)
  else if handlerPresent then
    match h.st.reassembler.takeCompleted txid with
    | (none, _) => h
    | (some payload, reassembler) =>
      { h with
        st := h.st.withReassembler reassembler
        delivered := h.delivered ++ [(txid, payload)] }
  else h

/-- An accepted frame: the ACK accounting, the stream, and what follows
where the frame completed its transaction. -/
def dataAccepted (frame : Frame) (opensStream complete : Bool) (emitted : List (ℕ × Bytes))
    (handlerPresent : Bool) : Handling :=
  let txid := frame.transactionId
  let frames := (h.st.pendingAckFrames.get? txid).getD 0 + 1
  let h := h.withState (h.st.withPendingAckFrames (h.st.pendingAckFrames.insert txid frames))
  let h := h.streamAccepted frame opensStream emitted
  if complete then (h.finalAck txid).handOver txid handlerPresent else h

/-- `DATA_BINARY`: into the reassembler. -/
def onDataFrame (frame : Frame) (handlerPresent streamPresent : Bool) : Handling :=
  let txid := frame.transactionId
  let opensStream := streamPresent && decide (frame.seq = 0) &&
    !h.st.reassembler.containsTransaction txid
  let (outcome, reassembler) := h.st.reassembler.receiveFrame txid frame.seq frame.totalLen
    frame.payload.length frame.payload streamPresent
  let h := h.withState (h.st.withReassembler reassembler)
  match outcome with
  | .error _ | .ok .duplicate | .ok .slotlessDropped => h
  | .ok (.accepted complete emitted) =>
    h.dataAccepted frame opensStream complete emitted handlerPresent

/-- The verdict on one declared id: an open incomplete slot is continued. -/
def verdictFor (reassembler : TransactionReassembler) (txid : TxId) : ResumeStatus :=
  if reassembler.containsTransaction txid && !reassembler.isComplete txid then .resumed
  else .unknown

/-- The mirror cross-check: open incomplete slots the holder did not
declare. -/
def abandoned (reassembler : TransactionReassembler) (entries : List AckEntry) : List TxId :=
  reassembler.openTransactions.filter fun txid =>
    !reassembler.isComplete txid && !entries.any fun entry => entry.transactionId == txid

/-- Drop the abandoned transactions, cancelling their streams. -/
def dropAbandoned (st : SessionState) (ids : List TxId) : SessionState :=
  ids.foldl (fun st txid => st.dropReceive txid fun inner => inner.finish .cancelled) st

/-- `RESUME`: one verdict per declared entry, after the cross-check. An
empty declaration is not answered. -/
def onResumeRequestFrame (frame : Frame) : Handling :=
  match decodeResumeRequest frame.payload with
  | .error _ => h
  | .ok declared =>
    if declared.isEmpty then h
    else
      let entries := declared.map fun entry =>
        ⟨entry.transactionId, verdictFor h.st.reassembler entry.transactionId⟩
      let h := h.withState (dropAbandoned h.st (abandoned h.st.reassembler declared))
      h.writeControl .resumeResponse (encodeResumeResponse entries)

/-- The value of a lowercase hex digit. -/
def hexDigit (c : UInt8) : Option UInt8 :=
  if 0x30 ≤ c ∧ c ≤ 0x39 then some (c - 0x30)
  else if 0x61 ≤ c ∧ c ≤ 0x66 then some (c - 0x61 + 10)
  else none

/-- Pairs of hex digits to bytes. -/
def hexBytes : Bytes → Option Bytes
  | [] => some []
  | [_] => none
  | hi :: lo :: rest => do
    let hi ← hexDigit hi
    let lo ← hexDigit lo
    let rest ← hexBytes rest
    return (hi * 16 + lo) :: rest

/-- The id at the head of an expiry message: 32 lowercase hex characters. A
character that is not one is refused whatever its width, so the check may
run on bytes. -/
def parseHexTxidPrefix (message : String) : Option TxId :=
  match hexBytes (message.toUTF8.toList.take 32) with
  | none => none
  | some bytes => if h : bytes.length = 16 then some ⟨bytes, h⟩ else none

/-- `ERROR`: an expired transaction loses its slot and its stream. -/
def onErrorFrame (frame : Frame) : Handling :=
  match decodeError frame.payload with
  | .error _ => h
  | .ok payload =>
    if payload.code = transactionExpired then
      match parseHexTxidPrefix payload.message with
      | none => h
      | some txid => h.withState (h.st.dropReceive txid fun inner => inner.finish .cancelled)
    else h

/-! ## Send side -/

/-- One entry of an ACK. -/
def ackOne (now : ℕ) (h : Handling) (entry : AckEntry) : Handling :=
  match h.st.sender.handleAck entry now with
  | (false, sender) => h.withState (h.st.withSender sender)
  | (true, sender) =>
    { h with
      st := h.st.withSender sender
      settled := h.settled ++ [(entry.transactionId, Settlement.acked)] }.complete
        entry.transactionId true

/-- `ACK`. -/
def onAckFrame (frame : Frame) (now : ℕ) : Handling :=
  match decodeAckPayload frame.payload with
  | .error _ => h
  | .ok entries => entries.foldl (ackOne now) h

/-- Retransmit the frames each entry lists; a failed write ends the
handling. -/
def nackLoop (now : ℕ) : List NackEntry → Handling → Handling
  | [], h => h
  | entry :: rest, h =>
    let (frames, sender) := h.st.sender.handleNack entry.transactionId entry.missingSeqs now
    match h.port.writeAll frames with
    | (true, port) => nackLoop now rest { h with st := h.st.withSender sender, port := port }
    | (false, port) => { h with st := h.st.withSender sender, port := port }

/-- `NACK`: immediate retransmission. -/
def onNackFrame (frame : Frame) (now : ℕ) : Handling :=
  match decodeNackPayload frame.payload with
  | .error _ => h
  | .ok entries => nackLoop now entries h

/-- How the verdicts released copies. -/
def settlements (verdicts : ResumeVerdicts) : List (TxId × Settlement) :=
  verdicts.confirmed.map (·, Settlement.confirmed) ++ verdicts.failed.map (·, Settlement.failed)

/-- `RESUME_RESPONSE`: apply the verdicts, retransmit, then take the
callbacks of what they closed. A failed retransmission ends the handling
before the callbacks are taken. -/
def onResumeResponseFrame (frame : Frame) (now : ℕ) : Handling :=
  match decodeResumeResponse frame.payload with
  | .error _ => h
  | .ok entries =>
    let (verdicts, sender) := h.st.sender.applyResumeVerdicts entries now
    let h := { h with
      st := h.st.withSender sender
      settled := h.settled ++ settlements verdicts }
    match h.port.writeAll verdicts.retransmit with
    | (false, port) => { h with port := port }
    | (true, port) =>
      let h := { h with port := port }
      let h := verdicts.confirmed.foldl (fun h txid => h.complete txid true) h
      verdicts.failed.foldl (fun h txid => h.complete txid false) h

/-- Dispatch on the frame type. -/
def dispatch (frame : Frame) (handlerPresent streamPresent : Bool) (now : ℕ) : Handling :=
  match frame.frameType with
  | .dataBinary => h.onDataFrame frame handlerPresent streamPresent
  | .ack => h.onAckFrame frame now
  | .nack => h.onNackFrame frame now
  | .resume => h.onResumeRequestFrame frame
  | .resumeResponse => h.onResumeResponseFrame frame now
  | .transactionPause => h.onTransactionPauseFrame frame
  | .transactionAbort => h.onTransactionAbortFrame frame
  | .transactionCompleted => h.onTransactionCompletedFrame frame
  | .error => h.onErrorFrame frame
  | .dataJson | .heartbeat | .negotiate | .securityUpgrade | .unknown _ => h

end Handling

/-- Inbound frame dispatch: every frame refreshes the peer-activity clock.
A section writes to the transport the frame came from. -/
def handleInbound (st : SessionState) (frame : Frame) (handlerPresent streamPresent : Bool)
    (now : ℕ) (outcomes : List Bool) : Handling :=
  (Handling.start (st.touch now) outcomes).dispatch frame handlerPresent streamPresent now

end Transfer

end Xacpp
