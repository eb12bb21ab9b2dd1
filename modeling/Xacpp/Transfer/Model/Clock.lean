import Xacpp.Transfer.Model.Inbound
/-!
# The clock

One tick, run under the state lock for its whole length: batched ACKs, NACK
feedback, retransmissions, re-declarations, the heartbeat, and the verdict
on a silent peer. Beside it the deferred delivery of payloads that
completed while no handler was registered.
-/

namespace Xacpp

namespace Transfer

open Reliability

namespace Handling

variable (h : Handling)

/-- Encode and write one `RESUME` declaration frame. -/
def sendResumeFrame (entries : List AckEntry) : Handling :=
  h.writeControl .resume (encodeResumeRequest entries)

/-- Batched ACK export. Transactions without a contiguous prefix export
nothing and keep their accounting. -/
def exportAcks (config : TransferConfig) (now : ℕ) : Handling :=
  let pendingTotal := h.st.pendingAckFrames.values.sum
  if pendingTotal ≥ config.ackBatchFrames ∨
      pendingTotal > 0 ∧ now - h.st.lastAckMs ≥ config.ackBatchIntervalMs then
    let ids := h.st.pendingAckFrames.keys
    let entries := ids.filterMap h.st.reassembler.ackEntry
    let exported := ids.filter fun txid => (h.st.reassembler.ackEntry txid).isSome
    (h.withState { h.st with
      pendingAckFrames := exported.foldl Table.erase h.st.pendingAckFrames
      lastAckMs := now }).sendAckEntries entries
  else h

/-- The NACK of one transaction, where it has gaps. -/
def nackFeedbackOne (h : Handling) (txid : TxId) : Handling :=
  let missing := h.st.reassembler.missingSeqs txid maxNackMissingEntries
  if missing.isEmpty then h
  else h.writeControl .nack (encodeNackPayload [⟨txid, missing.map UInt32.ofNat⟩])

/-- Receiver NACK feedback, one frame per gapped transaction. -/
def nackFeedback (config : TransferConfig) (now : ℕ) : Handling :=
  if now - h.st.lastNackMs ≥ config.nackFeedbackIntervalMs then
    let h := h.withState { h.st with lastNackMs := now }
    h.st.reassembler.openTransactions.foldl nackFeedbackOne h
  else h

/-- Retransmissions past their timeout; `false` where a write failed. -/
def retransmitDue (now : ℕ) : Bool × Handling :=
  let (frames, sender) := h.st.sender.dueRetransmissions now
  let (ok, port) := h.port.writeAll frames
  (ok, { h with st := h.st.withSender sender, port := port })

/-- Declare again what has stayed unanswered. -/
def redeclare (config : TransferConfig) (now : ℕ) : Handling :=
  let (entries, sender) := h.st.sender.timedOutDeclarations now config.resumeVerdictTimeoutMs
  let h := h.withState (h.st.withSender sender)
  if entries.isEmpty then h else h.sendResumeFrame entries

/-- Heartbeat. -/
def heartbeat (config : TransferConfig) (now : ℕ) : Handling :=
  if now - h.st.lastHeartbeatMs ≥ config.heartbeatIntervalMs then
    let seq := h.st.heartbeatSeq + 1
    (h.withState { h.st with lastHeartbeatMs := now, heartbeatSeq := seq }).writeControl
      .heartbeat (encodeHeartbeat ⟨seq, UInt64.ofNat now⟩)
  else h

/-- One tick: the state it leaves, and whether the connection is to be torn
down. A failed retransmission ends the tick with that verdict. -/
def tick (config : TransferConfig) (now : ℕ) : Bool × Handling :=
  let h := h.exportAcks config now
  let h := h.nackFeedback config now
  match h.retransmitDue now with
  | (false, h) => (true, h)
  | (true, h) =>
    let h := h.redeclare config now
    let h := h.heartbeat config now
    (decide (now - h.st.lastPeerActivityMs ≥ config.silentTimeoutMs), h)

end Handling

/-- One clock tick on a session state. -/
def clockTick (config : TransferConfig) (st : SessionState) (now : ℕ) (outcomes : List Bool) :
    Bool × Handling :=
  (Handling.start st outcomes).tick config now

/-- Take every completed payload, in table order. -/
def takeAll : List TxId → TransactionReassembler → List (TxId × Bytes) × TransactionReassembler
  | [], r => ([], r)
  | txid :: rest, r =>
    match r.takeCompleted txid with
    | (none, r) => takeAll rest r
    | (some payload, r) =>
      let (taken, r) := takeAll rest r
      ((txid, payload) :: taken, r)

/-- Completed-but-undelivered payloads, while a binary handler is
registered. -/
def drainCompleted (st : SessionState) (handlerPresent : Bool) :
    List (TxId × Bytes) × SessionState :=
  if handlerPresent then
    let completed := st.reassembler.openTransactions.filter st.reassembler.isComplete
    let (taken, reassembler) := takeAll completed st.reassembler
    (taken, st.withReassembler reassembler)
  else ([], st)

end Transfer

end Xacpp
