import Xacpp.Reliability.Flags
import Xacpp.Reliability.Verdicts
import Xacpp.Transfer.Receiving
/-!
# The send side of a locked section

A section closes transactions in one of two ways: it releases a copy and
takes its callback in the same section, or it releases the copy and ends
before the callback is taken. `Settles` says which copies a section closes
and what becomes of their callbacks; every handler and every tick settles
some list, which is empty unless the frame is an `ACK` or a
`RESUME_RESPONSE`. `Descends` says that a section invents no copy and
leaves each true to the history it had.
-/

namespace Xacpp

namespace Transfer

open Reliability

/-- What the callback of a copy closed this way is told. -/
def Settlement.confirms : Settlement → Bool
  | acked | confirmed => true
  | failed | aborted => false

/-- The callbacks of the closed copies, in order, with what each is told. -/
def firings (table : Table TxId Callback) (closed : List (TxId × Settlement)) :
    List (Callback × BinarySendResult) :=
  closed.filterMap fun c => (table.get? c.1).map fun cb => (cb, ⟨c.1, c.2.confirms⟩)

theorem firings_append (table : Table TxId Callback) (c₁ c₂ : List (TxId × Settlement)) :
    firings table (c₁ ++ c₂) = firings table c₁ ++ firings table c₂ :=
  List.filterMap_append

/-- Only the entries of the closed copies are read. -/
theorem firings_congr {table table' : Table TxId Callback} {closed : List (TxId × Settlement)}
    (h : ∀ c ∈ closed, table'.get? c.1 = table.get? c.1) :
    firings table' closed = firings table closed :=
  List.filterMap_congr fun c hc => by rw [h c hc]

namespace Handling

variable {h h' h'' : Handling} {frame : Frame} {now : ℕ}
variable {closed closed₁ closed₂ : List (TxId × Settlement)} {taken : Bool}

/-- The section writes no data frame but those of the list. -/
def WritesOnly (h h' : Handling) (frames : List Frame) : Prop :=
  ∃ ws, h'.port.writes = h.port.writes ++ ws ∧
    ∀ w ∈ ws, w.frame.frameType = .dataBinary → w.frame ∈ frames

theorem WritesOnly.of_port (hport : h'.port = h.port) (frames : List Frame) :
    WritesOnly h h' frames :=
  ⟨[], by rw [hport, List.append_nil], List.forall_mem_nil _⟩

/-- What a section on a fresh port has written. -/
theorem WritesOnly.mem {st : SessionState} {outcomes : List Bool} {frames : List Frame} {w : Write}
    (h : WritesOnly (.start st outcomes) h' frames) (hw : w ∈ h'.port.writes)
    (hdata : w.frame.frameType = .dataBinary) : w.frame ∈ frames := by
  obtain ⟨ws, heq, hall⟩ := h
  rw [heq] at hw
  exact hall w hw hdata

theorem KeepsSend.writesOnly (hk : KeepsSend h h') (frames : List Frame) :
    WritesOnly h h' frames := by
  obtain ⟨ws, heq, hcontrol⟩ := hk.writes
  exact ⟨ws, heq, fun w hw htype => absurd htype (hcontrol w hw)⟩

theorem WritesOnly.trans {frames : List Frame} (h₁ : WritesOnly h h' frames)
    (h₂ : WritesOnly h' h'' frames) : WritesOnly h h'' frames := by
  obtain ⟨ws₁, heq₁, hall₁⟩ := h₁
  obtain ⟨ws₂, heq₂, hall₂⟩ := h₂
  refine ⟨ws₁ ++ ws₂, by rw [heq₂, heq₁, List.append_assoc], fun w hw => ?_⟩
  exact (List.mem_append.1 hw).elim (hall₁ w) (hall₂ w)

theorem writeAll_writes (port : Port) (frames : List Frame) :
    ∃ ws, (port.writeAll frames).2.writes = port.writes ++ ws ∧ ∀ w ∈ ws, w.frame ∈ frames := by
  induction frames generalizing port with
  | nil => exact ⟨[], (List.append_nil _).symm, List.forall_mem_nil _⟩
  | cons frame rest ih =>
    rw [Port.writeAll, Port.write]
    cases hok : port.outcomes.headD true with
    | false =>
      exact ⟨[⟨.data, frame, false⟩], rfl,
        fun w hw => by rw [List.mem_singleton.1 hw]; exact List.mem_cons_self⟩
    | true =>
      obtain ⟨ws, heq, hall⟩ :=
        ih ⟨port.outcomes.tail, port.writes ++ [⟨.data, frame, true⟩]⟩
      refine ⟨⟨.data, frame, true⟩ :: ws, ?_, fun w hw => ?_⟩
      · rw [heq, List.append_assoc, List.singleton_append]
      · rcases List.mem_cons.1 hw with rfl | hw
        · exact List.mem_cons_self
        · exact List.mem_cons_of_mem _ (hall w hw)

/-- The section releases the copies listed; `taken` says whether it also
takes their callbacks to be fired. -/
structure Settles (h h' : Handling) (closed : List (TxId × Settlement)) (taken : Bool) :
    Prop where
  nodup : (closed.map Prod.fst).Nodup
  held : ∀ id ∈ closed.map Prod.fst, h.st.sender.containsTransaction id = true
  pending : ∀ id, h'.st.sender.containsTransaction id = true ↔
    h.st.sender.containsTransaction id = true ∧ id ∉ closed.map Prod.fst
  table : ∀ id, h'.st.completions.get? id =
    if taken = true ∧ id ∈ closed.map Prod.fst then none else h.st.completions.get? id
  fired : h'.completions =
    h.completions ++ if taken then firings h.st.completions closed else []
  settled : h'.settled = h.settled ++ closed

/-- A section that closes nothing. -/
theorem Settles.of_same (hpending : ∀ id, h'.st.sender.containsTransaction id =
      h.st.sender.containsTransaction id) (htable : h'.st.completions = h.st.completions)
    (hfired : h'.completions = h.completions) (hsettled : h'.settled = h.settled) :
    Settles h h' [] true where
  nodup := List.nodup_nil
  held _ hid := absurd hid List.not_mem_nil
  pending id := by simp [hpending id]
  table id := by simp [htable]
  fired := by simp [hfired, firings]
  settled := by simp [hsettled]

theorem KeepsSend.settles (hk : KeepsSend h h') : Settles h h' [] true :=
  .of_same (fun id => by rw [hk.sender]) hk.table hk.completions hk.settled

theorem Settles.trans (h₁ : Settles h h' closed₁ true) (h₂ : Settles h' h'' closed₂ true) :
    Settles h h'' (closed₁ ++ closed₂) true := by
  -- what the second section closes the first one left alone
  have hdisj : ∀ id ∈ closed₂.map Prod.fst,
      h.st.sender.containsTransaction id = true ∧ id ∉ closed₁.map Prod.fst :=
    fun id hid => (h₁.pending id).1 (h₂.held id hid)
  have hfire : firings h'.st.completions closed₂ = firings h.st.completions closed₂ := by
    refine firings_congr fun c hc => ?_
    rw [h₁.table, if_neg fun hmem => (hdisj c.1 (List.mem_map_of_mem hc)).2 hmem.2]
  constructor
  · rw [List.map_append]
    exact List.Nodup.append h₁.nodup h₂.nodup fun id hid hid' => (hdisj id hid').2 hid
  · intro id hid
    rw [List.map_append, List.mem_append] at hid
    exact hid.elim (h₁.held id) fun hid => (hdisj id hid).1
  · intro id
    rw [h₂.pending, h₁.pending, List.map_append, List.mem_append, not_or, and_assoc]
  · intro id
    simp only [h₂.table, h₁.table, List.map_append, List.mem_append, true_and]
    by_cases hid : id ∈ closed₁.map Prod.fst <;> by_cases hid' : id ∈ closed₂.map Prod.fst <;>
      simp only [hid, hid', or_true, or_false, or_self, if_true, if_false]
  · rw [h₂.fired, h₁.fired, firings_append, if_pos rfl, if_pos rfl, if_pos rfl, hfire,
      List.append_assoc]
  · rw [h₂.settled, h₁.settled, List.append_assoc]

/-! ## Taking callbacks -/

/-- The section takes the callbacks of the copies listed, and does nothing
else. -/
structure Takes (h h' : Handling) (closed : List (TxId × Settlement)) : Prop where
  sender : h'.st.sender = h.st.sender
  table : ∀ id, h'.st.completions.get? id =
    if id ∈ closed.map Prod.fst then none else h.st.completions.get? id
  fired : h'.completions = h.completions ++ firings h.st.completions closed
  settled : h'.settled = h.settled
  port : h'.port = h.port
  receive : OnlyDrops h h'

theorem Takes.refl (h : Handling) : Takes h h [] :=
  ⟨rfl, fun _ => rfl, (List.append_nil _).symm, rfl, rfl, .refl h⟩

theorem complete_takes (h : Handling) (id : TxId) (how : Settlement) :
    Takes h (h.complete id how.confirms) [(id, how)] := by
  unfold complete
  cases hget : h.st.completions.get? id with
  | none =>
    refine ⟨rfl, fun id' => ?_, ?_, rfl, rfl, .refl h⟩
    · simp only [List.map_cons, List.map_nil, List.mem_singleton]
      by_cases heq : id' = id
      · rw [if_pos heq, heq, hget]
      · rw [if_neg heq]
    · simp [firings, hget]
  | some callback =>
    refine ⟨rfl, fun id' => ?_, ?_, rfl, rfl, .of_eq rfl rfl rfl⟩
    · simp only [SessionState.withCompletions, List.map_cons, List.map_nil, List.mem_singleton]
      exact Table.get?_erase _ _ _
    · simp [firings, hget]

theorem Takes.trans (h₁ : Takes h h' closed₁) (h₂ : Takes h' h'' closed₂)
    (hdisj : ∀ id ∈ closed₂.map Prod.fst, id ∉ closed₁.map Prod.fst) :
    Takes h h'' (closed₁ ++ closed₂) := by
  have hfire : firings h'.st.completions closed₂ = firings h.st.completions closed₂ := by
    refine firings_congr fun c hc => ?_
    rw [h₁.table, if_neg (hdisj c.1 (List.mem_map_of_mem hc))]
  refine ⟨h₂.sender.trans h₁.sender, fun id => ?_, ?_, h₂.settled.trans h₁.settled,
    h₂.port.trans h₁.port, h₁.receive.trans h₂.receive⟩
  · simp only [h₂.table, h₁.table, List.map_append, List.mem_append]
    by_cases hid : id ∈ closed₁.map Prod.fst <;> by_cases hid' : id ∈ closed₂.map Prod.fst <;>
      simp only [hid, hid', or_true, or_false, or_self, if_true, if_false]
  · rw [h₂.fired, h₁.fired, firings_append, hfire, List.append_assoc]

/-- The callbacks of a list of copies that were closed the same way. -/
theorem foldl_complete_takes (how : Settlement) {ids : List TxId} (hnodup : ids.Nodup)
    (h : Handling) :
    Takes h (ids.foldl (fun h id => h.complete id how.confirms) h) (ids.map (·, how)) := by
  induction ids generalizing h with
  | nil => exact .refl h
  | cons id ids ih =>
    obtain ⟨hnot, hrest⟩ := List.nodup_cons.1 hnodup
    refine Takes.trans (complete_takes h id how) (ih hrest _) fun id' hid' hmem => ?_
    rw [List.map_map, List.mem_map] at hid'
    obtain ⟨id'', hid'', rfl⟩ := hid'
    have heq : id'' = id := List.mem_singleton.1 hmem
    exact hnot (heq ▸ hid'')

/-! ## The handlers -/

/-- A section that releases the copies listed (up to `h'`) and then takes
their callbacks. -/
theorem Takes.settles (ht : Takes h' h'' closed) (htable : h'.st.completions = h.st.completions)
    (hfired : h'.completions = h.completions) (hsettled : h'.settled = h.settled ++ closed)
    (hnodup : (closed.map Prod.fst).Nodup)
    (hheld : ∀ id ∈ closed.map Prod.fst, h.st.sender.containsTransaction id = true)
    (hpending : ∀ id, h'.st.sender.containsTransaction id = true ↔
      h.st.sender.containsTransaction id = true ∧ id ∉ closed.map Prod.fst) :
    Settles h h'' closed true where
  nodup := hnodup
  held := hheld
  pending id := by
    rw [ht.sender]
    exact hpending id
  table id := by
    rw [ht.table id, htable]
    simp only [true_and]
  fired := by rw [ht.fired, if_pos rfl, htable, hfired]
  settled := by rw [ht.settled, hsettled]

/-- One ACK entry closes its transaction, or none. -/
theorem ackOne_settles (h : Handling) (entry : AckEntry) (now : ℕ) :
    ∃ closed, Settles h (ackOne now h entry) closed true ∧
      ∀ c ∈ closed, c.2 = Settlement.acked := by
  unfold ackOne
  cases hget : h.st.sender.pending.get? entry.transactionId with
  | none =>
    rw [TransactionSender.handleAck_none hget]
    exact ⟨[], .of_same (fun _ => rfl) rfl rfl rfl, fun c hc => absurd hc List.not_mem_nil⟩
  | some txn =>
    have hheld := TransactionSender.containsTransaction_of_get? hget
    rw [TransactionSender.handleAck_some hget]
    by_cases hfull : (txn.acked entry now).isFullyAcked = true
    · rw [if_pos hfull]
      refine ⟨[(entry.transactionId, Settlement.acked)],
        (complete_takes _ _ Settlement.acked).settles rfl rfl rfl (List.nodup_singleton _) ?_
          fun id => ?_,
        fun c hc => by rw [List.mem_singleton.1 hc]⟩
      · intro id hid
        rw [List.mem_singleton.1 hid]
        exact hheld
      · refine (TransactionSender.containsTransaction_erase id).trans ?_
        simp
    · rw [if_neg hfull]
      exact ⟨[], .of_same (TransactionSender.containsTransaction_insert hheld) rfl rfl rfl,
        fun c hc => absurd hc List.not_mem_nil⟩

theorem onAckFrame_settles (h : Handling) (frame : Frame) (now : ℕ) :
    ∃ closed, Settles h (h.onAckFrame frame now) closed true ∧
      ∀ c ∈ closed, c.2 = Settlement.acked := by
  unfold onAckFrame
  cases decodeAckPayload frame.payload with
  | error e =>
    exact ⟨[], .of_same (fun _ => rfl) rfl rfl rfl, fun c hc => absurd hc List.not_mem_nil⟩
  | ok entries =>
    dsimp only
    induction entries generalizing h with
    | nil =>
      exact ⟨[], .of_same (fun _ => rfl) rfl rfl rfl, fun c hc => absurd hc List.not_mem_nil⟩
    | cons entry entries ih =>
      obtain ⟨closed₁, h₁, hall₁⟩ := ackOne_settles h entry now
      obtain ⟨closed₂, h₂, hall₂⟩ := ih (ackOne now h entry)
      exact ⟨closed₁ ++ closed₂, h₁.trans h₂,
        fun c hc => (List.mem_append.1 hc).elim (hall₁ c) (hall₂ c)⟩

/-- A NACK closes nothing. -/
theorem onNackFrame_settles (h : Handling) (frame : Frame) (now : ℕ) :
    Settles h (h.onNackFrame frame now) [] true := by
  unfold onNackFrame
  cases decodeNackPayload frame.payload with
  | error e => exact .of_same (fun _ => rfl) rfl rfl rfl
  | ok entries =>
    dsimp only
    induction entries generalizing h with
    | nil => exact .of_same (fun _ => rfl) rfl rfl rfl
    | cons entry entries ih =>
      have hone : ∀ port, Settles h { h with
          st := h.st.withSender (h.st.sender.handleNack entry.transactionId entry.missingSeqs now).2
          port := port } [] true := fun port =>
        .of_same (TransactionSender.containsTransaction_handleNack _ _ _ _) rfl rfl rfl
      simp only [nackLoop]
      split
      · next port _ => exact (hone port).trans (ih _)
      · next port _ => exact hone port

theorem map_fst_pairs (ids : List TxId) (how : Settlement) :
    (ids.map (·, how)).map Prod.fst = ids := by
  rw [List.map_map]
  exact List.map_id ids

theorem map_fst_settlements (verdicts : ResumeVerdicts) :
    (settlements verdicts).map Prod.fst = verdicts.confirmed ++ verdicts.failed := by
  rw [settlements, List.map_append, map_fst_pairs, map_fst_pairs]

/-- A response up to its retransmissions: the verdicts are applied, the
callbacks not yet taken. -/
def ruled (h : Handling) (entries : List ResumeStatusEntry) (now : ℕ) : Handling :=
  { h with
    st := h.st.withSender (h.st.sender.applyResumeVerdicts entries now).2
    settled := h.settled ++ settlements (h.st.sender.applyResumeVerdicts entries now).1
    port := (h.port.writeAll (h.st.sender.applyResumeVerdicts entries now).1.retransmit).2 }

/-- Whether every retransmission of a response was written. -/
def allWritten (h : Handling) (entries : List ResumeStatusEntry) (now : ℕ) : Bool :=
  (h.port.writeAll (h.st.sender.applyResumeVerdicts entries now).1.retransmit).1

/-- A response stops after a failed write, or goes on to the callbacks. -/
theorem onResumeResponseFrame_cases (h : Handling) (now : ℕ) {entries : List ResumeStatusEntry}
    (hdec : decodeResumeResponse frame.payload = .ok entries) :
    h.allWritten entries now = false ∧
        h.onResumeResponseFrame frame now = h.ruled entries now ∨
      h.allWritten entries now = true ∧
        Takes (h.ruled entries now) (h.onResumeResponseFrame frame now)
          (settlements (h.st.sender.applyResumeVerdicts entries now).1) := by
  have hnodup := (h.st.sender.applyResumeVerdicts_adjudicates entries now).nodup
  simp only [onResumeResponseFrame, hdec, ruled, allWritten]
  generalize h.st.sender.applyResumeVerdicts entries now = r at hnodup ⊢
  obtain ⟨verdicts, sender⟩ := r
  generalize h.port.writeAll verdicts.retransmit = w
  obtain ⟨ok, port⟩ := w
  cases ok with
  | false => exact .inl ⟨rfl, rfl⟩
  | true =>
    refine .inr ⟨rfl, ?_⟩
    refine (foldl_complete_takes Settlement.confirmed hnodup.of_append_left _).trans
      (foldl_complete_takes Settlement.failed hnodup.of_append_right _) fun id hid hid' => ?_
    rw [map_fst_pairs] at hid hid'
    exact (List.nodup_append.1 hnodup).2.2 id hid' id hid rfl

/-- **A response settles what its verdicts close**; the callbacks are taken
where every retransmission was written. -/
theorem onResumeResponseFrame_settles (h : Handling) (now : ℕ)
    {entries : List ResumeStatusEntry} (hdec : decodeResumeResponse frame.payload = .ok entries) :
    Settles h (h.onResumeResponseFrame frame now)
      (settlements (h.st.sender.applyResumeVerdicts entries now).1)
      (h.allWritten entries now) := by
  have hadj := h.st.sender.applyResumeVerdicts_adjudicates entries now
  have hnodup := hadj.nodup
  rw [← map_fst_settlements] at hnodup
  have hheld : ∀ id ∈ (settlements (h.st.sender.applyResumeVerdicts entries now).1).map Prod.fst,
      h.st.sender.containsTransaction id = true := by
    intro id hid
    rw [map_fst_settlements, List.mem_append] at hid
    rcases hid with hid | hid
    · obtain ⟨txn, hget, -⟩ := hadj.confirmed id hid
      exact TransactionSender.containsTransaction_of_get? hget
    · obtain ⟨txn, hget, -⟩ := hadj.failed id hid
      exact TransactionSender.containsTransaction_of_get? hget
  have hpending : ∀ id,
      (h.ruled entries now).st.sender.containsTransaction id = true ↔
        h.st.sender.containsTransaction id = true ∧
        id ∉ (settlements (h.st.sender.applyResumeVerdicts entries now).1).map Prod.fst := by
    intro id
    rw [map_fst_settlements]
    constructor
    · intro hin
      obtain ⟨txn, hget⟩ := TransactionSender.containsTransaction_iff.1 hin
      obtain ⟨hopen, txn₀, hget₀, -⟩ := hadj.sameCopy hget
      exact ⟨TransactionSender.containsTransaction_of_get? hget₀, hopen⟩
    · rintro ⟨hin, hopen⟩
      rcases hadj.kept id hopen with heq | ⟨-, -, txn', -, hget', -⟩
      · obtain ⟨txn, hget⟩ := TransactionSender.containsTransaction_iff.1 hin
        exact TransactionSender.containsTransaction_of_get? (heq.trans hget)
      · exact TransactionSender.containsTransaction_of_get? hget'
  rcases h.onResumeResponseFrame_cases now hdec with ⟨hok, heq⟩ | ⟨hok, htakes⟩
  · rw [hok, heq]
    refine ⟨hnodup, hheld, hpending, fun id => ?_, ?_, rfl⟩
    · simp only [Bool.false_eq_true, false_and, if_false]
      rfl
    · simp only [Bool.false_eq_true, if_false, List.append_nil]
      rfl
  · rw [hok]
    exact htakes.settles rfl rfl rfl hnodup hheld hpending

theorem ruled_writesOnly (h : Handling) (entries : List ResumeStatusEntry) (now : ℕ) :
    WritesOnly h (h.ruled entries now)
      (h.st.sender.applyResumeVerdicts entries now).1.retransmit := by
  obtain ⟨ws, heq, hall⟩ := writeAll_writes h.port
    (h.st.sender.applyResumeVerdicts entries now).1.retransmit
  exact ⟨ws, heq, fun w hw _ => hall w hw⟩

/-- The sender a response leaves, and what it writes. -/
theorem onResumeResponseFrame_spec (h : Handling) (now : ℕ) {entries : List ResumeStatusEntry}
    (hdec : decodeResumeResponse frame.payload = .ok entries) :
    (h.onResumeResponseFrame frame now).st.sender =
        (h.st.sender.applyResumeVerdicts entries now).2 ∧
      OnlyDrops h (h.onResumeResponseFrame frame now) ∧
      WritesOnly h (h.onResumeResponseFrame frame now)
        (h.st.sender.applyResumeVerdicts entries now).1.retransmit := by
  have hruled : OnlyDrops h (h.ruled entries now) := .of_eq rfl rfl rfl
  rcases h.onResumeResponseFrame_cases now hdec with ⟨-, heq⟩ | ⟨-, htakes⟩
  · rw [heq]
    exact ⟨rfl, hruled, h.ruled_writesOnly entries now⟩
  · exact ⟨htakes.sender, hruled.trans htakes.receive,
      (h.ruled_writesOnly entries now).trans (.of_port htakes.port _)⟩

/-- The senders an ACK and a NACK leave. A NACK stops at the first failed
write, so it handles some initial part of its entries. -/
def ackedBy (sender : TransactionSender) (entries : List AckEntry) (now : ℕ) :
    TransactionSender :=
  entries.foldl (fun sender entry => (sender.handleAck entry now).2) sender

def nackedBy (sender : TransactionSender) (entries : List NackEntry) (now : ℕ) :
    TransactionSender :=
  entries.foldl (fun sender entry =>
    (sender.handleNack entry.transactionId entry.missingSeqs now).2) sender

theorem ackOne_spec (h : Handling) (entry : AckEntry) (now : ℕ) :
    (ackOne now h entry).st.sender = (h.st.sender.handleAck entry now).2 ∧
      OnlyDrops h (ackOne now h entry) ∧ (ackOne now h entry).port = h.port := by
  unfold ackOne
  cases h.st.sender.handleAck entry now with
  | mk closed sender =>
    cases closed with
    | false => exact ⟨rfl, .of_eq rfl rfl rfl, rfl⟩
    | true =>
      have htakes := complete_takes { h with
        st := h.st.withSender sender
        settled := h.settled ++ [(entry.transactionId, Settlement.acked)] }
        entry.transactionId Settlement.acked
      have hstart : OnlyDrops h { h with
        st := h.st.withSender sender
        settled := h.settled ++ [(entry.transactionId, Settlement.acked)] } := .of_eq rfl rfl rfl
      exact ⟨htakes.sender, hstart.trans htakes.receive, htakes.port⟩

theorem foldl_ackOne_spec (h : Handling) (entries : List AckEntry) (now : ℕ) :
    (entries.foldl (ackOne now) h).st.sender = ackedBy h.st.sender entries now ∧
      OnlyDrops h (entries.foldl (ackOne now) h) ∧
      (entries.foldl (ackOne now) h).port = h.port := by
  induction entries generalizing h with
  | nil => exact ⟨rfl, .refl h, rfl⟩
  | cons entry entries ih =>
    obtain ⟨hsender, hdrops, hport⟩ := h.ackOne_spec entry now
    obtain ⟨hsender', hdrops', hport'⟩ := ih (ackOne now h entry)
    refine ⟨?_, hdrops.trans hdrops', hport'.trans hport⟩
    rw [List.foldl_cons, hsender', hsender]
    rfl

theorem sender_onAckFrame (h : Handling) (now : ℕ) {entries : List AckEntry}
    (hdec : decodeAckPayload frame.payload = .ok entries) :
    (h.onAckFrame frame now).st.sender = ackedBy h.st.sender entries now := by
  simp only [onAckFrame, hdec]
  exact (h.foldl_ackOne_spec entries now).1

theorem onAckFrame_spec (h : Handling) (frame : Frame) (now : ℕ) :
    (∃ entries, (h.onAckFrame frame now).st.sender = ackedBy h.st.sender entries now) ∧
      OnlyDrops h (h.onAckFrame frame now) ∧ (h.onAckFrame frame now).port = h.port := by
  unfold onAckFrame
  cases decodeAckPayload frame.payload with
  | error e => exact ⟨⟨[], rfl⟩, .refl h, rfl⟩
  | ok entries =>
    obtain ⟨hsender, hrest⟩ := h.foldl_ackOne_spec entries now
    exact ⟨⟨entries, hsender⟩, hrest⟩

theorem onNackFrame_spec (h : Handling) (frame : Frame) (now : ℕ) :
    (∃ entries, (h.onNackFrame frame now).st.sender = nackedBy h.st.sender entries now) ∧
      OnlyDrops h (h.onNackFrame frame now) := by
  unfold onNackFrame
  cases decodeNackPayload frame.payload with
  | error e => exact ⟨⟨[], rfl⟩, .refl h⟩
  | ok entries =>
    dsimp only
    induction entries generalizing h with
    | nil => exact ⟨⟨[], rfl⟩, .refl h⟩
    | cons entry entries ih =>
      have hone : ∀ port, OnlyDrops h { h with
          st := h.st.withSender (h.st.sender.handleNack entry.transactionId entry.missingSeqs now).2
          port := port } := fun port => .of_eq rfl rfl rfl
      simp only [nackLoop]
      split
      · next port _ =>
        obtain ⟨⟨done, hsender⟩, hdrops⟩ := ih { h with
          st := h.st.withSender (h.st.sender.handleNack entry.transactionId entry.missingSeqs now).2
          port := port }
        exact ⟨⟨entry :: done, hsender⟩, (hone port).trans hdrops⟩
      · next port _ => exact ⟨⟨[entry], rfl⟩, hone port⟩

/-- A `NACK` leaves every copy its frames and its pause. -/
theorem get?_handleNack {sender : TransactionSender} {id id' : TxId} {seqs : List UInt32}
    {txn' : PendingTxn} (hget' : (sender.handleNack id seqs now).2.pending.get? id' = some txn') :
    ∃ txn, sender.pending.get? id' = some txn ∧ txn'.frames = txn.frames ∧
      txn'.paused = txn.paused := by
  cases hget : sender.pending.get? id with
  | none =>
    rw [TransactionSender.handleNack_none hget] at hget'
    exact ⟨txn', hget', rfl, rfl⟩
  | some txn =>
    obtain ⟨txn₁, heq, hsteady, -, hpaused⟩ := TransactionSender.steady_handleNack seqs now hget
    rw [heq, TransactionSender.withPending_pending, Table.get?_insert] at hget'
    split at hget'
    · next hid =>
      rw [Option.some.injEq] at hget'
      exact ⟨txn, hid ▸ hget, hget' ▸ hsteady.frames, hget' ▸ hpaused⟩
    · exact ⟨txn', hget', rfl, rfl⟩

/-- What a NACK resends is retained by copies of transactions it names that
are not paused. -/
theorem nackLoop_writes (h : Handling) (now : ℕ) (entries : List NackEntry) :
    ∃ ws, (nackLoop now entries h).port.writes = h.port.writes ++ ws ∧
      ∀ w ∈ ws, ∃ entry ∈ entries, ∃ txn,
        h.st.sender.pending.get? entry.transactionId = some txn ∧ some w.frame ∈ txn.frames ∧
          txn.paused = false := by
  induction entries generalizing h with
  | nil => exact ⟨[], (List.append_nil _).symm, List.forall_mem_nil _⟩
  | cons entry entries ih =>
    obtain ⟨ws, hws, hframes⟩ := writeAll_writes h.port
      (h.st.sender.handleNack entry.transactionId entry.missingSeqs now).1
    have hone : ∀ w ∈ ws, ∃ txn, h.st.sender.pending.get? entry.transactionId = some txn ∧
        some w.frame ∈ txn.frames ∧ txn.paused = false := by
      intro w hw
      cases hget : h.st.sender.pending.get? entry.transactionId with
      | none =>
        have hmem := hframes w hw
        rw [TransactionSender.handleNack_none hget] at hmem
        exact absurd hmem List.not_mem_nil
      | some txn =>
        obtain ⟨-, -, -, -, hcopy⟩ :=
          TransactionSender.handleNack_some entry.missingSeqs now hget
        exact ⟨txn, rfl, hcopy _ (hframes w hw),
          TransactionSender.paused_of_mem_handleNack hget (hframes w hw)⟩
    simp only [nackLoop]
    split
    · next port hport =>
      rw [hport] at hws
      obtain ⟨ws', hws', hrest⟩ := ih { h with
        st := h.st.withSender (h.st.sender.handleNack entry.transactionId entry.missingSeqs now).2
        port := port }
      refine ⟨ws ++ ws', by rw [hws', hws, List.append_assoc], fun w hw => ?_⟩
      rcases List.mem_append.1 hw with hw | hw
      · exact ⟨entry, List.mem_cons_self, hone w hw⟩
      · obtain ⟨e, he, txn', hget', hmem, hlive⟩ := hrest w hw
        obtain ⟨txn, hget, hsame, hpaused⟩ := get?_handleNack hget'
        exact ⟨e, List.mem_cons_of_mem _ he, txn, hget, hsame ▸ hmem, hpaused.symm.trans hlive⟩
    · next port hport =>
      rw [hport] at hws
      exact ⟨ws, hws, fun w hw => ⟨entry, List.mem_cons_self, hone w hw⟩⟩

/-- **The frames that concern neither side's transfers in progress** leave
the send side alone and store nothing. -/
theorem dispatch_quiet (h : Handling) (handlerPresent streamPresent : Bool) (now : ℕ)
    (hdata : frame.frameType ≠ .dataBinary) (hack : frame.frameType ≠ .ack)
    (hnack : frame.frameType ≠ .nack) (hresp : frame.frameType ≠ .resumeResponse) :
    KeepsSend h (h.dispatch frame handlerPresent streamPresent now) ∧
      OnlyDrops h (h.dispatch frame handlerPresent streamPresent now) := by
  refine dispatch_rule (P := fun h' => KeepsSend h h' ∧ OnlyDrops h h') h
    (fun htype => absurd htype hdata) (fun htype => absurd htype hack)
    (fun htype => absurd htype hnack) (fun htype => absurd htype hresp) ?_
  exact fun _ hheeds => ⟨hheeds.keepsSend, hheeds.onlyDrops⟩

/-- **A frame that is not a data frame is received by nobody.** -/
theorem onlyDrops_dispatch (h : Handling) (handlerPresent streamPresent : Bool) (now : ℕ)
    (hdata : frame.frameType ≠ .dataBinary) :
    OnlyDrops h (h.dispatch frame handlerPresent streamPresent now) := by
  by_cases hack : frame.frameType = .ack
  · simp only [dispatch, hack]
    exact (h.onAckFrame_spec frame now).2.1
  by_cases hnack : frame.frameType = .nack
  · simp only [dispatch, hnack]
    exact (h.onNackFrame_spec frame now).2
  by_cases hresp : frame.frameType = .resumeResponse
  · simp only [dispatch, hresp]
    cases hdec : decodeResumeResponse frame.payload with
    | error e =>
      simp only [onResumeResponseFrame, hdec]
      exact .refl h
    | ok entries => exact (h.onResumeResponseFrame_spec now hdec).2.1
  · exact (h.dispatch_quiet handlerPresent streamPresent now hdata hack hnack hresp).2

/-! ## The clock -/

theorem exportAcks_quiet (h : Handling) (config : TransferConfig) (now : ℕ) :
    KeepsSend h (h.exportAcks config now) ∧ OnlyDrops h (h.exportAcks config now) := by
  unfold exportAcks
  dsimp only
  split
  · have hk : ∀ st, st.sender = h.st.sender → st.completions = h.st.completions →
        st.reassembler = h.st.reassembler → ∀ entries,
        KeepsSend h ((h.withState st).sendAckEntries entries) ∧
          OnlyDrops h ((h.withState st).sendAckEntries entries) := by
      intro st hsender htable hr entries
      exact ⟨(KeepsSend.of_state hsender htable).trans (keepsSend_sendAckEntries entries),
        (OnlyDrops.of_state hr).trans (onlyDrops_sendAckEntries entries)⟩
    refine hk _ ?_ ?_ ?_ _ <;> rfl
  · exact ⟨.refl h, .refl h⟩

theorem nackFeedback_quiet (h : Handling) (config : TransferConfig) (now : ℕ) :
    KeepsSend h (h.nackFeedback config now) ∧ OnlyDrops h (h.nackFeedback config now) := by
  constructor
  · exact h.nackFeedback_rel config now KeepsSend.refl (fun _ _ _ => KeepsSend.trans)
      (fun _ payload => keepsSend_writeControl (by decide) payload) (.of_state rfl rfl)
  · exact h.nackFeedback_rel config now OnlyDrops.refl (fun _ _ _ => OnlyDrops.trans)
      (fun _ _ => onlyDrops_writeControl) (.of_state rfl)

theorem heartbeat_quiet (h : Handling) (config : TransferConfig) (now : ℕ) :
    KeepsSend h (h.heartbeat config now) ∧ OnlyDrops h (h.heartbeat config now) := by
  unfold heartbeat
  dsimp only
  split
  · have hstamp : KeepsSend h (h.withState { h.st with
        lastHeartbeatMs := now, heartbeatSeq := h.st.heartbeatSeq + 1 }) := .of_state rfl rfl
    have hstamp' : OnlyDrops h (h.withState { h.st with
        lastHeartbeatMs := now, heartbeatSeq := h.st.heartbeatSeq + 1 }) := .of_state rfl
    exact ⟨hstamp.trans (keepsSend_writeControl (by decide) _),
      hstamp'.trans onlyDrops_writeControl⟩
  · exact ⟨.refl h, .refl h⟩

/-- What a tick can do: retransmit what is due and declare again what has
timed out. -/
structure TickEffect (h h' : Handling) (now : ℕ) : Prop where
  settles : Settles h h' [] true
  receive : OnlyDrops h h'
  sender : h'.st.sender = (h.st.sender.dueRetransmissions now).2 ∨ ∃ timeoutMs,
    h'.st.sender = ((h.st.sender.dueRetransmissions now).2.timedOutDeclarations now timeoutMs).2
  writes : WritesOnly h h' (h.st.sender.dueRetransmissions now).1

theorem containsTransaction_dueRetransmissions (sender : TransactionSender) (now : ℕ) (id : TxId) :
    (sender.dueRetransmissions now).2.containsTransaction id = sender.containsTransaction id :=
  TransactionSender.containsTransaction_mapValues _ id

/-- The retransmissions alone. -/
theorem retransmitDue_effect (h : Handling) (now : ℕ) :
    TickEffect h (h.retransmitDue now).2 now := by
  obtain ⟨ws, heq, hall⟩ := writeAll_writes h.port (h.st.sender.dueRetransmissions now).1
  exact ⟨.of_same (containsTransaction_dueRetransmissions _ now) rfl rfl rfl, .of_eq rfl rfl rfl,
    .inl rfl, ws, heq, fun w hw _ => hall w hw⟩

/-- The re-declaration after them. -/
theorem TickEffect.redeclare (he : TickEffect h h' now)
    (hsender : h'.st.sender = (h.st.sender.dueRetransmissions now).2) (config : TransferConfig) :
    TickEffect h (h'.redeclare config now) now := by
  unfold Handling.redeclare
  generalize htimed : h'.st.sender.timedOutDeclarations now config.resumeVerdictTimeoutMs = r
  obtain ⟨entries, sender⟩ := r
  have hpending : ∀ id, sender.containsTransaction id = h'.st.sender.containsTransaction id := by
    intro id
    have hsnd : sender =
        (h'.st.sender.timedOutDeclarations now config.resumeVerdictTimeoutMs).2 := by rw [htimed]
    rw [hsnd]
    exact TransactionSender.containsTransaction_mapValues _ id
  have hset : Settles h' (h'.withState (h'.st.withSender sender)) [] true :=
    .of_same hpending rfl rfl rfl
  have hfirst : TickEffect h (h'.withState (h'.st.withSender sender)) now :=
    ⟨he.settles.trans hset, he.receive.trans (.of_eq rfl rfl rfl),
      .inr ⟨config.resumeVerdictTimeoutMs, by rw [← hsender, htimed]; rfl⟩, he.writes⟩
  dsimp only
  split
  · exact hfirst
  · have hk : KeepsSend (h'.withState (h'.st.withSender sender)) _ :=
      keepsSend_sendResumeFrame entries
    refine ⟨hfirst.settles.trans hk.settles, hfirst.receive.trans onlyDrops_writeControl, ?_,
      hfirst.writes.trans (hk.writesOnly _)⟩
    rw [hk.sender]
    exact hfirst.sender

/-- **What a tick does.** -/
theorem tick_effect (h : Handling) (config : TransferConfig) (now : ℕ) :
    TickEffect h (h.tick config now).2 now := by
  have hquiet₁ := h.exportAcks_quiet config now
  have hquiet₂ := (h.exportAcks config now).nackFeedback_quiet config now
  have hk := hquiet₁.1.trans hquiet₂.1
  have hd := hquiet₁.2.trans hquiet₂.2
  unfold tick
  dsimp only
  generalize (h.exportAcks config now).nackFeedback config now = h₁ at hk hd
  have hdue := h₁.retransmitDue_effect now
  have hsnd : (h₁.retransmitDue now).2.st.sender = (h₁.st.sender.dueRetransmissions now).2 := rfl
  -- transport an effect of the later parts back over the quiet first part
  have hback : ∀ h₂, TickEffect h₁ h₂ now → TickEffect h h₂ now := by
    intro h₂ he
    refine ⟨hk.settles.trans he.settles, hd.trans he.receive, ?_, ?_⟩
    · rw [← hk.sender]
      exact he.sender
    · rw [← hk.sender]
      exact (hk.writesOnly _).trans he.writes
  generalize h₁.retransmitDue now = r at hdue hsnd
  obtain ⟨ok, h₂⟩ := r
  cases ok with
  | false => exact hback h₂ hdue
  | true =>
    have hre := hdue.redeclare hsnd config
    obtain ⟨hbeat, hbeat'⟩ := (h₂.redeclare config now).heartbeat_quiet config now
    refine hback _ ⟨hre.settles.trans hbeat.settles, hre.receive.trans hbeat', ?_,
      hre.writes.trans (hbeat.writesOnly _)⟩
    rw [hbeat.sender]
    exact hre.sender

end Handling

theorem clockTick_effect {config : TransferConfig} {st : SessionState} {now : ℕ}
    {outcomes : List Bool} {dead : Bool} {h : Handling}
    (h' : clockTick config st now outcomes = (dead, h)) :
    Handling.TickEffect (.start st outcomes) h now := by
  have heffect := (Handling.start st outcomes).tick_effect config now
  rw [show (Handling.start st outcomes).tick config now = (dead, h) from h'] at heffect
  exact heffect

end Transfer

end Xacpp
