import Xacpp.Reliability.Whole
import Xacpp.Transfer.Writes
/-!
# `send_binary` that fails

`send_binary` opens its transaction and only then appends the payload,
closes the sequence, registers the callback and writes. None of these takes
the opening back when it fails, so the tables are as before only where the
call was refused before it opened anything: the session is at its cap, the
id is taken, or the length truncated to 32 bits is zero. Every other failed
call leaves a transaction pending under an id its caller never learns.
-/

namespace Xacpp

namespace Transfer

open Reliability

namespace Session

variable {s s₀ s' : Session} {k conn now : ℕ} {outcomes : List Bool} {acts : List Action}
variable {txid : TxId} {payload : Bytes} {onComplete : Bool}

/-- The call is refused before it opens anything. -/
def Refuses (s : Session) (txid : TxId) (payload : Bytes) : Prop :=
  s.state.sender.isPaused = true ∨ s.state.sender.containsTransaction txid = true ∨
    UInt32.ofNat payload.length = 0

instance (s : Session) (txid : TxId) (payload : Bytes) : Decidable (Refuses s txid payload) :=
  inferInstanceAs (Decidable (_ ∨ _ ∨ _))

/-- The pending table and the completions table are as they were. -/
def SameTables (s s' : Session) : Prop :=
  ∀ id, s'.state.sender.pending.get? id = s.state.sender.pending.get? id ∧
    s'.state.completions.get? id = s.state.completions.get? id

theorem sendLocked_of_refuses (h : Refuses s txid payload) :
    s.sendLocked k txid payload onComplete now = (none, s) := by
  unfold sendLocked
  split
  · rfl
  · next hpaused =>
    have hrest := h.resolve_left hpaused
    rw [TransactionSender.openTransaction_eq]
    by_cases hdup : s.state.sender.containsTransaction txid = true
    · rw [if_pos hdup]
    · rw [if_neg hdup, if_pos (hrest.resolve_left hdup)]

/-- A call that is not refused leaves its transaction pending, however the
locked section ends. -/
theorem containsTransaction_sendLocked (h : ¬ Refuses s txid payload) :
    (s.sendLocked k txid payload onComplete now).2.state.sender.containsTransaction txid =
      true := by
  obtain ⟨hpaused, hdup, hzero⟩ : ¬ _ ∧ ¬ _ ∧ ¬ _ := by
    rw [Refuses, not_or, not_or] at h
    exact h
  obtain ⟨sender, hopen⟩ : ∃ sender,
      s.state.sender.openTransaction txid (UInt32.ofNat payload.length) now = (.ok (), sender) :=
    ⟨_, by rw [TransactionSender.openTransaction_eq, if_neg hdup, if_neg hzero]⟩
  have hopened := ((containsTransaction_open hopen).2 txid).2 (.inr rfl)
  unfold sendLocked
  rw [if_neg hpaused, hopen]
  dsimp only
  split
  · exact hopened
  · next frames sender₁ happend =>
    have happended : sender₁.containsTransaction txid = true :=
      (containsTransaction_append happend txid).trans hopened
    have hfinished := containsTransaction_finish sender₁ txid now txid
    rw [happended] at hfinished
    split
    · next sender₂ hfinish =>
      rw [hfinish] at hfinished
      exact hfinished
    · next tail sender₂ hfinish =>
      rw [hfinish] at hfinished
      split
      · exact hfinished
      · exact hfinished

/-! ## The call, stretch by stretch -/

/-- What holds of the call at each of its suspension points, against the
session it was made in. -/
def SendAt (s₀ s : Session) (txid : TxId) (payload : Bytes) : SendPc → Prop
  | .lock => s.state = s₀.state
  | .flush _ | .announce =>
    ¬ Refuses s₀ txid payload ∧ s.state.sender.containsTransaction txid = true
  | .returned _ => Refuses s₀ txid payload ∧ s.state = s₀.state ∨
    ¬ Refuses s₀ txid payload ∧ s.state.sender.containsTransaction txid = true

/-- The task runs the call, and it is where it should be. -/
def Sends (s₀ : Session) (k : ℕ) (txid : TxId) (payload : Bytes) (onComplete : Bool) (conn : ℕ)
    (s : Session) : Prop :=
  ∃ pc, s.tasks.get? k = some (.sendBinary txid payload onComplete conn pc) ∧
    SendAt s₀ s txid payload pc

theorem Sends.setTask {pc : SendPc} (h : SendAt s₀ s txid payload pc) :
    Sends s₀ k txid payload onComplete conn
      (s.setTask k (.sendBinary txid payload onComplete conn pc)) := by
  refine ⟨pc, Table.get?_insert_self _ _ _, ?_⟩
  cases pc with
  | lock | flush frames | announce | returned ok => exact h

/-- **One stretch of the call.** -/
theorem Sends.step (h : Sends s₀ k txid payload onComplete conn s)
    (hstep : Session.step s (.advance k now outcomes) = some s') :
    Sends s₀ k txid payload onComplete conn s' := by
  obtain ⟨pc, hget, hat⟩ := h
  rw [Session.step, hget, Option.bind_some, advance] at hstep
  cases pc with
  | lock =>
    -- the only stretch that touches the tables
    have hstate : s.state = s₀.state := hat
    have hrefuses : Refuses s txid payload ↔ Refuses s₀ txid payload := by
      rw [Refuses, Refuses, hstate]
    rw [advanceSend] at hstep
    by_cases href : Refuses s₀ txid payload
    · rw [sendLocked_of_refuses (hrefuses.2 href)] at hstep
      cases hstep
      exact .setTask (.inl ⟨href, hstate⟩)
    · have hpend : (s.sendLocked k txid payload onComplete now).2.state.sender.containsTransaction
          txid = true := containsTransaction_sendLocked fun h => href (hrefuses.1 h)
      split at hstep
      · next s₁ hlock =>
        rw [hlock] at hpend
        cases hstep
        exact .setTask (.inr ⟨href, hpend⟩)
      · next frames s₁ hlock =>
        rw [hlock] at hpend
        cases hstep
        exact .setTask ⟨href, hpend⟩
  | flush frames =>
    obtain ⟨href, hpend⟩ := hat
    cases frames with
    | nil =>
      cases hstep
      exact .setTask ⟨href, hpend⟩
    | cons frame rest =>
      rw [advanceSend, attempt] at hstep
      cases hok : outcomes.headD true with
      | true =>
        rw [hok] at hstep
        cases hstep
        exact .setTask ⟨href, hpend⟩
      | false =>
        rw [hok] at hstep
        cases hstep
        exact .setTask (.inr ⟨href, hpend⟩)
  | announce =>
    obtain ⟨href, hpend⟩ := hat
    cases hstep
    exact .setTask (.inr ⟨href, hpend⟩)
  | returned ok => cases hstep

/-- **A failed `send_binary` leaves the tables as they were exactly where it
was refused**, whatever the transport does. -/
theorem failed_send_iff
    (hrun : run step s (.start k (.sendBinary txid payload onComplete conn) :: acts) = some s')
    (hown : ∀ a ∈ acts, ∃ now outcomes, a = .advance k now outcomes)
    (hfailed : s'.tasks.get? k =
      some (.sendBinary txid payload onComplete conn (.returned false))) :
    SameTables s s' ↔ Refuses s txid payload := by
  have hstart : SendAt s s txid payload .lock := rfl
  have hsends : Sends s k txid payload onComplete conn s' :=
    call_induct (fun _ _ _ _ ht hstep => ht.step hstep) (.setTask hstart) hown hrun
  obtain ⟨pc, hget, hat⟩ := hsends
  rw [hfailed] at hget
  cases hget
  rcases hat with ⟨href, hstate⟩ | ⟨href, hpend⟩
  · refine iff_of_true (fun id => ?_) href
    rw [hstate]
    exact ⟨rfl, rfl⟩
  · refine iff_of_false (fun hsame => ?_) href
    -- the transaction is pending, and was not
    have hnew : ¬ s.state.sender.containsTransaction txid = true := fun h => href (.inr (.inl h))
    rw [TransactionSender.containsTransaction, Table.contains, (hsame txid).1] at hpend
    exact hnew hpend

namespace Sample

/-- One byte is sent where nothing may be unacknowledged. -/
def atCap : List Action := [.start 0 (.sendBinary zeroId [7] true 0), .advance 0 0 []]

/-- Five bytes are sent where four may be unacknowledged. -/
def overCap : List Action := [.start 0 (.sendBinary zeroId [1, 2, 3, 4, 5] true 0), .advance 0 0 []]

/-- One byte is sent, and its frame is not written. -/
def unwritten : List Action :=
  [.start 0 (.sendBinary zeroId [7] true 0), .advance 0 0 [], .advance 0 0 [false]]

end Sample

theorem failed_send_iff_sample :
    ∃ s, run step (new { sender := { backpressureCapBytes := 0 } } 0) Sample.atCap = some s ∧
      s.tasks.get? 0 = some (.sendBinary zeroId [7] true 0 (.returned false)) ∧
      SameTables (new { sender := { backpressureCapBytes := 0 } } 0) s := by
  obtain ⟨s, hrun, hfailed⟩ :
      ∃ s, run step (new { sender := { backpressureCapBytes := 0 } } 0) Sample.atCap = some s ∧
        s.tasks.get? 0 = some (.sendBinary zeroId [7] true 0 (.returned false)) := by decide
  have hrefuses : Refuses (new { sender := { backpressureCapBytes := 0 } } 0) zeroId [7] := by
    decide
  have hown : ∀ a ∈ [Action.advance 0 0 []], ∃ now outcomes, a = .advance 0 now outcomes :=
    fun a ha => ⟨0, [], List.mem_singleton.1 ha⟩
  exact ⟨_, hrun, hfailed, (failed_send_iff hrun hown hfailed).2 hrefuses⟩

/-- **A failed call leaves its transaction behind**: the cap admits the call
and not its payload, and the slot stays open; or the first write fails, and
slot and callback stay. -/
theorem pending_after_failed_send :
    (∃ s, run step (new { sender := { backpressureCapBytes := 4 } } 0) Sample.overCap = some s ∧
      s.tasks.get? 0 = some (.sendBinary zeroId [1, 2, 3, 4, 5] true 0 (.returned false)) ∧
      s.state.sender.containsTransaction zeroId = true) ∧
    ∃ s, run step (new {} 0) Sample.unwritten = some s ∧
      s.tasks.get? 0 = some (.sendBinary zeroId [7] true 0 (.returned false)) ∧
      s.state.sender.containsTransaction zeroId = true ∧
      s.state.completions.get? zeroId = some (.user 0) := by
  decide

end Session

end Transfer

end Xacpp
