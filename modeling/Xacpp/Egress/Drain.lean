import Xacpp.Carrier.Queues
import Xacpp.Egress.Order
/-!
# The drain with its bytes

Without its bytes the drain of `Egress` is the one of `Drains`, the same the
requests queue their frames for.

`Drains` takes a data frame only where no control frame is queued. Here the
drain polls one channel after the other, and a control frame that comes
between the two polls waits for what the second one finds: it counts from
then on.
-/

namespace Xacpp

open Relation (ReflTransGen)
open Carrier (Drains drains_pushControl)

namespace Egress

variable {s s' : Egress}

/-- The item without its bytes. -/
def EgressItem.toItem : EgressItem → Carrier.EgressItem
  | .frame sub => .frame sub.writeAck
  | .close => .close

/-- The control frames before the drain, where `queued` are in the channel:
with the one in hand, and without those it is to find only when it polls
again. -/
def DrainPc.control (queued : ℕ) : DrainPc → ℕ
  | .pollData => 0
  | .writing sub _ => if sub.entry.channel = .control then queued + 1 else 0
  | _ => queued

/-- The data frame in hand. -/
def DrainPc.inHand : DrainPc → List Carrier.EgressItem
  | .writing sub _ => if sub.entry.channel = .data then [.frame sub.writeAck] else []
  | _ => []

def DrainPc.stage : DrainPc → Carrier.QueueStage
  | .pollControl | .pollData | .writing .. => .draining
  | .failed channel | .markClosed channel => .marking (channel = .data)
  | .clearing channel => .clearing (channel = .data)
  | .failing => .failing
  | .shutdown => .shutdown
  | .gone => .gone

/-- What the drain works on. -/
def drained (s : Egress) : Carrier.Queue × Table ℕ Bool :=
  (⟨s.drain.control s.control.length, s.drain.inHand ++ s.data.map EgressItem.toItem,
    s.drain.stage⟩, s.writeAcks)

theorem stage_ne_gone {pc : DrainPc} (h : pc ≠ .gone) : pc.stage ≠ .gone := by
  cases pc with
  | gone => exact absurd rfl h
  | _ => exact Carrier.QueueStage.noConfusion

theorem drains_push (hgone : s.drain ≠ .gone) (item : EgressItem) :
    Drains s.drained { s with data := s.data ++ [item] }.drained := by
  rw [drained, drained, List.map_append, ← List.append_assoc]
  exact .push item.toItem (stage_ne_gone hgone)

/-- A control frame that is queued is seen, or will be. -/
theorem control_succ (pc : DrainPc) (queued : ℕ) :
    pc.control (queued + 1) = pc.control queued ∨
      pc.control (queued + 1) = pc.control queued + 1 := by
  cases pc with
  | pollData => exact .inl rfl
  | writing sub rest =>
    simp only [DrainPc.control]
    split
    · exact .inr rfl
    · exact .inl rfl
  | _ => exact .inr rfl

theorem CallStep.drains (hstep : CallStep s s') : ReflTransGen Drains s.drained s'.drained := by
  cases hstep with
  | moves | dropHandles | store => exact .refl
  | @submit k entry frame call hhandles hgone =>
    cases entry with
    | sendAcked | sendFaf =>
      simpa [drained, Egress.push, setCall, on, Entry.channel] using
        ReflTransGen.single (drains_push hgone (.frame ⟨k, _, frame⟩))
    | sendControl =>
      rcases control_succ s.drain s.control.length with heq | heq
      · simp [drained, Egress.push, setCall, on, Entry.channel, heq, ReflTransGen.refl]
      · simpa [drained, Egress.push, setCall, on, Entry.channel, heq] using
          ReflTransGen.single (Drains.pushControl (stage_ne_gone hgone))
  | pushClose hgone => exact .single (drains_push hgone .close)

theorem DrainStep.drains (hstep : DrainStep s s') (h : Sound s) :
    ReflTransGen Drains s.drained s'.drained := by
  cases hstep with
  | takeControl hdrain hcontrol =>
    have hsub := h.channel_control hdrain hcontrol
    convert ReflTransGen.refl using 1
    simp [drained, take, hdrain, hcontrol, hsub, DrainPc.control, DrainPc.inHand, DrainPc.stage]
  | takeData hdrain hdata =>
    have hsub := h.channel_data hdrain hdata
    convert ReflTransGen.refl using 1
    simp [drained, take, hdrain, hdata, hsub, DrainPc.control, DrainPc.inHand, DrainPc.stage,
      EgressItem.toItem]
  | idleControl hdrain hidle =>
    have hempty : s.control = [] := hidle.elim (fun hshut => (h.shut hshut).2) id
    rw [drained, hdrain, hempty]
    exact .refl
  | takeClose hdrain hdata =>
    rw [drained, hdrain, hdata]
    exact .head .close (drains_pushControl (by decide) _)
  | idleData hdrain hdata =>
    rw [drained, hdrain, hdata]
    exact drains_pushControl (by decide) _
  | shutData hdrain hdata =>
    rw [drained, hdrain, hdata]
    exact .head .closed (drains_pushControl (by decide) _)
  | disconnect hdrain =>
    rw [drained, hdrain]
    exact .refl
  | mark hdrain =>
    rw [drained, hdrain]
    exact .single .mark
  | clearedControl hdrain | clearedData hdrain =>
    rw [drained, hdrain]
    exact .single .clear
  | failFrame hdrain hdata =>
    rw [drained, hdrain, hdata]
    exact .single .failFrame
  | failClose hdrain hdata =>
    rw [drained, hdrain, hdata]
    exact .single .failClose
  | allFailed hdrain hdata =>
    rw [drained, hdrain, hdata]
    exact .single .failed
  | leave hdrain =>
    rw [drained, hdrain]
    exact .single .leave
  | shutControl => exact .refl
  | write hdrain =>
    rw [drained, hdrain]
    exact .refl
  | @flush sub hdrain =>
    obtain ⟨k, entry, frame⟩ := sub
    rw [drained, hdrain]
    cases entry with
    | sendAcked | sendFaf => exact .head (.frame true) (drains_pushControl (by decide) _)
    | sendControl => exact .single (.control true)
  | @fail sub rest hdrain =>
    obtain ⟨k, entry, frame⟩ := sub
    rw [drained, hdrain]
    cases entry with
    | sendAcked | sendFaf => exact .head (.frame false) (drains_pushControl (by decide) _)
    | sendControl => exact .single (.control false)

/-- **A run of the egress is a run of the drain.** -/
theorem drains_of_run {connected : Bool} {as : List Action}
    (hrun : run step (new connected) as = some s) : ReflTransGen Drains ({}, ∅) s.drained := by
  refine (run_induct (I := fun t => Sound t ∧ ReflTransGen Drains ({}, ∅) t.drained) ?_
    ⟨sound_new connected, .refl⟩ hrun).2
  rintro t a t' ⟨ht, hdrains⟩ hstep
  refine ⟨sound_step ht hstep, hdrains.trans ?_⟩
  rcases step_cases hstep with hdrain | hcall
  · exact hdrain.drains ht
  · exact hcall.drains

end Egress

end Xacpp
