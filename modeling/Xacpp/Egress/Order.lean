import Mathlib.Data.List.Infix
import Xacpp.Egress.Model
/-!
# What the egress puts on the wire

Each channel goes out in the order it was queued in, nothing lost, doubled
or torn while the drain lives: the wire is the frames the drain has taken,
one behind the other, with the last possibly cut short. The data frames
queued before `close` are written before the writer shuts down.

`DrainStep` and `CallStep` say once what a step can do.
-/

namespace Xacpp

open Transfer (Channel)

namespace Egress

variable {s s' : Egress} {sub : Submission} {channel : Channel} {a : Action}

@[simp] theorem on_append (xs ys : List Submission) :
    on channel (xs ++ ys) = on channel xs ++ on channel ys := List.filter_append ..

/-! ## What a step can do -/

/-- What the callers and the transport can do. -/
inductive CallStep (s : Egress) : Egress → Prop
  /-- A call starts, or goes on and queues nothing. -/
  | moves {k : ℕ} {call : Call} {connected closed : Bool} :
      CallStep s ({ s with connected := connected, closed := closed }.setCall k call)
  | submit {k : ℕ} {entry : Entry} {frame : Bytes} {call : Call} (hhandles : s.handles = true)
      (hgone : s.drain ≠ .gone) : CallStep s ((s.push ⟨k, entry, frame⟩).setCall k call)
  | pushClose {k : ℕ} {call : Call} (hgone : s.drain ≠ .gone) :
      CallStep s (s.pushClose.setCall k call)
  | dropHandles : CallStep s { s with handles := false }
  | store (connected closed : Bool) :
      CallStep s { s with connected := connected, closed := closed }

/-- What the drain can do. -/
inductive DrainStep (s : Egress) : Egress → Prop
  | takeControl {sub : Submission} {rest : List Submission} (hdrain : s.drain = .pollControl)
      (hcontrol : s.control = sub :: rest) : DrainStep s ({ s with control := rest }.take sub)
  | idleControl (hdrain : s.drain = .pollControl) (hidle : s.controlOpen = false ∨ s.control = []) :
      DrainStep s { s with drain := .pollData }
  | shutControl (hdrain : s.drain = .pollControl) (hopen : s.controlOpen = true)
      (hcontrol : s.control = []) (hhandles : s.handles = false) :
      DrainStep s { s with controlOpen := false }
  | takeData {sub : Submission} {rest : List EgressItem} (hdrain : s.drain = .pollData)
      (hdata : s.data = .frame sub :: rest) : DrainStep s ({ s with data := rest }.take sub)
  | takeClose {rest : List EgressItem} (hdrain : s.drain = .pollData)
      (hdata : s.data = .close :: rest) :
      DrainStep s { s with data := rest, drain := .shutdown }
  | idleData (hdrain : s.drain = .pollData) (hdata : s.data = []) (hhandles : s.handles = true) :
      DrainStep s { s with drain := .pollControl }
  | shutData (hdrain : s.drain = .pollData) (hdata : s.data = []) (hhandles : s.handles = false) :
      DrainStep s { s with drain := .shutdown }
  | disconnect {channel : Channel} (hdrain : s.drain = .failed channel) :
      DrainStep s { s with connected := false, drain := .markClosed channel }
  | mark {channel : Channel} (hdrain : s.drain = .markClosed channel) :
      DrainStep s { s with closed := true, drain := .clearing channel }
  | clearedControl (hdrain : s.drain = .clearing .control) :
      DrainStep s { s with drain := .shutdown }
  | clearedData (hdrain : s.drain = .clearing .data) : DrainStep s { s with drain := .failing }
  | failFrame {sub : Submission} {rest : List EgressItem} (hdrain : s.drain = .failing)
      (hdata : s.data = .frame sub :: rest) :
      DrainStep s ({ s with data := rest }.ack false sub.writeAck)
  | failClose {rest : List EgressItem} (hdrain : s.drain = .failing)
      (hdata : s.data = .close :: rest) : DrainStep s { s with data := rest }
  | allFailed (hdrain : s.drain = .failing) (hdata : s.data = []) :
      DrainStep s { s with drain := .shutdown }
  | leave (hdrain : s.drain = .shutdown) :
      DrainStep s { s with drain := .gone, control := [], data := [] }
  | write {sub : Submission} {rest : Bytes} {n : ℕ} (hdrain : s.drain = .writing sub rest) :
      DrainStep s { s with drain := .writing sub (rest.drop n), wire := s.wire ++ rest.take n }
  | flush {sub : Submission} (hdrain : s.drain = .writing sub []) :
      DrainStep s ({ s with drain := .pollControl }.ack true sub.writeAck)
  | fail {sub : Submission} {rest : Bytes} (hdrain : s.drain = .writing sub rest) :
      DrainStep s
        ({ s with drain := .failed sub.entry.channel, broken := true }.ack false sub.writeAck)

theorem advanceSend_step {k : ℕ} {entry : Entry} {frame : Bytes} {pc : SendPc}
    (hhandles : s.handles = true) (h : s.advanceSend k entry frame pc = some s') :
    CallStep s s' := by
  cases pc with
  | check =>
    rw [advanceSend] at h
    split at h <;> cases h <;> exact .moves
  | enqueue =>
    unfold advanceSend at h
    dsimp only at h
    split at h
    · cases h
      exact .moves
    · next hgone => cases entry <;> cases h <;> exact .submit hhandles hgone
  | awaitWrite =>
    rw [advanceSend] at h
    split at h
    · cases h
      exact .moves
    · cases h
      exact .moves
    · split at h <;> cases h
      exact .moves
  | returned result => cases h

theorem advanceClose_step {k : ℕ} {pc : ClosePc} (h : s.advanceClose k pc = some s') :
    CallStep s s' := by
  cases pc with
  | store | markClosed =>
    cases h
    exact .moves
  | enqueue =>
    rw [advanceClose] at h
    split at h
    · cases h
      exact .moves
    · next hgone =>
      cases h
      exact .pushClose hgone
  | returned => cases h

theorem start_step {k : ℕ} {call : Call} (h : s.start k call = some s') : CallStep s s' := by
  obtain ⟨-, ⟨⟩⟩ := Option.ite_none_right_eq_some.1 h
  exact .moves

theorem advanceDrain_step (h : s.advanceDrain = some s') : DrainStep s s' := by
  unfold advanceDrain at h
  split at h
  · next hdrain =>
    split at h
    · next hopen =>
      split at h
      · next sub rest hcontrol =>
        cases h
        exact .takeControl hdrain hcontrol
      · next hcontrol =>
        split at h
        · cases h
          exact .idleControl hdrain (.inr hcontrol)
        · next hhandles =>
          cases h
          exact .shutControl hdrain hopen hcontrol (Bool.eq_false_of_not_eq_true hhandles)
    · next hopen =>
      cases h
      exact .idleControl hdrain (.inl (Bool.eq_false_of_not_eq_true hopen))
  · next hdrain =>
    split at h
    · next sub rest hdata =>
      cases h
      exact .takeData hdrain hdata
    · next rest hdata =>
      cases h
      exact .takeClose hdrain hdata
    · next hdata =>
      split at h
      · next hhandles =>
        cases h
        exact .idleData hdrain hdata hhandles
      · next hhandles =>
        cases h
        exact .shutData hdrain hdata (Bool.eq_false_of_not_eq_true hhandles)
  · cases h
  · next hdrain =>
    cases h
    exact .disconnect hdrain
  · next hdrain =>
    cases h
    exact .mark hdrain
  · next hdrain =>
    cases h
    exact .clearedControl hdrain
  · next hdrain =>
    cases h
    exact .clearedData hdrain
  · next hdrain =>
    split at h
    · next sub rest hdata =>
      cases h
      exact .failFrame hdrain hdata
    · next rest hdata =>
      cases h
      exact .failClose hdrain hdata
    · next hdata =>
      cases h
      exact .allFailed hdrain hdata
  · next hdrain =>
    cases h
    exact .leave hdrain
  · cases h

/-- **What a step can do.** -/
theorem step_cases (h : s.step a = some s') : DrainStep s s' ∨ CallStep s s' := by
  cases a with
  | drain => exact .inl (advanceDrain_step h)
  | write n =>
    rw [step, write] at h
    split at h
    · next sub rest hdrain =>
      rw [Option.ite_none_right_eq_some, Option.some.injEq] at h
      obtain ⟨hn, rfl⟩ := h
      exact .inl (.write hdrain)
    · cases h
  | flush =>
    rw [step, flush] at h
    split at h
    · next sub hdrain =>
      cases h
      exact .inl (.flush hdrain)
    · cases h
  | fail =>
    rw [step, fail] at h
    split at h
    · next sub rest hdrain =>
      cases h
      exact .inl (.fail hdrain)
    · cases h
  | send | close => exact .inr (start_step h)
  | advance k =>
    rw [step, Option.ite_none_right_eq_some] at h
    obtain ⟨call, -, hadvance⟩ := Option.bind_eq_some_iff.1 h.2
    cases call with
    | send entry frame pc => exact .inr (advanceSend_step h.1 hadvance)
    | close pc => exact .inr (advanceClose_step hadvance)
  | dropHandles =>
    cases h
    exact .inr .dropHandles
  | store connected closed =>
    cases h
    exact .inr (.store connected closed)

/-! ## The queues -/

theorem push_queued (sub : Submission) (channel : Channel) :
    (s.push sub).queued channel = s.queued channel ++ on channel [sub] := by
  cases channel with
  | control => rfl
  | data => simp [queued, push, Function.comp_def, EgressItem.frame?]

theorem pushClose_queued : s.pushClose.queued = s.queued := by
  funext channel
  cases channel <;> simp [queued, pushClose, EgressItem.frame?]

/-- The frames ahead of the first `Close`. -/
def ahead : List EgressItem → List Submission
  | [] | .close :: _ => []
  | .frame sub :: rest => sub :: ahead rest

@[simp] theorem ahead_map_frame (subs : List Submission) :
    ahead (subs.map EgressItem.frame) = subs := by
  induction subs with
  | nil => rfl
  | cons sub subs ih => rw [List.map_cons, ahead, ih]

theorem ahead_append (items more : List EgressItem) :
    ahead (items ++ more) = ahead items ++ if .close ∈ items then [] else ahead more := by
  induction items with
  | nil => simp [ahead]
  | cons item items ih =>
    cases item with
    | close => simp [ahead]
    | frame sub => simp [ahead, ih]

/-- What is to be written before the writer shuts down. -/
def promised (s : Egress) : List Submission := s.beforeClose.getD s.submitted

/-! ## What holds of every reachable state -/

/-- A failed write leaves the end of a frame unsent. -/
def Torn (taken : List Submission) (broken : Bool) (unsent : Bytes) : Prop :=
  if broken then ∃ sub, [sub] <:+ taken ∧ unsent <:+ sub.frame else unsent = []

/-- How much of what the drain has taken the writer may lack: the rest of the
frame in hand, and nothing between frames. -/
def DrainPc.Owes (taken : List Submission) (broken : Bool) (unsent : Bytes) : DrainPc → Prop
  | .pollControl | .pollData => unsent = [] ∧ broken = false
  | .writing sub rest => unsent = rest ∧ broken = false ∧ [sub] <:+ taken ∧ rest <:+ sub.frame
  | .failed _ | .markClosed _ | .clearing _ | .failing | .shutdown | .gone =>
    Torn taken broken unsent

theorem DrainPc.owes_of_ended {pc : DrainPc} {taken : List Submission} {broken : Bool}
    {unsent : Bytes} (h : pc.live = false) :
    pc.Owes taken broken unsent ↔ Torn taken broken unsent := by
  cases pc with
  | pollControl | pollData | writing => cases h
  | _ => exact Iff.rfl

structure Sound (s : Egress) : Prop where
  /-- Each channel is taken in order. -/
  ordered : ∀ channel, on channel s.taken <+: on channel s.submitted
  /-- A live drain loses nothing, and the frames ahead of the first `Close`
  are what is to be written yet. -/
  queues : s.drain.live = true →
    (∀ channel, on channel s.submitted = on channel s.taken ++ s.queued channel) ∧
      (s.beforeClose = none ↔ .close ∉ s.data) ∧
      on .data s.promised = on .data s.taken ++ ahead s.data
  /-- The wire is the frames the drain has taken, up to what it owes. -/
  carried : ∃ unsent, s.taken.flatMap Submission.frame = s.wire ++ unsent ∧
    s.drain.Owes s.taken s.broken unsent
  /-- A drain that ends without a failed write has written what it had to. -/
  ended : s.drain.live = false → s.broken = false →
    on .data s.promised = on .data s.taken ∧ (s.beforeClose = none → s.handles = false)
  /-- The control channel closes with the last handle, and empty. -/
  shut : s.controlOpen = false → s.handles = false ∧ s.control = []

/-- A frame that is queued belongs to its channel. -/
theorem Sound.channel_of_queued (h : Sound s) (hlive : s.drain.live = true)
    (hmem : sub ∈ s.queued channel) : sub.entry.channel = channel := by
  have hon : sub ∈ on channel s.submitted := by
    rw [(h.queues hlive).1]
    exact List.mem_append_right _ hmem
  simpa using (List.mem_filter.1 hon).2

theorem Sound.channel_control {rest : List Submission} (h : Sound s)
    (hdrain : s.drain = .pollControl) (hcontrol : s.control = sub :: rest) :
    sub.entry.channel = .control :=
  h.channel_of_queued (by rw [hdrain]; rfl) (by simp [queued, hcontrol])

theorem Sound.channel_data {rest : List EgressItem} (h : Sound s) (hdrain : s.drain = .pollData)
    (hdata : s.data = .frame sub :: rest) : sub.entry.channel = .data :=
  h.channel_of_queued (by rw [hdrain]; rfl) (by simp [queued, hdata, EgressItem.frame?])

/-- The queues and the histories are left as they are. -/
theorem Sound.rest (h : Sound s) {connected closed : Bool} {drain : DrainPc}
    {calls : Table ℕ Call} {writeAcks : Table ℕ Bool} (hlive : drain.live = s.drain.live)
    (howes : ∀ unsent, s.drain.Owes s.taken s.broken unsent →
      drain.Owes s.taken s.broken unsent) :
    Sound { s with
      connected := connected, closed := closed, drain := drain, calls := calls,
      writeAcks := writeAcks } where
  ordered := h.ordered
  queues := fun ht => h.queues (hlive ▸ ht)
  carried := h.carried.imp fun unsent hunsent => ⟨hunsent.1, howes unsent hunsent.2⟩
  ended := fun ht => h.ended (hlive ▸ ht)
  shut := h.shut

/-- Once the drain has ended it does as it likes with the queues. -/
theorem Sound.wind (h : Sound s) {connected closed : Bool} {drain : DrainPc}
    {control : List Submission} {data : List EgressItem} {writeAcks : Table ℕ Bool}
    (hs : s.drain.live = false) (hdrain : drain.live = false)
    (hcontrol : control = s.control ∨ control = []) :
    Sound { s with
      connected := connected, closed := closed, drain := drain, control := control, data := data,
      writeAcks := writeAcks } where
  ordered := h.ordered
  queues := fun ht => Bool.noConfusion (hdrain.symm.trans ht)
  carried := h.carried.imp fun _ hunsent =>
    ⟨hunsent.1, (DrainPc.owes_of_ended hdrain).2 ((DrainPc.owes_of_ended hs).1 hunsent.2)⟩
  ended := fun _ => h.ended hs
  shut := fun hshut => ⟨(h.shut hshut).1, hcontrol.elim (fun heq => heq ▸ (h.shut hshut).2) id⟩

/-- The drain takes the first frame of a channel. -/
theorem Sound.take (h : Sound s) (hpoll : s.drain = .pollControl ∨ s.drain = .pollData)
    {control : List Submission} {data : List EgressItem} {t : Egress}
    (ht : t = { s with control := control, data := data })
    (hqueued : ∀ channel, s.queued channel = on channel [sub] ++ t.queued channel)
    (hclose : EgressItem.close ∈ data ↔ .close ∈ s.data)
    (hahead : ahead s.data = on .data [sub] ++ ahead data) (hshut : s.control = [] → control = []) :
    Sound (t.take sub) := by
  have hlive : s.drain.live = true := by
    obtain hs | hs := hpoll <;> rw [hs] <;> rfl
  obtain ⟨hsubmitted, hmarked, hpromised⟩ := h.queues hlive
  have hsplit : ∀ channel,
      on channel s.submitted = on channel (s.taken ++ [sub]) ++ t.queued channel := by
    intro channel
    rw [hsubmitted, hqueued, on_append, List.append_assoc]
  obtain ⟨unsent, hbytes, howes⟩ := h.carried
  have hnone : unsent = [] ∧ s.broken = false := by
    obtain hs | hs := hpoll <;> rw [hs] at howes <;> exact howes
  subst ht
  refine ⟨fun channel => ⟨_, (hsplit channel).symm⟩, fun _ => ⟨hsplit, ?_, ?_⟩,
    ⟨sub.frame, ?_, rfl, hnone.2, List.suffix_append _ _, List.suffix_rfl⟩,
    fun hended => Bool.noConfusion hended, fun hopen => (h.shut hopen).imp_right hshut⟩
  · exact hmarked.trans (not_congr hclose.symm)
  · change on .data s.promised = on .data (s.taken ++ [sub]) ++ ahead data
    rw [hpromised, hahead, on_append, List.append_assoc]
  · change (s.taken ++ [sub]).flatMap _ = s.wire ++ sub.frame
    rw [List.flatMap_append, hbytes, hnone.1]
    simp

/-- The loop ends without a failed write. -/
theorem Sound.finish (h : Sound s) {data : List EgressItem} (hdrain : s.drain = .pollData)
    (hahead : ahead s.data = []) (hhandles : s.beforeClose = none → s.handles = false) :
    Sound { s with data := data, drain := .shutdown } := by
  obtain ⟨-, -, hpromised⟩ := h.queues (by rw [hdrain]; rfl)
  rw [hahead, List.append_nil] at hpromised
  obtain ⟨unsent, hbytes, howes⟩ := h.carried
  rw [hdrain] at howes
  refine ⟨h.ordered, fun ht => Bool.noConfusion ht, ⟨unsent, hbytes, ?_⟩,
    fun _ _ => ⟨hpromised, hhandles⟩, h.shut⟩
  change Torn s.taken s.broken unsent
  rw [Torn, howes.2]
  exact howes.1

theorem DrainStep.sound (hstep : DrainStep s s') (h : Sound s) : Sound s' := by
  cases hstep with
  | takeControl hdrain hcontrol =>
    have hsub := h.channel_control hdrain hcontrol
    refine h.take (.inl hdrain) rfl (fun channel => ?_) Iff.rfl (by simp [on, hsub])
      (by simp [hcontrol])
    cases channel <;> simp [queued, on, hsub, hcontrol]
  | takeData hdrain hdata =>
    have hsub := h.channel_data hdrain hdata
    refine h.take (.inr hdrain) rfl (fun channel => ?_) (by simp [hdata])
      (by simp [on, hsub, hdata, ahead]) id
    cases channel <;> simp [queued, on, hsub, hdata, EgressItem.frame?]
  | takeClose hdrain hdata =>
    refine h.finish hdrain (by rw [hdata]; rfl) fun hnone => ?_
    have := (h.queues (by rw [hdrain]; rfl)).2.1.1 hnone
    simp [hdata] at this
  | shutData hdrain hdata hhandles => exact h.finish hdrain (by rw [hdata]; rfl) fun _ => hhandles
  | shutControl hdrain hopen hcontrol hhandles =>
    exact { h with shut := fun _ => ⟨hhandles, hcontrol⟩ }
  | idleControl hdrain | idleData hdrain =>
    refine h.rest (by rw [hdrain]; rfl) fun _ howes => ?_
    rw [hdrain] at howes
    exact howes
  | flush hdrain =>
    refine h.rest (by rw [hdrain]; rfl) fun _ howes => ?_
    rw [hdrain] at howes
    exact ⟨howes.1, howes.2.1⟩
  | disconnect hdrain | mark hdrain | clearedControl hdrain | clearedData hdrain | failFrame hdrain
  | failClose hdrain | allFailed hdrain =>
    exact h.wind (by rw [hdrain]; rfl) (by first | rfl | rw [hdrain]; rfl) (.inl rfl)
  | leave hdrain => exact h.wind (by rw [hdrain]; rfl) rfl (.inr rfl)
  | @write sub rest n hdrain =>
    obtain ⟨unsent, hbytes, howes⟩ := h.carried
    rw [hdrain] at howes
    obtain ⟨rfl, hbroken, hlast, hsuffix⟩ := howes
    refine ⟨h.ordered, fun _ => h.queues (by rw [hdrain]; rfl), ⟨unsent.drop n, ?_, rfl, hbroken,
      hlast, (List.drop_suffix n unsent).trans hsuffix⟩, fun ht => Bool.noConfusion ht, h.shut⟩
    rw [List.append_assoc, List.take_append_drop]
    exact hbytes
  | @fail sub rest hdrain =>
    refine ⟨h.ordered, fun ht => Bool.noConfusion ht, h.carried.imp fun unsent hunsent => ?_,
      fun _ hfine => Bool.noConfusion hfine, h.shut⟩
    have howes := hunsent.2
    rw [hdrain] at howes
    exact ⟨hunsent.1, sub, howes.2.2.1, howes.1 ▸ howes.2.2.2⟩

theorem Sound.push (h : Sound s) (hhandles : s.handles = true) (sub : Submission) :
    Sound (s.push sub) where
  ordered := fun channel => (h.ordered channel).trans (by simp [Egress.push])
  queues := by
    intro hlive
    obtain ⟨hsubmitted, hmarked, hpromised⟩ := h.queues hlive
    refine ⟨fun channel => ?_, by simpa [Egress.push] using hmarked, ?_⟩
    · rw [push_queued, ← List.append_assoc]
      exact (on_append _ _).trans (by rw [hsubmitted]; rfl)
    change on .data (s.beforeClose.getD (s.submitted ++ [sub])) =
      on .data s.taken ++ ahead (s.data ++ (on .data [sub]).map .frame)
    rw [ahead_append, ← List.append_assoc, ← hpromised, promised]
    cases hbefore : s.beforeClose with
    | none => simp [hmarked.1 hbefore]
    | some subs =>
      have hclose : EgressItem.close ∈ s.data := by
        by_contra hnot
        cases hbefore.symm.trans (hmarked.2 hnot)
      simp [hclose]
  carried := h.carried
  ended := by
    intro hlive hfine
    obtain ⟨hpromised, hdropped⟩ := h.ended hlive hfine
    cases hbefore : s.beforeClose with
    | none => cases hhandles.symm.trans (hdropped hbefore)
    | some subs =>
      rw [promised, hbefore] at hpromised
      refine ⟨?_, fun hnone => ?_⟩
      · change on .data (s.beforeClose.getD _) = _
        rw [hbefore]
        exact hpromised
      · cases hbefore.symm.trans hnone
  shut := fun hopen => Bool.noConfusion (hhandles.symm.trans (h.shut hopen).1)

/-- The first `Close` stands behind what is queued, and a later one behind
the first. -/
theorem Sound.pushClose (h : Sound s) : Sound s.pushClose where
  ordered := h.ordered
  queues := by
    intro hlive
    obtain ⟨hsubmitted, -, hpromised⟩ := h.queues hlive
    refine ⟨by rw [pushClose_queued]; exact hsubmitted, by simp [Egress.pushClose], ?_⟩
    change on .data s.promised = on .data s.taken ++ ahead (s.data ++ [.close])
    rw [ahead_append, hpromised]
    simp [ahead]
  carried := h.carried
  ended := fun hlive hfine =>
    ⟨(h.ended hlive hfine).1, fun hnone => absurd hnone (Option.some_ne_none _)⟩
  shut := h.shut

theorem CallStep.sound (hstep : CallStep s s') (h : Sound s) : Sound s' := by
  cases hstep with
  | moves | store => exact h.rest rfl fun _ howes => howes
  | submit hhandles hgone => exact (h.push hhandles _).rest rfl fun _ howes => howes
  | pushClose hgone => exact h.pushClose.rest rfl fun _ howes => howes
  | dropHandles =>
    exact ⟨h.ordered, h.queues, h.carried, fun hlive hfine =>
      ⟨(h.ended hlive hfine).1, fun _ => rfl⟩, fun hopen => ⟨rfl, (h.shut hopen).2⟩⟩

theorem sound_new (connected : Bool) : Sound (new connected) where
  ordered := fun _ => List.prefix_rfl
  queues := fun _ => ⟨fun channel => by cases channel <;> rfl, by simp [new], rfl⟩
  carried := ⟨[], rfl, rfl, rfl⟩
  ended := fun hlive => Bool.noConfusion hlive
  shut := fun hopen => Bool.noConfusion hopen

theorem sound_step (h : Sound s) (hstep : s.step a = some s') : Sound s' := by
  obtain hdrain | hcall := step_cases hstep
  · exact hdrain.sound h
  · exact hcall.sound h

theorem sound_run {connected : Bool} {as : List Action}
    (hrun : run step (new connected) as = some s) : Sound s :=
  run_induct (fun _ _ _ ht hstep => sound_step ht hstep) (sound_new connected) hrun

/-! ## The wire -/

/-- What is missing on the wire is the end of the last frame. -/
theorem DrainPc.Owes.cut {pc : DrainPc} {taken : List Submission} {broken : Bool} {unsent : Bytes}
    (h : pc.Owes taken broken unsent) :
    unsent = [] ∨ ∃ sub, [sub] <:+ taken ∧ unsent <:+ sub.frame := by
  cases pc with
  | pollControl | pollData => exact .inl h.1
  | writing sub rest => exact .inr ⟨sub, h.2.2.1, h.1 ▸ h.2.2.2⟩
  | _ =>
    cases broken with
    | true => exact .inr h
    | false => exact .inl h

/-- **The wire is what was queued.** In every run, the bytes on the wire are
frames the drain has taken, whole and one behind the other, of which only
the last may be cut short; on each channel these are the first frames queued
there, in order; and as long as the drain lives, the rest of them is still
queued. -/
theorem wire_of_run {connected : Bool} {as : List Action} {s : Egress}
    (hrun : run step (new connected) as = some s) :
    (∃ unsent, s.taken.flatMap Submission.frame = s.wire ++ unsent ∧
      (unsent = [] ∨ ∃ sub, [sub] <:+ s.taken ∧ unsent <:+ sub.frame)) ∧
    (∀ channel, on channel s.taken <+: on channel s.submitted) ∧
    (s.drain.live = true →
      ∀ channel, on channel s.submitted = on channel s.taken ++ s.queued channel) := by
  have h := sound_run hrun
  exact ⟨h.carried.imp fun unsent hunsent => ⟨hunsent.1, hunsent.2.cut⟩, h.ordered,
    fun hlive => (h.queues hlive).1⟩

namespace Sample

/-- The drain is within the first of two data frames when a control frame is
queued. -/
def traffic : List Action :=
  [.send 0 .sendAcked [1, 2], .advance 0, .advance 0, .send 1 .sendFaf [3], .advance 1, .advance 1,
    .drain, .drain, .write 1, .send 2 .sendControl [9], .advance 2, .advance 2]

/-- The rest of the frame in hand, and the frame of the control channel. -/
def control : List Action := [.write 1, .flush, .drain, .write 1, .flush]

/-- `close`, with a data frame still queued. -/
def teardown : List Action :=
  [.close 3, .advance 3, .advance 3, .drain, .drain, .write 1, .flush, .drain, .drain]

end Sample

theorem wire_of_run_traffic : ∃ s, run step (new true) Sample.traffic = some s ∧
    s.wire = [1] ∧ (∃ unsent, s.taken.flatMap Submission.frame = s.wire ++ unsent) ∧
      ∀ channel, on channel s.submitted = on channel s.taken ++ s.queued channel := by
  obtain ⟨s, hrun, hwire, hlive⟩ : ∃ s, run step (new true) Sample.traffic = some s ∧
      s.wire = [1] ∧ s.drain.live = true := by decide
  obtain ⟨⟨unsent, hbytes, -⟩, -, hqueued⟩ := wire_of_run hrun
  exact ⟨_, hrun, hwire, ⟨unsent, hbytes⟩, hqueued hlive⟩

/-- **`close` flushes.** A drain that has ended without a failed write has
put on the wire, whole, exactly the data frames queued before the first
`close`, or all of them where the handles were dropped instead. -/
theorem flushed_of_run {connected : Bool} {as : List Action} {s : Egress}
    (hrun : run step (new connected) as = some s) (hended : s.drain.live = false)
    (hfine : s.broken = false) :
    s.wire = s.taken.flatMap Submission.frame ∧
      on .data (s.beforeClose.getD s.submitted) = on .data s.taken := by
  have h := sound_run hrun
  refine ⟨?_, (h.ended hended hfine).1⟩
  obtain ⟨unsent, hbytes, howes⟩ := h.carried
  have hnone : unsent = [] := by
    rw [DrainPc.owes_of_ended hended, hfine] at howes
    exact howes
  rw [hbytes, hnone, List.append_nil]

theorem flushed_of_run_teardown :
    ∃ s, run step (new true) (Sample.traffic ++ (Sample.control ++ Sample.teardown)) = some s ∧
      s.wire = [1, 2, 9, 3] ∧ s.wire = s.taken.flatMap Submission.frame ∧
        on .data (s.beforeClose.getD s.submitted) = on .data s.taken := by
  obtain ⟨s, hrun, hwire, hended, hfine⟩ :
      ∃ s, run step (new true) (Sample.traffic ++ (Sample.control ++ Sample.teardown)) = some s ∧
        s.wire = [1, 2, 9, 3] ∧ s.drain.live = false ∧ s.broken = false := by decide
  exact ⟨_, hrun, hwire, flushed_of_run hrun hended hfine⟩

/-! ## The control channel goes first -/

/-- Until `n` control frames are taken, at most `m` data frames are, with the
one the drain may take where it is between its two polls. -/
structure Passes (n m : ℕ) (s : Egress) : Prop where
  queued : n ≤ (on .control s.submitted).length
  taken : (on .control s.taken).length < n →
    (on .data s.taken).length + (if s.drain = .pollData then 1 else 0) ≤ m

variable {n m : ℕ}

theorem Passes.keep (h : Passes n m s) (hsubmitted : s'.submitted = s.submitted)
    (htaken : s'.taken = s.taken) (hpoll : s'.drain = .pollData → s.drain = .pollData) :
    Passes n m s' := by
  refine ⟨hsubmitted ▸ h.queued, fun hlt => ?_⟩
  rw [htaken] at hlt ⊢
  refine (Nat.add_le_add_left ?_ _).trans (h.taken hlt)
  split
  · next hs' => rw [if_pos (hpoll hs')]
  · exact Nat.zero_le _

theorem DrainStep.passes (hstep : DrainStep s s') (hsound : Sound s) (h : Passes n m s) :
    Passes n m s' := by
  cases hstep with
  | takeControl hdrain hcontrol =>
    have hsub := hsound.channel_control hdrain hcontrol
    refine ⟨h.queued, fun hlt => ?_⟩
    have hold := h.taken
    simp [take, on, hsub, hdrain] at hlt hold ⊢
    omega
  | takeData hdrain hdata =>
    have hsub := hsound.channel_data hdrain hdata
    refine ⟨h.queued, fun hlt => ?_⟩
    have hold := h.taken
    simp [take, on, hsub, hdrain] at hlt hold ⊢
    omega
  | idleControl hdrain hidle =>
    -- the channel is empty, and so all of them were taken
    refine ⟨h.queued, fun hlt => ?_⟩
    have hempty : s.control = [] := hidle.elim (fun hshut => (hsound.shut hshut).2) id
    have hall := (hsound.queues (by rw [hdrain]; rfl)).1 .control
    rw [queued, hempty, List.append_nil] at hall
    exact absurd (hall ▸ h.queued) (Nat.not_le.2 hlt)
  | idleData hdrain => exact h.keep rfl rfl fun _ => hdrain
  | shutControl | failFrame | failClose => exact h.keep rfl rfl id
  | _ => exact h.keep rfl rfl fun hpoll => DrainPc.noConfusion hpoll

theorem CallStep.passes (hstep : CallStep s s') (h : Passes n m s) : Passes n m s' := by
  cases hstep with
  | submit => exact ⟨h.queued.trans (by simp [push, setCall]), h.taken⟩
  | _ => exact h.keep rfl rfl id

/-- **The control channel goes first.** From a reachable state on, as long as
a control frame queued there is not taken, no data frame passes it but one,
and that only where the drain had found the control channel empty before. -/
theorem control_first {connected : Bool} {as bs : List Action}
    (hreach : run step (new connected) as = some s) (hrun : run step s bs = some s')
    (hwaits : (on .control s'.taken).length < (on .control s.submitted).length) :
    (on .data s'.taken).length ≤
      (on .data s.taken).length + if s.drain = .pollData then 1 else 0 := by
  refine (Nat.le_add_right _ _).trans ((run_induct (I := fun t => Sound t ∧ Passes _ _ t) ?_
    ⟨sound_run hreach, le_rfl, fun _ => le_rfl⟩ hrun).2.taken hwaits)
  rintro t a t' ⟨ht, hpasses⟩ hstep
  refine ⟨sound_step ht hstep, ?_⟩
  obtain hdrain | hcall := step_cases hstep
  · exact hdrain.passes ht hpasses
  · exact hcall.passes hpasses

theorem control_first_traffic : ∃ s s', run step (new true) Sample.traffic = some s ∧
    run step s [.write 1, .flush] = some s' ∧ (on .control s.submitted).length = 1 ∧
      (on .data s'.taken).length ≤
        (on .data s.taken).length + if s.drain = .pollData then 1 else 0 := by
  obtain ⟨s, s', hrun, hrun', hone, hwaits⟩ : ∃ s s', run step (new true) Sample.traffic = some s ∧
      run step s [.write 1, .flush] = some s' ∧ (on .control s.submitted).length = 1 ∧
        (on .control s'.taken).length < (on .control s.submitted).length := by decide
  exact ⟨_, _, hrun, hrun', hone, control_first hrun hrun' hwaits⟩

end Egress

end Xacpp
