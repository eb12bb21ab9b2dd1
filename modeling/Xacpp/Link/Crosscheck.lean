import Xacpp.Link.Wire
/-!
# The mirror cross-check

A receiver that handles a `RESUME` drops every open incomplete slot the
frame does not name, on the ground that its holder is gone. The frame may
be a full declaration or the repetition of the part that timed out, and it
may have been taken before a transaction was opened whose data overtook it.
The cross-check is right where every declaration on its way names all that
is pending on one side and awaited on the other (`Covered`), and `KeepsCover`
lists the steps that could end that.
-/

namespace Xacpp

open Reliability Transfer

namespace Transfer

/-! ## What the cross-check leaves alone -/

namespace SessionState

variable {st : SessionState} {id : TxId}

theorem Surface.spared_dropReceive (h : Surface (fun _ => False) st) {id' : TxId}
    (hne : id ≠ id') (terminal : StreamInner → StreamInner) :
    (st.dropReceive id' terminal).streams.get? id = st.streams.get? id ∧
      ∀ object : ℕ, st.streams.get? id = some object →
        (st.dropReceive id' terminal).objects[object]? = st.objects[object]? := by
  have hstreams : (st.dropReceive id' terminal).streams = (st.endStream id' terminal).streams := rfl
  have hobjects : (st.dropReceive id' terminal).objects = (st.endStream id' terminal).objects := rfl
  rw [hstreams, hobjects]
  unfold endStream
  cases hget' : st.streams.get? id' with
  | none => exact ⟨rfl, fun _ _ => rfl⟩
  | some object' =>
    refine ⟨Table.get?_erase_of_ne _ hne, fun object hget => ?_⟩
    have hother : object' ≠ object := by
      rintro rfl
      exact hne (h.object_inj hget hget')
    exact List.getElem?_modify_ne terminal st.objects hother

/-- A transaction the cross-check does not list keeps its stream. -/
theorem Surface.spared (h : Surface (fun _ => False) st) {ids : List TxId} (hid : id ∉ ids) :
    (Handling.dropAbandoned st ids).streams.get? id = st.streams.get? id ∧
      ∀ object : ℕ, st.streams.get? id = some object →
        (Handling.dropAbandoned st ids).objects[object]? = st.objects[object]? := by
  induction ids generalizing st with
  | nil => exact ⟨rfl, fun _ _ => rfl⟩
  | cons id' rest ih =>
    have hne : id ≠ id' := fun heq => hid (heq ▸ List.mem_cons_self)
    obtain ⟨hstream, hobject⟩ := h.spared_dropReceive hne fun inner => inner.finish .cancelled
    have hnext := (h.dropReceive (endsStream_finish .cancelled rfl) id').1
    obtain ⟨hstream', hobject'⟩ := ih hnext fun hmem => hid (List.mem_cons_of_mem _ hmem)
    refine ⟨hstream'.trans hstream, fun object hget => ?_⟩
    exact (hobject' object (hstream.trans hget)).trans (hobject object hget)

end SessionState

namespace Session

variable {s s' : Session} {conn now : ℕ} {frame : Frame} {outcomes : List Bool}
variable {declared : List AckEntry} {id : TxId}

/-- Handling a declaration is the cross-check, as far as the receive side is
concerned. -/
theorem adjudicated_state (hstep : s.step (.inbound conn frame now outcomes) = some s')
    (hread : declaration? frame = some declared) :
    SameSurface (Handling.dropAbandoned (s.state.touch now)
      (Handling.abandoned s.state.reassembler declared)) s'.state := by
  have htype := frameType_of_declaration hread
  rw [declaration?, if_pos htype] at hread
  obtain ⟨hdec, hne⟩ := Option.filter_eq_some_iff.1 hread
  cases hpayload : decodeResumeRequest frame.payload with
  | error e =>
    rw [hpayload] at hdec
    cases hdec
  | ok entries =>
    rw [hpayload] at hdec
    cases hdec
    rw [Bool.not_eq_true'] at hne
    cases step_steps hstep with
    | idle hsame htasks hquiet => cases hquiet
    | received hconn =>
      rw [receive_state, handleInbound]
      simp only [Handling.dispatch, htype, Handling.onResumeRequestFrame, hpayload, hne,
        Bool.false_eq_true, if_false]
      exact Handling.sameSurface_writeControl
        ((Handling.start (s.state.touch now) outcomes).withState _) _ _

/-- What a declaration leaves of the transactions it names: everything. -/
theorem named_spared (hs : SessionState.Surface (fun _ => False) s.state)
    (hstep : s.step (.inbound conn frame now outcomes) = some s')
    (hread : declaration? frame = some declared)
    (hnamed : id ∈ declared.map AckEntry.transactionId) :
    s'.state.reassembler.slots.get? id = s.state.reassembler.slots.get? id ∧
      s'.state.streams.get? id = s.state.streams.get? id ∧
      ∀ object : ℕ, s.state.streams.get? id = some object →
        s'.state.objects[object]? = s.state.objects[object]? := by
  have hstate := adjudicated_state hstep hread
  have hout : id ∉ Handling.abandoned s.state.reassembler declared := by
    intro hmem
    obtain ⟨slot, -, -, hunnamed⟩ := Handling.mem_abandoned_iff.1 hmem
    exact hunnamed hnamed
  have htouch : SameSurface s.state (s.state.touch now) := ⟨rfl, rfl, rfl, rfl⟩
  have htouched := htouch.surface hs
  obtain ⟨hstream, hobject⟩ := htouched.spared hout
  refine ⟨?_, ?_, fun object hget => ?_⟩
  · rw [hstate.reassembler, Handling.get?_dropAbandoned, if_neg hout]
    rfl
  · rw [hstate.streams]
    exact hstream
  · rw [hstate.objects]
    exact hobject object hget

/-- And of the others: no slot that is still awaited. -/
theorem named_of_awaits (hstep : s.step (.inbound conn frame now outcomes) = some s')
    (hread : declaration? frame = some declared) (hawaits : s'.state.awaits id = true) :
    id ∈ declared.map AckEntry.transactionId := by
  obtain ⟨slot, hget, hopen⟩ := Handling.awaits_iff.1 hawaits
  rw [(adjudicated_state hstep hread).reassembler, Handling.get?_dropAbandoned] at hget
  split at hget
  · cases hget
  · next hout =>
    change s.state.reassembler.slots.get? id = some slot at hget
    by_contra hunnamed
    exact hout (Handling.mem_abandoned_iff.2 ⟨slot, hget, hopen, hunnamed⟩)

end Session

end Transfer

namespace Link

variable {l l' : Link} {a : Action} {id : TxId}

/-- Every declaration on its way names the transaction. -/
def Covered (l : Link) (id : TxId) : Prop :=
  ∀ declared ∈ l.declarations, id ∈ declared.map AckEntry.transactionId

instance (l : Link) (id : TxId) : Decidable (l.Covered id) :=
  inferInstanceAs (Decidable (∀ declared ∈ l.declarations, _))

/-- What the holder's action declares again on the connection. -/
def redeclares (l : Link) : Session.Action → List AckEntry
  | .advance k now _ =>
    if l.holder.tasks.get? k = some (.clock l.conn .idle) then l.holder.redeclaration now else []
  | _ => []

/-- **What keeps declarations complete.** A transaction whose slot is awaited
is opened, and one that is pending gets its slot, only while every
declaration on its way names it; and what is declared again names all that
is pending and awaited. -/
def KeepsCover (l : Link) : Action → Prop
  | .holder a =>
    (∀ id ∈ l.holder.opens a, l.receiver.state.awaits id = true → l.Covered id) ∧
      (l.redeclares a ≠ [] → ∀ id ∈ l.holder.state.sender.pending.keys,
        l.receiver.state.awaits id = true →
          id ∈ (l.redeclares a).map AckEntry.transactionId)
  | .receiver a =>
    ∀ id ∈ l.receiver.opensSlot a, l.holder.state.sender.containsTransaction id = true →
      l.Covered id
  | _ => True

instance decidableKeepsCover (l : Link) : ∀ a, Decidable (l.KeepsCover a)
  | .holder _ => inferInstanceAs (Decidable (_ ∧ _))
  | .receiver a => inferInstanceAs (Decidable (∀ id ∈ l.receiver.opensSlot a, _ → _))
  | .pumpOutgoing | .pumpIncoming | .reconnect .. => isTrue trivial

/-- The invariant: what both sides still hold, every declaration names. -/
structure Cover (l : Link) : Prop where
  framing : l.Framing
  surface : SessionState.Surface (fun _ => False) l.receiver.state
  covered : ∀ id, l.holder.state.sender.containsTransaction id = true →
    l.receiver.state.awaits id = true → l.Covered id

theorem Cover.new (holder receiver : TransferConfig) (now : ℕ) :
    Cover (new holder receiver now) where
  framing := .new holder receiver now
  surface := SessionState.surface_new receiver now
  covered _ hpend := by cases hpend

theorem Cover.step (h : Cover l) (hguard : l.KeepsCover a) (hstep : l.step a = some l') :
    Cover l' := by
  refine ⟨h.framing.step hstep, ?_, fun id hpend hawaits declared hmem => ?_⟩
  · cases step_steps hstep with
    | receiver hhandle hs => exact (Session.step_flows hs h.surface).1
    | holder hhandle hs => exact h.surface
    | pumpOutgoing hpump | pumpIncoming hpump | reconnect => exact h.surface
  -- a declaration that was on its way, and the pair that both sides hold
  have hkept : declared ∈ l.declarations → id ∈ declared.map AckEntry.transactionId := by
    intro hwas
    cases step_steps hstep with
    | holder hhandle hs =>
      rcases (Session.step_fate h.framing.holder.hold hs id).pending_origin hpend with hp | hopens
      · exact h.covered id hp hawaits declared hwas
      · exact hguard.1 id hopens hawaits declared hwas
    | receiver hhandle hs =>
      rcases Session.awaits_origin hs hawaits with hw | hopens
      · exact h.covered id hpend hw declared hwas
      · exact hguard id hopens hpend declared hwas
    | pumpOutgoing hpump | pumpIncoming hpump | reconnect =>
      exact h.covered id hpend hawaits declared hwas
  cases declaration_step h.framing hstep hmem with
  | kept hwas => exact hkept hwas
  | taken hget hentries =>
    cases step_steps hstep with
    | holder hhandle hs =>
      rcases (Session.step_fate h.framing.holder.hold hs id).pending_origin hpend with hp | hopens
      · -- the snapshot names whatever is pending
        rw [hentries, Session.ids_declarePending, Table.mem_keys_iff]
        exact Table.contains_iff.1 hp
      · simp only [Session.opens, hget] at hopens
        exact absurd hopens List.not_mem_nil
  | @again k now outcomes hget hne hentries =>
    cases step_steps hstep with
    | holder hhandle hs =>
      rcases (Session.step_fate h.framing.holder.hold hs id).pending_origin hpend with hp | hopens
      · have hre : l.redeclares (.advance k now outcomes) = declared :=
          (if_pos hget).trans hentries.symm
        rw [← hre]
        exact hguard.2 (hre ▸ hne) id (Table.mem_keys_iff.2 (Table.contains_iff.1 hp)) hawaits
      · simp only [Session.opens, hget] at hopens
        exact absurd hopens List.not_mem_nil

/-- **The cross-check spares what its holder still holds**, in runs that keep
declarations complete: the slot, its stream entry and its stream object are
as they were. -/
theorem crosscheck_spares_pending {holder receiver : TransferConfig} {start now : ℕ}
    {acts : List Action} {frame : Frame} {outcomes : List Bool} {declared : List AckEntry}
    (hrun : run step (new holder receiver start) acts = some l)
    (hmeets : RunMeets step KeepsCover (new holder receiver start) acts)
    (hread : declaration? frame = some declared)
    (hstep : l.step (.receiver (.inbound l.conn frame now outcomes)) = some l')
    (hpend : l.holder.state.sender.containsTransaction id = true)
    (hawaits : l.receiver.state.awaits id = true) :
    l'.receiver.state.reassembler.slots.get? id = l.receiver.state.reassembler.slots.get? id ∧
      l'.receiver.state.streams.get? id = l.receiver.state.streams.get? id ∧
      ∀ object : ℕ, l.receiver.state.streams.get? id = some object →
        l'.receiver.state.objects[object]? = l.receiver.state.objects[object]? := by
  have h : Cover l := run_induct_of (fun _ _ _ h hguard hs => h.step hguard hs)
    (Cover.new holder receiver start) hmeets hrun
  cases step_steps hstep with
  | receiver hhandle hs =>
    have hway := mem_declarations.2 (.inr ⟨frame, (Pipe.of_handle hhandle).2, hread⟩)
    exact Session.named_spared h.surface hs hread (h.covered id hpend hawaits declared hway)

namespace Sample

/-- The first of two frames arrives, the connection is replaced, and the
declaration is on its way. -/
def redeclared : List Action :=
  wired 0 0 0 ++ [.receiver .onBinaryStream, .holder (.openBinarySink zeroId 4 0)] ++
    called 2 0 (.sinkWrite zeroId [1, 2]) 5 ++
    [.pumpOutgoing, .receiver (.inbound 0 (dataFrame zeroId 4 0 [1, 2]) 0 [])] ++
    unwired 3 0 ++ [.reconnect 1] ++ wired 4 1 0 ++ called 6 0 .declarePendingSends 3 ++
    [.pumpOutgoing]

/-- A transaction is declared and the response is not delivered. Another is
opened, and its first frame arrives. Then the declaration times out. -/
def repeated : List Action :=
  wired 0 0 0 ++ [.receiver .onBinaryStream, .holder (.openBinarySink zeroId 4 0)] ++
    called 2 0 .declarePendingSends 3 ++
    [.pumpOutgoing, .receiver (.inbound 0 (controlFrame .resume
      ([1] ++ writeAckEntry ⟨zeroId, 0, 0⟩)) 0 []), .holder (.openBinarySink otherId 4 1)] ++
    called 3 1 (.sinkWrite otherId [1, 2]) 5 ++
    [.pumpOutgoing, .receiver (.inbound 0 (dataFrame otherId 4 0 [1, 2]) 1 []),
      .holder (.advance 1 2000 []), .pumpOutgoing]

end Sample

/-- The declared transaction keeps its slot. -/
theorem crosscheck_spares_pending_sample :
    ∃ l l', run step Sample.start Sample.redeclared = some l ∧
      l.step (.receiver (.inbound 1 (controlFrame .resume
        ([1] ++ writeAckEntry ⟨zeroId, 0, 1⟩)) 1 [])) = some l' ∧
      l'.receiver.state.reassembler.slots.get? zeroId =
        l.receiver.state.reassembler.slots.get? zeroId := by
  obtain ⟨l, l', hrun, hstep, hconn, hpend, hawaits⟩ :
      ∃ l l', run step Sample.start Sample.redeclared = some l ∧
        l.step (.receiver (.inbound 1 (controlFrame .resume
          ([1] ++ writeAckEntry ⟨zeroId, 0, 1⟩)) 1 [])) = some l' ∧
        l.conn = 1 ∧ l.holder.state.sender.containsTransaction zeroId = true ∧
        l.receiver.state.awaits zeroId = true := by decide
  have hmeets : RunMeets step KeepsCover Sample.start Sample.redeclared := by decide
  have hread : declaration? (controlFrame .resume ([1] ++ writeAckEntry ⟨zeroId, 0, 1⟩)) =
      some [⟨zeroId, 0, 1⟩] := by decide
  refine ⟨_, l', hrun, hstep, ?_⟩
  rw [← hconn] at hstep
  exact (crosscheck_spares_pending hrun hmeets hread hstep hpend hawaits).1

/-- The repeated declaration names the first transaction alone: the slot of
the second is dropped and its stream cancelled, and its holder holds it
still. -/
theorem dropped_though_pending :
    ∃ l l', run step Sample.start Sample.repeated = some l ∧
      l.step (.receiver (.inbound 0 (controlFrame .resume
        ([1] ++ writeAckEntry ⟨zeroId, 0, 0⟩)) 2001 [])) = some l' ∧
      l.holder.state.sender.containsTransaction Sample.otherId = true ∧
      l.receiver.state.awaits Sample.otherId = true ∧
      l'.receiver.state.reassembler.slots.get? Sample.otherId = none ∧
      l.receiver.state.streams.get? Sample.otherId = some 0 ∧
      l'.receiver.state.objects[0]?.map StreamInner.state = some .cancelled := by
  decide

end Link

end Xacpp
