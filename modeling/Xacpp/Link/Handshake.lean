import Xacpp.Link.Agreement
import Xacpp.Link.Crosscheck
/-!
# What the handshake settles

After a reconnect the receiver may hold slots whose transactions the holder
has given up. The cross-check of a declaration ends them, and it is the only
thing that does: with nothing left to declare the holder writes no
`RESUME`, and the slots stay. `Settles` lists what a run needs for the
handshake to do its work: ids that are opened fresh; and while old slots are
left, a declaration that is not empty, fits its frame and is written, and no
abort of one of theirs after it. Then, once no declaration is on its way,
every slot and every stream that outlived the old connection is that of a
pending transaction.
-/

namespace Xacpp

open Reliability Transfer

namespace Transfer.Session

variable {s s' : Session} {k now conn : ℕ} {outcomes : List Bool} {declared : List AckEntry}

/-- The transaction the action aborts. -/
def aborts (s : Session) : Action → Option TxId
  | .advance k _ _ => (s.tasks.get? k).bind Task.aborts?
  | _ => none

/-- The action may fail to write the declaration its task has taken. -/
def drops (s : Session) (c : ℕ) : Action → Bool
  | .advance k _ outcomes =>
    ((s.tasks.get? k).bind (Task.declaration? c)).isSome && outcomes.any fun ok => !ok
  | _ => false

/-- A declaration that fits its frame is read as it was taken. -/
theorem declared_sent
    (hk : s.tasks.get? k = some (.declarePendingSends (.write conn declared)))
    (hne : declared ≠ []) (hmax : declared.length ≤ 255) (haccept : ∀ ok ∈ outcomes, ok = true)
    (hstep : s.step (.advance k now outcomes) = some s') :
    ∃ w ∈ s.sentTo conn s', declaration? w.frame = some declared := by
  obtain ⟨bytes, hbytes⟩ := encodeAckEntries_of_le (Nat.zero_le _) hmax
  have hwrites : controlFrames (s.sentBy conn (.advance k now outcomes)) =
      controlOf .resume (encodeResumeRequest declared) := declare_writes hk haccept
  rw [sentBy, hstep] at hwrites
  have hmem : controlFrame .resume bytes ∈ controlFrames (s.sentTo conn s') := by
    rw [hwrites]
    exact mem_controlOf.2 ⟨bytes, hbytes, rfl⟩
  obtain ⟨w, hw, heq⟩ := List.mem_map.1 hmem
  refine ⟨w, (List.mem_filter.1 hw).1, ?_⟩
  rw [heq, declaration_controlFrame hbytes]
  refine Option.filter_eq_some_iff.2 ⟨rfl, ?_⟩
  rw [Bool.not_eq_true']
  exact Bool.eq_false_iff.2 fun hempty => hne (List.isEmpty_iff.1 hempty)

theorem eq_of_declaration {t : Task} (h : t.declaration? conn = some declared) :
    t = .declarePendingSends (.write conn declared) := by
  unfold Task.declaration? at h
  split at h
  · split at h
    · next hc =>
      subst hc
      rw [Option.some.injEq] at h
      rw [h]
    · cases h
  · cases h

end Transfer.Session

namespace Link

variable {l l' : Link} {a : Action} {id : TxId} {declared : List AckEntry}

/-! ## Declarations on their way -/

/-- A declaration that fits stays on its way through the holder's steps,
unless its write fails. -/
theorem HolderStep.declarations {a : Session.Action} (h : HolderStep l a l')
    (hdrops : l.holder.drops l.conn a = false) (hne : declared ≠ [])
    (hmax : declared.length ≤ 255) (hmem : declared ∈ l.declarations) :
    declared ∈ l'.declarations := by
  have hs := h.session
  rw [mem_declarations, h.conn, h.outgoing]
  rcases mem_declarations.1 hmem with ⟨k, t, hget, hd⟩ | ⟨f, hf, hd⟩
  · have ht := Session.eq_of_declaration hd
    subst ht
    by_cases hadv : ∃ now outcomes, a = .advance k now outcomes
    · obtain ⟨now, outcomes, rfl⟩ := hadv
      have haccept : ∀ ok ∈ outcomes, ok = true := by
        simp only [Session.drops, hget, Option.bind_some, hd, Option.isSome_some, Bool.true_and,
          List.any_eq_false, Bool.not_eq_true', Bool.not_eq_false] at hdrops
        exact hdrops
      obtain ⟨w, hw, hread⟩ := Session.declared_sent hget hne hmax haccept hs
      exact .inr ⟨w.frame, Pipe.mem_frames_foldl.2 (.inr ⟨w, hw, rfl⟩), hread⟩
    · refine .inl ⟨k, _, Session.declaring_kept hs (fun now outcomes heq => ?_) hget, hd⟩
      exact hadv ⟨now, outcomes, heq⟩
  · exact .inr ⟨f, Pipe.mem_frames_foldl.2 (.inl hf), hd⟩

/-- What leaves a pipe is what is handled. -/
theorem Pipe.mem_of_handle {p p' : Pipe} {c : ℕ} {a : Session.Action} {f : Frame}
    (h : p.handle c a = some p') (hf : f ∈ p.frames) :
    f ∈ p'.frames ∨ ∃ now outcomes, a = .inbound c f now outcomes := by
  unfold Pipe.handle at h
  split at h
  · next conn frame now outcomes =>
    split at h
    · next hhead =>
      cases h
      obtain ⟨rfl, hhead⟩ := hhead
      simp only [Pipe.frames, List.mem_append] at hf ⊢
      rcases hf with hf | hf | hf
      · exact .inl (.inl hf)
      · exact .inl (.inr (.inl hf))
      · cases hwire : p.wire with
        | nil =>
          rw [hwire] at hf
          exact absurd hf List.not_mem_nil
        | cons first rest =>
          rw [hwire, List.head?_cons, Option.some.injEq] at hhead
          rw [hwire] at hf
          rcases List.mem_cons.1 hf with rfl | hf
          · exact .inr ⟨now, outcomes, by rw [hhead]⟩
          · exact .inl (.inr (.inr hf))
    · cases h
  · cases h
    exact .inl hf

/-- The receiver's steps leave it on its way, or handle it. -/
theorem ReceiverStep.declarations {a : Session.Action} (h : ReceiverStep l a l')
    (hmem : declared ∈ l.declarations) :
    declared ∈ l'.declarations ∨ ∃ frame now outcomes,
      a = .inbound l.conn frame now outcomes ∧ declaration? frame = some declared := by
  rw [mem_declarations, h.conn, h.holder]
  rcases mem_declarations.1 hmem with htask | ⟨f, hf, hd⟩
  · exact .inl (.inl htask)
  · rcases Pipe.mem_of_handle h.handled hf with hf | ⟨now, outcomes, heq⟩
    · exact .inl (.inr ⟨f, hf, hd⟩)
    · exact .inr ⟨f, now, outcomes, heq, hd⟩

theorem declarations_pump {p : Pipe} (hpump : l.outgoing.pump = some p)
    (hmem : declared ∈ l.declarations) : declared ∈ declarations { l with outgoing := p } := by
  refine mem_declarations.2 ((mem_declarations.1 hmem).imp_right ?_)
  rintro ⟨f, hf, hd⟩
  exact ⟨f, (Pipe.mem_frames_pump hpump).2 hf, hd⟩

/-! ## The invariant -/

/-- **What lets the handshake settle the old slots.** What is opened is
fresh. While the receiver has old slots, the first snapshot of the
connection finds something pending, and no more than one frame declares;
its write does not fail; and what has been declared is not aborted while
the receiver awaits it. -/
def Settles (l : Link) : Action → Prop
  | .holder a =>
    l.OpensFresh (.holder a) ∧ (l.carried ≠ [] →
      (l.declared = false → l.holder.snapshots l.conn a = true →
        l.holder.state.sender.pending.keys ≠ [] ∧
          l.holder.state.sender.pending.keys.length ≤ 255) ∧
      l.holder.drops l.conn a = false ∧
      (l.declared = true → ∀ id ∈ l.holder.aborts a, id ∉ l.carried))
  | _ => True

instance decidableSettles (l : Link) : ∀ a, Decidable (l.Settles a)
  | .holder _ => inferInstanceAs (Decidable (_ ∧ _))
  | .receiver .. | .pumpOutgoing | .pumpIncoming | .reconnect .. => isTrue trivial

theorem Settles.opensFresh (h : l.Settles a) : l.OpensFresh a := by
  cases a with
  | holder a => exact h.1
  | _ => trivial

/-- A declaration is on its way that names only pending ones of the old
slots. -/
def Announced (l : Link) : Prop :=
  ∃ declared ∈ l.declarations, declared ≠ [] ∧ declared.length ≤ 255 ∧
    ∀ id ∈ l.carried, id ∈ declared.map AckEntry.transactionId →
      l.holder.state.sender.containsTransaction id = true

/-- The old slots are those of pending transactions. -/
def Mirrored (l : Link) : Prop :=
  ∀ id ∈ l.carried, l.holder.state.sender.containsTransaction id = true

/-- An object of the old connection has ended, or still has its slot. -/
def Attached (l : Link) (id : TxId) (object : ℕ) : Prop :=
  ∃ inner, l.receiver.state.objects[object]? = some inner ∧
    (inner.state.isTerminal = false →
      l.receiver.state.streams.get? id = some object ∧ id ∈ l.carried)

structure Settling (l : Link) : Prop where
  framing : l.Framing
  surface : SessionState.Surface (fun _ => False) l.receiver.state
  agreed : l.Agreed
  awaited : ∀ id ∈ l.carried, l.receiver.state.awaits id = true
  /-- Verdicts on their way resume the old slots. -/
  verdicts : ∀ answered ∈ l.responses, ∀ entry ∈ answered, entry.transactionId ∈ l.carried →
    entry.status = .resumed
  attached : ∀ id object, (id, object) ∈ l.streams → l.Attached id object
  declared : l.declared = true → l.Announced ∨ l.Mirrored

theorem Settling.new (holder receiver : TransferConfig) (now : ℕ) :
    Settling (new holder receiver now) where
  framing := .new holder receiver now
  surface := SessionState.surface_new receiver now
  agreed := .new holder receiver now
  awaited _ hid := absurd hid List.not_mem_nil
  verdicts _ hmem := absurd hmem List.not_mem_nil
  attached _ _ hmem := absurd hmem List.not_mem_nil
  declared h := by cases h

/-- **A pending transaction of an old slot stays pending**, unless it is
aborted. -/
theorem Settling.pending_kept {a : Session.Action} (h : Settling l) (hstep : HolderStep l a l')
    (hid : id ∈ l.carried) (habort : id ∉ l.holder.aborts a)
    (hpend : l.holder.state.sender.containsTransaction id = true) :
    l'.holder.state.sender.containsTransaction id = true := by
  rw [Session.contains_iff_get?] at hpend ⊢
  intro hnone
  have hrel : ∀ {R : PendingTxn → PendingTxn → Prop}, ¬ Option.Rel R
      (l.holder.state.sender.pending.get? id) (l'.holder.state.sender.pending.get? id) := by
    intro R hrel
    rw [hnone] at hrel
    generalize l.holder.state.sender.pending.get? id = copy at hrel hpend
    cases hrel
    exact hpend rfl
  cases Session.step_fate h.framing.holder.hold hstep.session id with
  | rests hrests => exact hrel hrests
  | armed harm hgates => exact hrel hgates
  | framed hget hroom hps hne hleft | opened hnew hopens hleft hgate hreceived htotal =>
    rw [hnone] at hleft
    cases hleft
  | aborted htask hgone => exact habort htask
  | @acked conn frame now outcomes entries hread hleft =>
    obtain ⟨txn, hget⟩ := Option.ne_none_iff_exists'.1 hpend
    obtain ⟨txn', hkept⟩ := h.agreed.kept_by_acks now
      (mem_acks_of_handle hstep.handled hread) hid hget
    rw [hget, hkept, hnone] at hleft
    cases hleft
  | ruled hread hnamed hgone =>
    -- the verdict on an awaited slot is to resume
    obtain ⟨entry, hentry, rfl, hstatus⟩ := hnamed
    have hway := mem_responses.2 ⟨_, (Pipe.of_handle hstep.handled).2, hread⟩
    exact hstatus (h.verdicts _ hway entry hentry hid)

/-- Old slots are given up, never added, while the connection lasts. -/
theorem carried_kept (hstep : l.step a = some l') (hsame : ∀ c, a ≠ .reconnect c)
    (hid : id ∈ l'.carried) : id ∈ l.carried := by
  cases a with
  | holder a => exact (holder_step hstep).carried ▸ hid
  | receiver a =>
    rw [(receiver_step hstep).carried] at hid
    exact (List.mem_filter.1 hid).1
  | pumpOutgoing | pumpIncoming => cases step_steps hstep; exact hid
  | reconnect c => exact absurd rfl (hsame c)

theorem awaited_step (h : ∀ id ∈ l.carried, l.receiver.state.awaits id = true)
    (hstep : l.step a = some l') : ∀ id ∈ l'.carried, l'.receiver.state.awaits id = true := by
  cases step_steps hstep with
  | holder hhandle hs => exact h
  | receiver hhandle hs => exact fun id hid => (List.mem_filter.1 hid).2
  | pumpOutgoing hpump | pumpIncoming hpump => exact h
  | reconnect => exact fun id hid => (List.mem_filter.1 hid).2

/-- The verdict on an awaited slot. -/
theorem verdictFor_of_awaits {st : SessionState} (h : st.awaits id = true) :
    Handling.verdictFor st.reassembler id = .resumed := if_pos h

theorem Settling.verdicts_step (h : Settling l) (hstep : l.step a = some l') :
    ∀ answered ∈ l'.responses, ∀ entry ∈ answered, entry.transactionId ∈ l'.carried →
      entry.status = .resumed := by
  intro answered hmem entry hentry hid
  by_cases hre : ∃ c, a = .reconnect c
  · obtain ⟨c, rfl⟩ := hre
    cases step_steps hstep
    exact absurd hmem List.not_mem_nil
  · have hold := carried_kept hstep (fun c heq => hre ⟨c, heq⟩) hid
    cases response_step h.framing hstep hmem with
    | kept hwas => exact h.verdicts answered hwas entry hentry hold
    | answers hread hway hentries =>
      rw [hentries] at hentry
      obtain ⟨declared, -, rfl⟩ := List.mem_map.1 hentry
      exact verdictFor_of_awaits (h.awaited _ hold)

/-- **An old stream keeps its slot or ends**: its object is never put under
another id. -/
theorem Settling.attached_receiver {a : Session.Action} (h : Settling l)
    (hstep : ReceiverStep l a l') {object : ℕ} (hattached : l.Attached id object) :
    l'.Attached id object := by
  obtain ⟨inner, hget, hopen⟩ := hattached
  obtain ⟨hsurface, hfrozen⟩ := Session.step_flows hstep.session h.surface
  have hentries := Session.step_keepsEntries hstep.session
  cases hterm : inner.state.isTerminal with
  | true =>
    refine ⟨inner, hfrozen object inner hget hterm, fun hlive => ?_⟩
    rw [hterm] at hlive
    cases hlive
  | false =>
    obtain ⟨hstream, hid⟩ := hopen hterm
    have hlt : object < l.receiver.state.objects.length := (List.getElem?_eq_some_iff.1 hget).1
    obtain ⟨inner', hget'⟩ : ∃ inner', l'.receiver.state.objects[object]? = some inner' :=
      ⟨_, List.getElem?_eq_getElem (Nat.lt_of_lt_of_le hlt hentries.length)⟩
    refine ⟨inner', hget', fun hlive => ?_⟩
    -- a live object is in the table, under the id it had
    have hin : ¬ ∀ id', l'.receiver.state.streams.get? id' ≠ some object := by
      rw [← hsurface.live object inner' hget', hlive]
      exact Bool.false_ne_true
    push Not at hin
    obtain ⟨id', hstream'⟩ := hin
    have hwas : l.receiver.state.streams.get? id' = some object :=
      (hentries.entry id' object hstream').resolve_right (by omega)
    have heq := h.surface.object_inj hstream hwas
    subst heq
    refine ⟨hstream', ?_⟩
    rw [hstep.carried]
    have hawaits := Handling.awaits_iff.2 (hsurface.slot id object hstream' not_false)
    exact List.mem_filter.2 ⟨hid, hawaits⟩

/-- At a reconnect every stream stands over a slot that is carried. -/
theorem attached_reconnect {c : ℕ}
    (hsurface : SessionState.Surface (fun _ => False) l.receiver.state)
    (hstep : l.step (.reconnect c) = some l') {object : ℕ} (hmem : (id, object) ∈ l'.streams) :
    l'.Attached id object := by
  cases step_steps hstep with
  | reconnect hholder hreceiver =>
    have hstream := Table.mem_toList.1 hmem
    obtain ⟨inner, hget, -⟩ := hsurface.object id object hstream
    have hslot := hsurface.slot id object hstream not_false
    obtain ⟨slot, hget', -⟩ := hslot
    refine ⟨inner, hget, fun _ => ⟨hstream, List.mem_filter.2 ⟨?_, ?_⟩⟩⟩
    · exact Table.mem_keys_iff.2 ⟨slot, hget'⟩
    · exact Handling.awaits_iff.2 (hsurface.slot id object hstream not_false)

theorem Settling.attached_step (h : Settling l) (hstep : l.step a = some l') :
    ∀ id object, (id, object) ∈ l'.streams → l'.Attached id object := by
  intro id object hmem
  cases a with
  | holder a =>
    have hs := holder_step hstep
    have hwas := h.attached id object (hs.streams ▸ hmem)
    rwa [Attached, ← hs.receiver, ← hs.carried] at hwas
  | receiver a =>
    have hs := receiver_step hstep
    exact h.attached_receiver hs (h.attached id object (hs.streams ▸ hmem))
  | pumpOutgoing | pumpIncoming => cases step_steps hstep; exact h.attached id object hmem
  | reconnect c => exact attached_reconnect h.surface hstep hmem

/-- The holder's step that takes the declaration. -/
theorem announced_of_snapshot {a : Session.Action} (hstep : HolderStep l a l')
    (hsnap : l.holder.snapshots l.conn a = true)
    (hne : l.holder.state.sender.pending.keys ≠ [])
    (hmax : l.holder.state.sender.pending.keys.length ≤ 255) : l'.Announced := by
  cases a with
  | advance k now outcomes =>
    have hget : l.holder.tasks.get? k = some (.declarePendingSends (.snapshot l.conn)) :=
      beq_iff_eq.1 hsnap
    have hids := Session.ids_declarePending l.holder.state.sender now
    have hlen := congrArg List.length hids
    rw [List.length_map] at hlen
    have hentries : (l.holder.state.sender.declarePending now).1 ≠ [] := by
      intro hnil
      rw [hnil] at hids
      exact hne hids.symm
    obtain ⟨hgated, htask⟩ := Session.snapshot_spec hget hstep.session
    rw [if_neg fun hempty => hentries (List.isEmpty_iff.1 hempty)] at htask
    refine ⟨_, mem_declarations.2 (.inl ⟨k, _, htask, ?_⟩), hentries, hlen ▸ hmax,
      fun id _ hnamed => ?_⟩
    · rw [Task.declaration?, if_pos hstep.conn.symm]
    · rw [hids] at hnamed
      exact Session.contains_of_isAwaitingResume ((hgated id).2 hnamed)
  | _ => cases hsnap

theorem Settling.declared_holder {a : Session.Action} (h : Settling l)
    (hguard : l.Settles (.holder a)) (hstep : HolderStep l a l') (hdeclared : l'.declared = true) :
    l'.Announced ∨ l'.Mirrored := by
  rw [hstep.declared, Bool.or_eq_true] at hdeclared
  by_cases hcarried : l.carried = []
  · -- with no old slot there is nothing to settle
    refine .inr fun id hid => ?_
    rw [hstep.carried, hcarried] at hid
    exact absurd hid List.not_mem_nil
  obtain ⟨hsnaps, hdrops, haborts⟩ := hguard.2 hcarried
  by_cases hwas : l.declared = true
  · have hkept : ∀ id ∈ l'.carried, l.holder.state.sender.containsTransaction id = true →
        l'.holder.state.sender.containsTransaction id = true := by
      intro id hid
      rw [hstep.carried] at hid
      exact h.pending_kept hstep hid fun habort => haborts hwas id habort hid
    rcases h.declared hwas with ⟨declared, hmem, hne, hmax, hpend⟩ | hmirrored
    · left
      refine ⟨declared, hstep.declarations hdrops hne hmax hmem, hne, hmax, fun id hid hnamed => ?_⟩
      exact hkept id hid (hpend id (hstep.carried ▸ hid) hnamed)
    · exact .inr fun id hid => hkept id hid (hmirrored id (hstep.carried ▸ hid))
  · have hsnap := hdeclared.resolve_left hwas
    obtain ⟨hne, hmax⟩ := hsnaps (Bool.eq_false_iff.2 hwas) hsnap
    exact .inl (announced_of_snapshot hstep hsnap hne hmax)

/-- **Handling the declaration settles the old slots**: what it does not name
is dropped. -/
theorem Settling.declared_receiver {a : Session.Action} (h : Settling l)
    (hstep : ReceiverStep l a l') (hdeclared : l'.declared = true) :
    l'.Announced ∨ l'.Mirrored := by
  have hkept : ∀ id ∈ l'.carried, id ∈ l.carried ∧ l'.receiver.state.awaits id = true := by
    intro id hid
    rw [hstep.carried] at hid
    exact List.mem_filter.1 hid
  rw [hstep.declared] at hdeclared
  rcases h.declared hdeclared with ⟨declared, hmem, hne, hmax, hpend⟩ | hmirrored
  · rcases hstep.declarations hmem with hmem | ⟨frame, now, outcomes, rfl, hread⟩
    · refine .inl ⟨declared, hmem, hne, hmax, fun id hid hnamed => ?_⟩
      rw [hstep.holder]
      exact hpend id (hkept id hid).1 hnamed
    · refine .inr fun id hid => ?_
      obtain ⟨hold, hawaits⟩ := hkept id hid
      rw [hstep.holder]
      exact hpend id hold (Session.named_of_awaits hstep.session hread hawaits)
  · refine .inr fun id hid => ?_
    rw [hstep.holder]
    exact hmirrored id (hkept id hid).1

theorem Settling.step (h : Settling l) (hguard : l.Settles a) (hstep : l.step a = some l') :
    Settling l' where
  framing := h.framing.step hstep
  surface := by
    cases step_steps hstep with
    | receiver hhandle hs => exact (Session.step_flows hs h.surface).1
    | holder hhandle hs => exact h.surface
    | pumpOutgoing hpump | pumpIncoming hpump | reconnect => exact h.surface
  agreed := h.agreed.step h.framing h.awaited hguard.opensFresh hstep
  awaited := awaited_step h.awaited hstep
  verdicts := h.verdicts_step hstep
  attached := h.attached_step hstep
  declared hdeclared := by
    cases a with
    | holder a => exact h.declared_holder hguard (holder_step hstep) hdeclared
    | receiver a => exact h.declared_receiver (receiver_step hstep) hdeclared
    | pumpOutgoing =>
      cases step_steps hstep with
      | pumpOutgoing hpump =>
        refine (h.declared hdeclared).imp_left ?_
        rintro ⟨declared, hmem, hrest⟩
        exact ⟨declared, declarations_pump hpump hmem, hrest⟩
    | pumpIncoming => cases step_steps hstep; exact h.declared hdeclared
    | reconnect c => cases step_steps hstep; cases hdeclared

/-- **The handshake settles what the old connection left**, in runs that let
it: once the holder has declared and no declaration is on its way, every
incomplete slot that outlived the old connection is that of a pending
transaction, and so is every stream that has not ended. -/
theorem carried_is_pending {holder receiver : TransferConfig} {start : ℕ} {acts : List Action}
    (hrun : run step (new holder receiver start) acts = some l)
    (hmeets : RunMeets step Settles (new holder receiver start) acts)
    (hdeclared : l.declared = true) (hprocessed : l.declarations = []) :
    (∀ id ∈ l.carried, l.holder.state.sender.containsTransaction id = true) ∧
      ∀ id object inner, (id, object) ∈ l.streams →
        l.receiver.state.objects[object]? = some inner → inner.state.isTerminal = false →
        l.holder.state.sender.containsTransaction id = true := by
  have h : Settling l := run_induct_of (fun _ _ _ h hguard hs => h.step hguard hs)
    (Settling.new holder receiver start) hmeets hrun
  have hmirrored : l.Mirrored := by
    refine (h.declared hdeclared).resolve_left ?_
    rintro ⟨declared, hmem, -⟩
    rw [hprocessed] at hmem
    exact List.not_mem_nil hmem
  refine ⟨hmirrored, fun id object inner hmem hget hlive => ?_⟩
  obtain ⟨inner', hget', hopen⟩ := h.attached id object hmem
  rw [hget, Option.some.injEq] at hget'
  subst hget'
  exact hmirrored id (hopen hlive).2

namespace Sample

/-- The first of two frames of a transaction arrives. -/
def begun (k : ℕ) (txid : TxId) : List Action :=
  [.holder (.openBinarySink txid 4 0)] ++ called k 0 (.sinkWrite txid [1, 2]) 5 ++
    [.pumpOutgoing, .receiver (.inbound 0 (dataFrame txid 4 0 [1, 2]) 0 [])]

/-- The first connection declares nothing. Two transactions are underway, and
one is aborted while the sides are apart. The other is declared, and its
verdict is handled. -/
def oneAborted : List Action :=
  wired 0 0 0 ++ called 9 0 .declarePendingSends 2 ++ [.receiver .onBinaryStream] ++
    begun 2 zeroId ++ begun 3 otherId ++
    unwired 4 0 ++ called 5 0 (.sinkAbort zeroId) 2 ++ [.reconnect 1] ++ wired 6 1 0 ++
    called 8 0 .declarePendingSends 3 ++
    [.pumpOutgoing,
      .receiver (.inbound 1 (controlFrame .resume ([1] ++ writeAckEntry ⟨otherId, 0, 1⟩)) 1 []),
      .pumpIncoming, .holder (.inbound 1 (controlFrame .resumeResponse
        ([1] ++ writeResumeStatusEntry ⟨otherId, .resumed⟩)) 1 [])]

/-- The only transaction is aborted while the sides are apart. -/
def allAborted : List Action :=
  wired 0 0 0 ++ [.receiver .onBinaryStream] ++ begun 2 zeroId ++ unwired 3 0 ++
    called 4 0 (.sinkAbort zeroId) 2 ++ [.reconnect 1] ++ wired 5 1 0 ++
    called 7 0 .declarePendingSends 2

end Sample

/-- The slot of the aborted transaction is gone, and the other is pending. -/
theorem carried_is_pending_sample :
    ∃ l, run step Sample.start Sample.oneAborted = some l ∧ l.carried = [Sample.otherId] ∧
      l.holder.state.sender.containsTransaction Sample.otherId = true := by
  obtain ⟨l, hrun, hdeclared, hprocessed, hcarried⟩ :
      ∃ l, run step Sample.start Sample.oneAborted = some l ∧
        l.declared = true ∧ l.declarations = [] ∧ l.carried = [Sample.otherId] := by decide
  have hmeets : RunMeets step Settles Sample.start Sample.oneAborted := by decide +kernel
  refine ⟨_, hrun, hcarried, ?_⟩
  refine (carried_is_pending hrun hmeets hdeclared hprocessed).1 _ ?_
  rw [hcarried]
  exact List.mem_singleton_self _

/-- With nothing pending nothing is declared: the slot and the stream of the
aborted transaction stay open, and nothing is on its way to end them. -/
theorem abandoned_slot_stays :
    ∃ l, run step Sample.start Sample.allAborted = some l ∧ l.declared = true ∧
      l.declarations = [] ∧ l.responses = [] ∧ l.carried = [zeroId] ∧ (zeroId, 0) ∈ l.streams ∧
      l.receiver.state.objects[0]?.map (fun inner => inner.state.isTerminal) = some false ∧
      l.holder.state.sender.containsTransaction zeroId = false := by
  decide

end Link

end Xacpp
