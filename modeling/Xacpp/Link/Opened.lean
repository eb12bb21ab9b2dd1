import Xacpp.Link.Wire
/-!
# Transactions opened on the connection

The handshake is about what was pending when the connection began. A
declaration, however, is taken of whatever is pending when the call runs,
and on one side it runs only once `establish` has completed. A transaction
opened between the wire-up and the call is gated with the others, and its
`RESUME` entry can overtake its first frame, so that the verdict is
`unknown`. `SparesOpened` is the order in which this does not happen: the
gate is armed before anything is opened, and an id is not opened while an
older use of it is still declared or ruled on.
-/

namespace Xacpp

open Reliability Transfer

namespace Transfer.Session

/-- Only gated transactions are declared again. -/
theorem isAwaitingResume_of_redeclared {s : Session} {now : ℕ} {id : TxId}
    (h : id ∈ (s.redeclaration now).map AckEntry.transactionId) :
    s.state.sender.isAwaitingResume id = true := by
  unfold redeclaration at h
  rw [timedOutDeclarations_dueRetransmissions, ids_timedOutDeclarations] at h
  obtain ⟨⟨id', txn⟩, he, rfl⟩ := List.mem_map.1 h
  obtain ⟨hmem, htimed⟩ := List.mem_filter.1 he
  refine isAwaitingResume_iff.2 ⟨txn, Table.mem_toList.1 hmem, ?_⟩
  exact (Bool.and_eq_true_iff.1 htimed).1

/-- The stretches that arm the gate open nothing. -/
theorem opens_of_arms {s : Session} {a : Action} (h : s.arms a = true) : s.opens a = [] := by
  cases a with
  | advance k now outcomes =>
    simp only [arms] at h
    split at h
    · next hget => simp only [opens, hget]
    · next hget => simp only [opens, hget]
    · cases h
  | _ => cases h

/-- A response leaves the copies it does not name. -/
theorem contains_of_response {s s' : Session} {conn now : ℕ} {frame : Frame}
    {outcomes : List Bool} {answered : List ResumeStatusEntry} {id : TxId} (hs : AllHold s)
    (hread : response? frame = some answered)
    (hstep : s.step (.inbound conn frame now outcomes) = some s')
    (hid : id ∉ answered.map ResumeStatusEntry.transactionId) :
    s'.state.sender.containsTransaction id = s.state.sender.containsTransaction id := by
  have hrel : ∀ {R} {copy copy' : Option PendingTxn}, Option.Rel R copy copy' →
      copy'.isSome = copy.isSome := by
    rintro R copy copy' (_ | _) <;> rfl
  cases step_fate hs hstep id with
  | rests h | armed harm h => exact hrel h
  | opened hnew hopens => exact absurd hopens List.not_mem_nil
  | acked hacks hleft =>
    have htype := frameType_of_response hread
    rw [frameType_of_acknowledged hacks] at htype
    cases htype
  | ruled hruled hnamed hgone =>
    rw [hread, Option.some.injEq] at hruled
    subst hruled
    obtain ⟨entry, hentry, hid', -⟩ := hnamed
    exact absurd (List.mem_map.2 ⟨entry, hentry, hid'⟩) hid

end Transfer.Session

namespace Link

variable {l l' : Link} {a : Action} {id : TxId}

/-- No declaration and no verdict on its way is about the transaction. -/
def Unnamed (l : Link) (id : TxId) : Prop :=
  (∀ declared ∈ l.declarations, id ∉ declared.map AckEntry.transactionId) ∧
    ∀ answered ∈ l.responses, id ∉ answered.map ResumeStatusEntry.transactionId

instance (l : Link) (id : TxId) : Decidable (l.Unnamed id) := inferInstanceAs (Decidable (_ ∧ _))

/-- **What spares the transactions of the connection.** When the gate is
armed, none of those opened on the connection is pending; and one that is
opened on the connection is named by nothing on its way. -/
def SparesOpened (l : Link) : Action → Prop
  | .holder a =>
    (l.holder.arms a = true →
      ∀ id ∈ l.opened, l.holder.state.sender.containsTransaction id = false) ∧
      (l.holder.wiredUp l.conn = true → ∀ id ∈ l.holder.opens a, l.Unnamed id)
  | _ => True

instance decidableSparesOpened (l : Link) : ∀ a, Decidable (l.SparesOpened a)
  | .holder _ => inferInstanceAs (Decidable (_ ∧ _))
  | .receiver .. | .pumpOutgoing | .pumpIncoming | .reconnect .. => isTrue trivial

/-- The invariant: an opened transaction is neither gated nor named. -/
structure Spared (l : Link) : Prop where
  framing : l.Framing
  ungated : ∀ id ∈ l.opened, l.holder.state.sender.isAwaitingResume id = false
  unnamed : ∀ id ∈ l.opened, l.Unnamed id

theorem Spared.new (holder receiver : TransferConfig) (now : ℕ) :
    Spared (new holder receiver now) where
  framing := .new holder receiver now
  ungated _ hid := absurd hid List.not_mem_nil
  unnamed _ hid := absurd hid List.not_mem_nil

/-- An opened transaction was opened before, or the holder's step does. -/
theorem opened_origin (hstep : l.step a = some l') (hid : id ∈ l'.opened) :
    id ∈ l.opened ∨ ∃ a', a = .holder a' ∧ l.holder.wiredUp l.conn = true ∧
      id ∈ l.holder.opens a' ∧ l.holder.state.sender.containsTransaction id = false := by
  cases step_steps hstep with
  | @holder a' incoming s hhandle hs =>
    dsimp only at hid
    split at hid
    · next hwired =>
      refine (List.mem_append.1 hid).symm.imp_right fun hby => ⟨a', rfl, hwired, ?_⟩
      obtain ⟨hopens, hnew⟩ := List.mem_filter.1 hby
      rw [Bool.and_eq_true, Bool.not_eq_true'] at hnew
      exact ⟨hopens, hnew.1⟩
    · exact .inl hid
  | receiver hhandle hs | pumpOutgoing hpump | pumpIncoming hpump => exact .inl hid
  | reconnect => exact absurd hid List.not_mem_nil

theorem Spared.step (h : Spared l) (hguard : l.SparesOpened a) (hstep : l.step a = some l') :
    Spared l' := by
  -- before the step nothing named the transaction, whether it was open or is being opened
  have hbefore : ∀ id ∈ l'.opened, l.Unnamed id := by
    intro id hid
    rcases opened_origin hstep hid with hwas | ⟨a', rfl, hwired, hopens, hnew⟩
    · exact h.unnamed id hwas
    · exact hguard.2 hwired id hopens
  have hungated : ∀ id ∈ l'.opened, l.holder.state.sender.isAwaitingResume id = false := by
    intro id hid
    rcases opened_origin hstep hid with hwas | ⟨a', rfl, hwired, hopens, hnew⟩
    · exact h.ungated id hwas
    · exact Session.isAwaitingResume_of_not_contains hnew
  -- an armed gate finds none of them pending
  have harmed : ∀ a', a = .holder a' → l.holder.arms a' = true → ∀ id ∈ l'.opened,
      l.holder.state.sender.containsTransaction id = false := by
    rintro a' rfl harm id hid
    rcases opened_origin hstep hid with hwas | ⟨_, -, -, -, hnew⟩
    · exact hguard.1 harm id hwas
    · exact hnew
  refine ⟨h.framing.step hstep, fun id hid => ?_, fun id hid => ⟨?_, ?_⟩⟩
  · cases step_steps hstep with
    | receiver hhandle hs | pumpOutgoing hpump | pumpIncoming hpump | reconnect =>
      exact hungated id hid
    | @holder a' incoming s hhandle hs =>
      refine Bool.eq_false_iff.2 fun hgate => ?_
      have hfate := Session.step_fate h.framing.holder.hold hs id
      rcases hfate.gate_origin hgate with hgated | harm
      · rw [hungated id hid] at hgated
        cases hgated
      · rcases hfate.pending_origin (Session.contains_of_isAwaitingResume hgate) with hp | hopens
        · rw [harmed a' rfl harm id hid] at hp
          cases hp
        · rw [Session.opens_of_arms harm] at hopens
          exact absurd hopens List.not_mem_nil
  · intro declared hmem hnamed
    cases declaration_step h.framing hstep hmem with
    | kept hwas => exact (hbefore id hid).1 declared hwas hnamed
    | @taken k now outcomes hget hentries =>
      have harm : l.holder.arms (.advance k now outcomes) = true := by
        simp only [Session.arms, hget]
      have hnone := harmed _ rfl harm id hid
      rw [hentries, Session.ids_declarePending, Table.mem_keys_iff] at hnamed
      rw [TransactionSender.containsTransaction, Table.contains_iff.2 hnamed] at hnone
      cases hnone
    | again hget hne hentries =>
      have hgated := Session.isAwaitingResume_of_redeclared (hentries ▸ hnamed)
      rw [hungated id hid] at hgated
      cases hgated
  · intro answered hmem hnamed
    cases response_step h.framing hstep hmem with
    | kept hwas => exact (hbefore id hid).2 answered hwas hnamed
    | answers hread hway hentries =>
      -- the verdicts are about what the declaration names
      refine (hbefore id hid).1 _ hway ?_
      rwa [hentries, List.map_map] at hnamed

/-- **A transaction opened on the connection flows normally**, in runs that
spare it: it is never gated, and no verdict on its way closes it. -/
theorem opened_flows_normally {holder receiver : TransferConfig} {start : ℕ}
    {acts : List Action} (hrun : run step (new holder receiver start) acts = some l)
    (hmeets : RunMeets step SparesOpened (new holder receiver start) acts)
    (hopened : id ∈ l.opened) :
    l.holder.state.sender.isAwaitingResume id = false ∧
      ∀ frame answered now outcomes l', response? frame = some answered →
        l.step (.holder (.inbound l.conn frame now outcomes)) = some l' →
        l'.holder.state.sender.containsTransaction id =
            l.holder.state.sender.containsTransaction id ∧
          id ∉ (l.holder.state.sender.applyResumeVerdicts answered now).1.failed := by
  have h : Spared l := run_induct_of (fun _ _ _ h hguard hs => h.step hguard hs)
    (Spared.new holder receiver start) hmeets hrun
  refine ⟨h.ungated id hopened, fun frame answered now outcomes l' hread hstep => ?_⟩
  cases step_steps hstep with
  | holder hhandle hs =>
    have hway := mem_responses.2 ⟨frame, (Pipe.of_handle hhandle).2, hread⟩
    have hunnamed := (h.unnamed id hopened).2 answered hway
    refine ⟨Session.contains_of_response h.framing.holder.hold hread hs hunnamed, fun hfailed => ?_⟩
    have hrules := l.holder.state.sender.applyResumeVerdicts_adjudicates answered now
    obtain ⟨entry, hentry, hid, -⟩ := hrules.named id (List.mem_append_right _ hfailed)
    exact hunnamed (List.mem_map.2 ⟨entry, hentry, hid⟩)

namespace Sample

/-- One transaction is open when the connection is wired, and declared; the
other is opened after the declaration. The verdict is on its way. -/
def inOrder : List Action :=
  [.holder (.openBinarySink otherId 4 0)] ++ wired 0 0 0 ++ called 2 0 .declarePendingSends 3 ++
    [.holder (.openBinarySink zeroId 4 0), .pumpOutgoing,
      .receiver (.inbound 0 (controlFrame .resume ([1] ++ writeAckEntry ⟨otherId, 0, 0⟩)) 0 []),
      .pumpIncoming]

/-- A transaction is opened between the wire-up and the declaration. -/
def outOfOrder : List Action :=
  wired 0 0 0 ++ [.holder (.openBinarySink zeroId 4 0)] ++ called 2 0 .declarePendingSends 3 ++
    [.pumpOutgoing,
      .receiver (.inbound 0 (controlFrame .resume ([1] ++ writeAckEntry ⟨zeroId, 0, 0⟩)) 0 []),
      .pumpIncoming]

end Sample

/-- The verdict on the older transaction leaves the new one pending. -/
theorem opened_flows_normally_sample :
    ∃ l l', run step Sample.start Sample.inOrder = some l ∧ zeroId ∈ l.opened ∧
      l.step (.holder (.inbound 0 (controlFrame .resumeResponse
        ([1] ++ writeResumeStatusEntry ⟨Sample.otherId, .unknown⟩)) 1 [])) = some l' ∧
      l.holder.state.sender.isAwaitingResume zeroId = false ∧
      l'.holder.state.sender.containsTransaction zeroId = true := by
  obtain ⟨l, l', hrun, hstep, hconn, hopened, hpend⟩ :
      ∃ l l', run step Sample.start Sample.inOrder = some l ∧
        l.step (.holder (.inbound 0 (controlFrame .resumeResponse
          ([1] ++ writeResumeStatusEntry ⟨Sample.otherId, .unknown⟩)) 1 [])) = some l' ∧
        l.conn = 0 ∧ zeroId ∈ l.opened ∧
        l.holder.state.sender.containsTransaction zeroId = true := by decide
  have hmeets : RunMeets step SparesOpened Sample.start Sample.inOrder := by decide
  have hread : response? (controlFrame .resumeResponse
      ([1] ++ writeResumeStatusEntry ⟨Sample.otherId, .unknown⟩)) =
      some [⟨Sample.otherId, .unknown⟩] := by decide
  obtain ⟨hgate, hclosed⟩ := opened_flows_normally hrun hmeets hopened
  refine ⟨_, l', hrun, hopened, hstep, hgate, ?_⟩
  rw [← hconn] at hstep
  exact (hclosed _ _ _ _ _ hread hstep).1.trans hpend

/-- A transaction opened after the wire-up is gated by the declaration, whose
entry overtakes its first frame; the verdict closes it as failed. -/
theorem opened_gated_and_failed :
    ∃ l l', run step Sample.start Sample.outOfOrder = some l ∧ zeroId ∈ l.opened ∧
      l.holder.state.sender.isAwaitingResume zeroId = true ∧
      l.step (.holder (.inbound 0 (controlFrame .resumeResponse
        ([1] ++ writeResumeStatusEntry ⟨zeroId, .unknown⟩)) 1 [])) = some l' ∧
      l'.holder.state.sender.containsTransaction zeroId = false ∧
      .settled zeroId .failed ∈ l'.holder.log := by
  decide

end Link

end Xacpp
