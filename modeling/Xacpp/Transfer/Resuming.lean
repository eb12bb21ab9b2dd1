import Xacpp.Transfer.Counted
/-!
# Answering a declaration

A receiver that handles a `RESUME` answers every declared transaction and
drops the open incomplete slots that were not declared, with their streams.
What is left afterwards is complete or declared, so the same declaration
finds nothing more to drop, and the answer only read slots that stay.
-/

namespace Xacpp

namespace Transfer

open Reliability

namespace SessionState

variable {st : SessionState} {id : TxId} {ids : List TxId}

theorem lacks_iff : st.Lacks id ↔ st.reassembler.containsTransaction id = true ∧
    st.reassembler.isComplete id = false := by
  unfold Lacks TransactionReassembler.containsTransaction TransactionReassembler.isComplete
    Table.contains
  cases st.reassembler.slots.get? id with
  | none | some slot => simp

/-! ## The streams of what is dropped -/

theorem streams_dropReceive (st : SessionState) (txid id : TxId)
    (terminal : StreamInner → StreamInner) :
    (st.dropReceive txid terminal).streams.get? id =
      if id = txid then none else st.streams.get? id := by
  change (st.endStream txid terminal).streams.get? id = _
  unfold endStream
  split
  · next hnone =>
    split
    · next heq => rw [heq, hnone]
    · rfl
  · exact Table.get?_erase _ _ _

/-- The object of the stream that ends gets its terminal state, the others
stay. -/
theorem objects_dropReceive (st : SessionState) (txid : TxId)
    (terminal : StreamInner → StreamInner) (object : ℕ) :
    (st.dropReceive txid terminal).objects[object]? =
      if st.streams.get? txid = some object then st.objects[object]?.map terminal
      else st.objects[object]? := by
  change (st.endStream txid terminal).objects[object]? = _
  unfold endStream
  cases hget : st.streams.get? txid with
  | none => rfl
  | some object' =>
    dsimp only
    by_cases heq : object' = object
    · rw [if_pos (congrArg some heq), heq]
      exact List.getElem?_modify_eq terminal object st.objects
    · rw [if_neg (fun h => heq (Option.some.inj h))]
      exact List.getElem?_modify_ne terminal st.objects heq

theorem streams_dropAbandoned (st : SessionState) (ids : List TxId) (id : TxId) :
    (Handling.dropAbandoned st ids).streams.get? id =
      if id ∈ ids then none else st.streams.get? id := by
  induction ids generalizing st with
  | nil => rw [if_neg List.not_mem_nil]; rfl
  | cons txid rest ih =>
    refine (ih (st.dropReceive txid fun inner => inner.finish .cancelled)).trans ?_
    rw [streams_dropReceive]
    by_cases hrest : id ∈ rest
    · rw [if_pos hrest, if_pos (List.mem_cons_of_mem _ hrest)]
    · rw [if_neg hrest]
      by_cases heq : id = txid
      · rw [if_pos heq, if_pos (heq ▸ List.mem_cons_self)]
      · rw [if_neg heq, if_neg (fun hmem => (List.mem_cons.1 hmem).elim heq hrest)]

/-- What is owned after a drop was owned before. -/
theorem streamOwned_dropAbandoned_subset (st : SessionState) (ids : List TxId) :
    (Handling.dropAbandoned st ids).streamOwned ⊆ st.streamOwned := by
  induction ids generalizing st with
  | nil => exact Finset.Subset.refl _
  | cons txid rest ih =>
    refine (ih _).trans ?_
    rw [streamOwned_dropReceive]
    exact Finset.erase_subset _ _

theorem not_mem_streamOwned_dropAbandoned (hid : id ∈ ids) :
    id ∉ (Handling.dropAbandoned st ids).streamOwned := by
  induction ids generalizing st with
  | nil => exact absurd hid List.not_mem_nil
  | cons txid rest ih =>
    rcases List.mem_cons.1 hid with rfl | hrest
    · intro hmem
      have hnext := streamOwned_dropAbandoned_subset _ rest hmem
      rw [streamOwned_dropReceive] at hnext
      exact Finset.notMem_erase id _ hnext
    · exact ih hrest

/-- A cancelled stream is cancelled again to no effect. -/
theorem cancelled_dropAbandoned {object : ℕ} {inner : StreamInner} (ids : List TxId)
    (hget : st.objects[object]? = some (inner.finish .cancelled)) :
    (Handling.dropAbandoned st ids).objects[object]? = some (inner.finish .cancelled) := by
  induction ids generalizing st with
  | nil => exact hget
  | cons txid rest ih =>
    refine ih ?_
    rw [objects_dropReceive, hget]
    split <;> rfl

/-- **The streams of what is dropped are cancelled.** -/
theorem objects_dropAbandoned {object : ℕ} {inner : StreamInner} (hid : id ∈ ids)
    (hstream : st.streams.get? id = some object) (hget : st.objects[object]? = some inner) :
    (Handling.dropAbandoned st ids).objects[object]? = some (inner.finish .cancelled) := by
  induction ids generalizing st with
  | nil => exact absurd hid List.not_mem_nil
  | cons txid rest ih =>
    have hnext := st.objects_dropReceive txid (fun inner => inner.finish .cancelled) object
    rw [hget] at hnext
    by_cases hends : st.streams.get? txid = some object
    · rw [if_pos hends] at hnext
      exact cancelled_dropAbandoned rest hnext
    · rw [if_neg hends] at hnext
      have hne : id ≠ txid := fun heq => hends (heq ▸ hstream)
      refine ih ((List.mem_cons.1 hid).resolve_left hne) ?_ hnext
      rw [streams_dropReceive, if_neg hne]
      exact hstream

end SessionState

namespace Handling

open SessionState

variable {h : Handling} {frame : Frame} {declared : List AckEntry} {id : TxId}

/-! ## The verdicts -/

/-- The answer to a declaration. -/
def verdicts (r : TransactionReassembler) (declared : List AckEntry) : List ResumeStatusEntry :=
  declared.map fun entry => ⟨entry.transactionId, verdictFor r entry.transactionId⟩

theorem verdictFor_congr {r r' : TransactionReassembler} (h : r'.slots.get? id = r.slots.get? id) :
    verdictFor r' id = verdictFor r id := by
  unfold verdictFor TransactionReassembler.containsTransaction TransactionReassembler.isComplete
    Table.contains
  rw [h]

theorem verdictFor_eq_resumed_iff {st : SessionState} :
    verdictFor st.reassembler id = .resumed ↔ st.Lacks id := by
  rw [lacks_iff, verdictFor]
  split
  · next hopen =>
    rw [Bool.and_eq_true, Bool.not_eq_true'] at hopen
    exact iff_of_true rfl hopen
  · next hopen =>
    rw [Bool.and_eq_true, Bool.not_eq_true'] at hopen
    exact iff_of_false (by decide) hopen

theorem verdictFor_eq_unknown_iff {st : SessionState} :
    verdictFor st.reassembler id = .unknown ↔ ¬ st.Lacks id := by
  rw [← verdictFor_eq_resumed_iff, verdictFor]
  split
  · exact iff_of_false (by decide) (not_not.2 rfl)
  · exact iff_of_true rfl (by decide)

/-- **What the handling of a declaration does.** -/
theorem onResumeRequestFrame_eq (hdec : decodeResumeRequest frame.payload = .ok declared)
    (hasks : declared ≠ []) :
    h.onResumeRequestFrame frame =
      (h.withState (dropAbandoned h.st (abandoned h.st.reassembler declared))).writeControl
        .resumeResponse (encodeResumeResponse (verdicts h.st.reassembler declared)) := by
  have hsome : declared.isEmpty = false := by
    rw [List.isEmpty_eq_false_iff]
    exact hasks
  simp only [onResumeRequestFrame, hdec, hsome, Bool.false_eq_true, if_false]
  rfl

/-! ## Once more -/

/-- The declared transactions keep their slots, the others their absence or
their completeness. -/
theorem get?_crosscheck (st : SessionState) (declared : List AckEntry) (id : TxId) (slot : Slot) :
    (dropAbandoned st (abandoned st.reassembler declared)).reassembler.slots.get? id = some slot ↔
      st.reassembler.slots.get? id = some slot ∧
        (slot.isComplete = true ∨ id ∈ declared.map AckEntry.transactionId) := by
  rw [get?_dropAbandoned]
  split
  · next hout =>
    obtain ⟨slot', hget', hopen, hundeclared⟩ := mem_abandoned_iff.1 hout
    refine iff_of_false (by simp) fun hkept => ?_
    rw [hget', Option.some.injEq] at hkept
    obtain ⟨rfl, hkept⟩ := hkept
    rcases hkept with hc | hdeclared
    · rw [hopen] at hc
      cases hc
    · exact hundeclared hdeclared
  · next hkept =>
    refine ⟨fun hget => ⟨hget, ?_⟩, fun hget => hget.1⟩
    by_contra hlost
    rw [not_or, Bool.not_eq_true] at hlost
    exact hkept (mem_abandoned_iff.2 ⟨slot, hget, hlost.1, hlost.2⟩)

/-- **Nothing is left to drop.** -/
theorem abandoned_crosscheck (st : SessionState) (declared : List AckEntry) :
    abandoned (dropAbandoned st (abandoned st.reassembler declared)).reassembler declared = [] := by
  refine List.eq_nil_iff_forall_not_mem.2 fun id hid => ?_
  obtain ⟨slot, hget, hopen, hundeclared⟩ := mem_abandoned_iff.1 hid
  rcases ((get?_crosscheck st declared id slot).1 hget).2 with hc | hdeclared
  · rw [hopen] at hc
    cases hc
  · exact hundeclared hdeclared

/-- **The verdicts read slots that stay.** -/
theorem verdicts_crosscheck (st : SessionState) (declared : List AckEntry) :
    verdicts (dropAbandoned st (abandoned st.reassembler declared)).reassembler declared =
      verdicts st.reassembler declared := by
  refine List.map_congr_left fun entry hentry => ?_
  have hkept : entry.transactionId ∉ abandoned st.reassembler declared := fun hout => by
    obtain ⟨slot, hget, hopen, hundeclared⟩ := mem_abandoned_iff.1 hout
    exact hundeclared (List.mem_map_of_mem hentry)
  have hslot := get?_dropAbandoned st (abandoned st.reassembler declared) entry.transactionId
  rw [if_neg hkept] at hslot
  exact congrArg (ResumeStatusEntry.mk entry.transactionId) (verdictFor_congr hslot)

/-- **A declaration is adjudicated, and to the same effect when repeated.**
The answer has one verdict for each entry, in order: `resumed` over an open
incomplete slot, `unknown` otherwise. The slots left are those that were
complete and those that were declared, as they were; the stream of a slot
that goes is cancelled and in neither table. Handling the declaration again
writes the same answer and does nothing else. -/
theorem onResumeRequestFrame_adjudicates
    (hdec : decodeResumeRequest frame.payload = .ok declared) (hasks : declared ≠ []) :
    ∃ answer verdicts, response? answer = some verdicts ∧
      List.Forall₂ (fun entry verdict => verdict.transactionId = entry.transactionId ∧
        (verdict.status = .resumed ↔ h.st.Lacks entry.transactionId) ∧
        (verdict.status = .unknown ↔ ¬ h.st.Lacks entry.transactionId)) declared verdicts ∧
      let h' := h.onResumeRequestFrame frame
      h'.port = (h.port.write .control answer).2 ∧
      (∀ id slot, h'.st.reassembler.slots.get? id = some slot ↔
        h.st.reassembler.slots.get? id = some slot ∧
          (slot.isComplete = true ∨ id ∈ declared.map AckEntry.transactionId)) ∧
      (∀ id ∈ h.st.reassembler.openTransactions, id ∉ h'.st.reassembler.openTransactions →
        h'.st.streams.get? id = none ∧ id ∉ h'.st.streamOwned ∧
        ∀ (object : ℕ) (inner : StreamInner), h.st.streams.get? id = some object →
          h.st.objects[object]? = some inner →
          h'.st.objects[object]? = some { inner with state := .cancelled }) ∧
      h'.onResumeRequestFrame frame = { h' with port := (h'.port.write .control answer).2 } := by
  have hlength : (verdicts h.st.reassembler declared).length ≤ 255 := by
    rw [verdicts, List.length_map]
    exact (length_of_decodeAckEntries hdec).2
  obtain ⟨bytes, hbytes⟩ := encodeResumeResponse_of_le hlength
  have hanswer : response? (controlFrame .resumeResponse bytes) =
      some (verdicts h.st.reassembler declared) := by
    rw [response?, if_pos (controlFrame_frameType _ _), controlFrame_payload,
      decodeResumeResponse_encodeResumeResponse hbytes]
    rfl
  have hfirst := onResumeRequestFrame_eq (h := h) hdec hasks
  have hagain := onResumeRequestFrame_eq (h := h.onResumeRequestFrame frame) hdec hasks
  have hst : (h.onResumeRequestFrame frame).st =
      dropAbandoned h.st (abandoned h.st.reassembler declared) := by
    rw [hfirst, st_writeControl]
    rfl
  have hport : (h.onResumeRequestFrame frame).port =
      (h.port.write .control (controlFrame .resumeResponse bytes)).2 := by
    rw [hfirst, hbytes]
    rfl
  refine ⟨_, _, hanswer, ?_, hport, ?_, ?_, ?_⟩
  · rw [verdicts, List.forall₂_map_right_iff, List.forall₂_same]
    exact fun entry _ => ⟨rfl, verdictFor_eq_resumed_iff, verdictFor_eq_unknown_iff⟩
  · rw [hst]
    exact get?_crosscheck h.st declared
  · intro id hopen hgone
    obtain ⟨slot, hget⟩ := Table.mem_keys_iff.1 hopen
    have hdropped : id ∈ abandoned h.st.reassembler declared := by
      by_contra hkept
      refine hgone (Table.mem_keys_iff.2 ⟨slot, ?_⟩)
      rw [hst, get?_dropAbandoned, if_neg hkept]
      exact hget
    rw [hst]
    refine ⟨?_, not_mem_streamOwned_dropAbandoned hdropped, fun object inner hstream hinner =>
      objects_dropAbandoned hdropped hstream hinner⟩
    rw [streams_dropAbandoned, if_pos hdropped]
  · rw [hst, abandoned_crosscheck, verdicts_crosscheck, hbytes] at hagain
    rw [hagain]
    refine congrArg (fun st => { h.onResumeRequestFrame frame with
      st := st
      port := ((h.onResumeRequestFrame frame).port.write .control
        (controlFrame .resumeResponse bytes)).2 }) ?_
    exact hst.symm

namespace Sample

/-- The first of two bytes has opened a stream. -/
def streaming : Handling :=
  .start (handleInbound (.new {} 0) (dataFrame zeroId 2 0 [7]) false true 0 []).st []

/-- A declaration that leaves the transaction out. -/
def declaresOther : Frame :=
  controlFrame .resume ((encodeResumeRequest [⟨List.Vector.replicate 16 1, 0, 0⟩]).toOption.getD [])

end Sample

theorem onResumeRequestFrame_adjudicates_sample :
    Sample.streaming.st.reassembler.openTransactions = [zeroId] ∧
      Sample.streaming.st.streams.get? zeroId = some 0 ∧
      (Sample.streaming.onResumeRequestFrame Sample.declaresOther).st.objects[0]? =
        some { (StreamInner.new zeroId 2).send [(0, [7])] with state := .cancelled } ∧
      ((Sample.streaming.onResumeRequestFrame Sample.declaresOther).onResumeRequestFrame
        Sample.declaresOther).st =
          (Sample.streaming.onResumeRequestFrame Sample.declaresOther).st := by
  have hopen : Sample.streaming.st.reassembler.openTransactions = [zeroId] := by decide
  have hstream : Sample.streaming.st.streams.get? zeroId = some 0 := by decide
  have hinner : Sample.streaming.st.objects[0]? =
      some ((StreamInner.new zeroId 2).send [(0, [7])]) := by decide
  have hgone : zeroId ∉ (Sample.streaming.onResumeRequestFrame
      Sample.declaresOther).st.reassembler.openTransactions := by decide
  have hdec : decodeResumeRequest Sample.declaresOther.payload =
      .ok [⟨List.Vector.replicate 16 1, 0, 0⟩] := by decide
  obtain ⟨answer, verdicts, -, -, -, -, hdropped, hagain⟩ :=
    onResumeRequestFrame_adjudicates (h := Sample.streaming) hdec (List.cons_ne_nil _ _)
  obtain ⟨-, -, hcancelled⟩ := hdropped zeroId (hopen ▸ List.mem_cons_self) hgone
  refine ⟨hopen, hstream, hcancelled 0 _ hstream hinner, ?_⟩
  rw [hagain]

end Handling

end Transfer

end Xacpp
