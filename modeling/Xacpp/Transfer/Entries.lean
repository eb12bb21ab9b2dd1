import Xacpp.Transfer.Surface
/-!
# Entries of the stream table

An entry of the stream table names an object. It is made with the object,
when a first frame opens a stream, and then stays as it is until the stream
ends: no section puts an old object under another id (`KeepsEntries`).
-/

namespace Xacpp

namespace Transfer

open Reliability

/-- An entry was in the table before, or names an object that is new. -/
structure KeepsEntries (st st' : SessionState) : Prop where
  entry : ∀ id object, st'.streams.get? id = some object →
    st.streams.get? id = some object ∨ st.objects.length ≤ object
  length : st.objects.length ≤ st'.objects.length

variable {st st' st'' : SessionState}

theorem KeepsEntries.refl (st : SessionState) : KeepsEntries st st :=
  ⟨fun _ _ hget => .inl hget, Nat.le_refl _⟩

theorem KeepsEntries.trans (h : KeepsEntries st st') (h' : KeepsEntries st' st'') :
    KeepsEntries st st'' := by
  refine ⟨fun id object hget => ?_, h.length.trans h'.length⟩
  rcases h'.entry id object hget with hget | hnew
  · exact h.entry id object hget
  · exact .inr (h.length.trans hnew)

theorem SameSurface.keepsEntries (h : SameSurface st st') : KeepsEntries st st' := by
  refine ⟨fun id object hget => .inl ?_, by rw [h.objects]⟩
  rw [← h.streams]
  exact hget

/-- The objects are written in place. -/
theorem KeepsEntries.of_objects {objects : List StreamInner}
    (hlength : objects.length = st.objects.length) :
    KeepsEntries st { st with objects := objects } :=
  ⟨fun _ _ hget => .inl hget, Nat.le_of_eq hlength.symm⟩

namespace SessionState

theorem keepsEntries_onStream (st : SessionState) (id : TxId)
    (update : StreamInner → StreamInner) : KeepsEntries st (st.onStream id update) := by
  unfold onStream
  split
  · exact .refl st
  · exact .of_objects (List.length_modify _ _ _)

theorem keepsEntries_onStreams (st : SessionState) (update : StreamInner → StreamInner) :
    KeepsEntries st (st.onStreams update) := by
  refine .of_objects ?_
  exact foldl_rel (R := fun objects objects' : List StreamInner =>
      objects'.length = objects.length) (fun _ => rfl) (fun _ _ _ h h' => h'.trans h)
    (fun _ _ => List.length_modify _ _ _) _ _

theorem keepsEntries_endStream (st : SessionState) (id : TxId)
    (terminal : StreamInner → StreamInner) : KeepsEntries st (st.endStream id terminal) := by
  unfold endStream
  split
  · exact .refl st
  · refine ⟨fun id' object hget => .inl ?_, Nat.le_of_eq (List.length_modify _ _ _).symm⟩
    exact (Table.of_get?_erase hget).2

theorem keepsEntries_dropReceive (st : SessionState) (id : TxId)
    (terminal : StreamInner → StreamInner) : KeepsEntries st (st.dropReceive id terminal) :=
  (st.keepsEntries_endStream id terminal).trans ⟨fun _ _ hget => .inl hget, Nat.le_refl _⟩

theorem keepsEntries_dropAbandoned (st : SessionState) (ids : List TxId) :
    KeepsEntries st (Handling.dropAbandoned st ids) := by
  induction ids generalizing st with
  | nil => exact .refl st
  | cons id rest ih =>
    exact (st.keepsEntries_dropReceive id fun inner => inner.finish .cancelled).trans (ih _)

end SessionState

namespace Handling

open SessionState

variable {frame : Frame}

/-- A stream opens under a new object. -/
theorem keepsEntries_streamAccepted (h : Handling) (frame : Frame) (opensStream : Bool)
    (emitted : List (ℕ × Bytes)) :
    KeepsEntries h.st (h.streamAccepted frame opensStream emitted).st := by
  unfold streamAccepted
  cases opensStream with
  | false => exact h.st.keepsEntries_onStream _ _
  | true =>
    refine ⟨fun id object hget => ?_, ?_⟩
    · change (h.st.streams.insert frame.transactionId h.st.objects.length).get? id = some object
        at hget
      rw [Table.get?_insert] at hget
      split at hget
      · rw [Option.some.injEq] at hget
        exact .inr (Nat.le_of_eq hget)
      · exact .inl hget
    · show h.st.objects.length ≤ (h.st.objects ++ [_]).length
      rw [List.length_append]
      omega

theorem keepsEntries_handOver (h : Handling) (id : TxId) (handlerPresent : Bool) :
    KeepsEntries h.st (h.handOver id handlerPresent).st := by
  have htaken : ∀ (st : SessionState) (r : TransactionReassembler),
      KeepsEntries st (st.withReassembler r) :=
    fun _ _ => ⟨fun _ _ hget => .inl hget, Nat.le_refl _⟩
  unfold handOver
  split
  · have hdisown : KeepsEntries h.st (h.st.disown id) :=
      ⟨fun _ _ hget => .inl hget, Nat.le_refl _⟩
    exact (hdisown.trans (keepsEntries_endStream _ _ _)).trans (htaken _ _)
  · split
    · split
      · exact .refl h.st
      · exact htaken _ _
    · exact .refl h.st

theorem keepsEntries_onDataFrame (h : Handling) (frame : Frame)
    (handlerPresent streamPresent : Bool) :
    KeepsEntries h.st (h.onDataFrame frame handlerPresent streamPresent).st := by
  simp only [onDataFrame]
  generalize h.st.reassembler.receiveFrame frame.transactionId frame.seq frame.totalLen
    frame.payload.length frame.payload streamPresent = res
  obtain ⟨outcome, r⟩ := res
  have hfed : KeepsEntries h.st (h.st.withReassembler r) :=
    ⟨fun _ _ hget => .inl hget, Nat.le_refl _⟩
  rcases outcome with e | outcome
  · exact hfed
  cases outcome with
  | duplicate | slotlessDropped => exact hfed
  | accepted complete emitted =>
    refine hfed.trans ?_
    simp only [dataAccepted]
    have hcount : ∀ st acks, KeepsEntries st (SessionState.withPendingAckFrames st acks) :=
      fun _ _ => ⟨fun _ _ hget => .inl hget, Nat.le_refl _⟩
    split
    · exact (((hcount _ _).trans (keepsEntries_streamAccepted (h.withState _) _ _ _)).trans
        (sameSurface_finalAck _ _).keepsEntries).trans (keepsEntries_handOver _ _ _)
    · exact (hcount _ _).trans (keepsEntries_streamAccepted (h.withState _) _ _ _)

theorem Heeds.keepsEntries {h h' : Handling} {frame : Frame} (hheeds : Heeds h frame h') :
    KeepsEntries h.st h'.st := by
  cases hheeds with
  | ignored => exact .refl h.st
  | paused => exact keepsEntries_onStream _ _ _
  | aborted =>
    exact (keepsEntries_dropReceive _ _ _).trans (SameSurface.keepsEntries ⟨rfl, rfl, rfl, rfl⟩)
  | closed =>
    exact (keepsEntries_endStream _ _ _).trans ⟨fun _ _ hget => .inl hget, Nat.le_refl _⟩
  | cutShort =>
    exact (keepsEntries_dropReceive _ _ _).trans (SameSurface.keepsEntries ⟨rfl, rfl, rfl, rfl⟩)
  | expired => exact keepsEntries_dropReceive _ _ _
  | adjudicated =>
    exact (keepsEntries_dropAbandoned h.st _).trans
      (sameSurface_writeControl (h.withState _) _ _).keepsEntries

/-- **No locked section puts an old object under another id.** -/
theorem keepsEntries_dispatch (h : Handling) (frame : Frame) (handlerPresent streamPresent : Bool)
    (now : ℕ) : KeepsEntries h.st (h.dispatch frame handlerPresent streamPresent now).st := by
  refine dispatch_rule (P := fun h' => KeepsEntries h.st h'.st) h ?_ ?_ ?_ ?_ ?_
  · exact fun _ => h.keepsEntries_onDataFrame frame handlerPresent streamPresent
  · exact fun _ => (h.sameSurface_onAckFrame frame now).keepsEntries
  · exact fun _ => (h.sameSurface_onNackFrame frame now).keepsEntries
  · exact fun _ => (h.sameSurface_onResumeResponseFrame frame now).keepsEntries
  · exact fun _ hheeds => hheeds.keepsEntries

end Handling

theorem keepsEntries_drainCompleted (st : SessionState) (handlerPresent : Bool) :
    KeepsEntries st (drainCompleted st handlerPresent).2 := by
  unfold drainCompleted
  split
  · exact ⟨fun _ _ hget => .inl hget, Nat.le_refl _⟩
  · exact .refl st

theorem Session.Idles.keepsEntries {s s' : Session} (h : Idles s s') :
    KeepsEntries s.state s'.state := by
  rcases h.surface with hsame | hstalled | hcleared
  · exact hsame.keepsEntries
  · exact (s.state.keepsEntries_onStreams _).trans hstalled.keepsEntries
  · exact (s.state.keepsEntries_onStreams _).trans hcleared.keepsEntries

end Transfer

end Xacpp
