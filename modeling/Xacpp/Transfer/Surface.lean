import Xacpp.Transfer.Model.Reception
import Xacpp.Transfer.Receiving
import Xacpp.Transfer.Stretch
/-!
# The stream surface

Three tables have to agree: the slots of the reassembler, the stream table,
and the set of ids the stream surface owns. `Surface` says how, with ids it
may leave out of the slot condition: between the frame that completes a
transaction and the hand-over that follows it, its stream still stands over
a complete slot. Stream objects outlive their table entry, and from then on
nothing writes to them (`Frozen`).
-/

namespace Xacpp

namespace Transfer

open Reliability

/-- An update that leaves open what is open. -/
def StaysOpen (update : StreamInner → StreamInner) : Prop :=
  ∀ inner, (update inner).txid = inner.txid ∧
    (update inner).state.isTerminal = inner.state.isTerminal

/-- An update that ends the stream. -/
def EndsStream (terminal : StreamInner → StreamInner) : Prop :=
  ∀ inner, (terminal inner).txid = inner.txid ∧ (terminal inner).state.isTerminal = true

theorem staysOpen_setPaused : StaysOpen StreamInner.setPaused := by
  intro inner
  unfold StreamInner.setPaused
  split
  · next hactive => exact ⟨rfl, by rw [hactive]; rfl⟩
  · exact ⟨rfl, rfl⟩

theorem staysOpen_clearPaused_send (chunks : List (ℕ × Bytes)) :
    StaysOpen fun inner => inner.clearPaused.send chunks := by
  intro inner
  show inner.clearPaused.txid = inner.txid ∧
    inner.clearPaused.state.isTerminal = inner.state.isTerminal
  unfold StreamInner.clearPaused
  split
  · next hpaused => exact ⟨rfl, by rw [hpaused]; rfl⟩
  · exact ⟨rfl, rfl⟩

theorem staysOpen_setStalled : StaysOpen StreamInner.setStalled := by
  intro inner
  unfold StreamInner.setStalled
  split <;> exact ⟨rfl, rfl⟩

theorem staysOpen_clearStalled : StaysOpen StreamInner.clearStalled := fun _ => ⟨rfl, rfl⟩

theorem endsStream_finish (state : StreamState) (h : state.isTerminal = true) :
    EndsStream fun inner => inner.finish state := fun _ => ⟨rfl, h⟩

theorem endsStream_finishIncomplete (received : ℕ) (expected : UInt32) :
    EndsStream fun inner => inner.finishIncomplete received expected := fun _ => ⟨rfl, rfl⟩

/-! ## Objects -/

/-- What the tables need to know of an object: whose it is, and whether it
has ended. -/
def face (inner : StreamInner) : TxId × Bool := (inner.txid, inner.state.isTerminal)

/-- Only the objects picked are written, and those stay open. -/
structure Touches (touched : ℕ → Prop) (objects objects' : List StreamInner) : Prop where
  others : ∀ i : ℕ, ¬ touched i → objects'[i]? = objects[i]?
  same : ∀ i : ℕ, objects'[i]?.map face = objects[i]?.map face

theorem Touches.refl (touched : ℕ → Prop) (objects : List StreamInner) :
    Touches touched objects objects := ⟨fun _ _ => rfl, fun _ => rfl⟩

theorem Touches.trans {touched : ℕ → Prop} {o o' o'' : List StreamInner}
    (h : Touches touched o o') (h' : Touches touched o' o'') : Touches touched o o'' :=
  ⟨fun i hi => (h'.others i hi).trans (h.others i hi), fun i => (h'.same i).trans (h.same i)⟩

theorem touches_modify {touched : ℕ → Prop} {update : StreamInner → StreamInner}
    (hopen : StaysOpen update) {object : ℕ} (htouched : touched object)
    (objects : List StreamInner) : Touches touched objects (objects.modify object update) := by
  refine ⟨fun i hi => ?_, fun i => ?_⟩
  · have hne : object ≠ i := fun heq => hi (heq ▸ htouched)
    exact List.getElem?_modify_ne update objects hne
  · by_cases hne : object = i
    · subst hne
      rw [List.getElem?_modify_eq, Option.map_eq_map, Option.map_map]
      refine Option.map_congr fun inner _ => ?_
      rw [Function.comp_apply, face, (hopen inner).1, (hopen inner).2]
      rfl
    · rw [List.getElem?_modify_ne update objects hne]

theorem touches_foldl {touched : ℕ → Prop} {update : StreamInner → StreamInner}
    (hopen : StaysOpen update) : ∀ (ids : List ℕ) (objects : List StreamInner),
    (∀ i ∈ ids, touched i) →
      Touches touched objects (ids.foldl (fun objects i => objects.modify i update) objects)
  | [], objects, _ => .refl touched objects
  | i :: rest, objects, hall =>
    (touches_modify hopen (hall i List.mem_cons_self) objects).trans
      (touches_foldl hopen rest _ fun j hj => hall j (List.mem_cons_of_mem _ hj))

/-! ## The surface -/

namespace SessionState

/-- The stream tables agree; the slot condition may except some ids. -/
structure Surface (except : TxId → Prop) (st : SessionState) : Prop where
  owned : ∀ id, id ∈ st.streamOwned ↔ ∃ object, st.streams.get? id = some object
  slot : ∀ id object, st.streams.get? id = some object → ¬ except id →
    ∃ slot, st.reassembler.slots.get? id = some slot ∧ slot.isComplete = false
  object : ∀ id object, st.streams.get? id = some object →
    ∃ inner, st.objects[object]? = some inner ∧ inner.txid = id
  live : ∀ (object : ℕ) (inner : StreamInner), st.objects[object]? = some inner →
    (inner.state.isTerminal = true ↔ ∀ id, st.streams.get? id ≠ some object)

/-- What has ended stays as it is. -/
def Frozen (st st' : SessionState) : Prop :=
  ∀ (object : ℕ) (inner : StreamInner), st.objects[object]? = some inner →
    inner.state.isTerminal = true →
    st'.objects[object]? = some inner

variable {except except' : TxId → Prop} {st st' st'' : SessionState} {id : TxId}

theorem Frozen.refl (st : SessionState) : Frozen st st := fun _ _ h _ => h

theorem Frozen.trans (h : Frozen st st') (h' : Frozen st' st'') : Frozen st st'' :=
  fun object inner hget hterm => h' object inner (h object inner hget hterm) hterm

theorem surface_new (config : TransferConfig) (now : ℕ) :
    Surface (fun _ => False) (.new config now) where
  owned id := by
    refine ⟨fun h => absurd h (Finset.notMem_empty id), fun ⟨object, h⟩ => ?_⟩
    rw [SessionState.new, Table.get?_empty] at h
    cases h
  slot id object h := by
    rw [SessionState.new, Table.get?_empty] at h
    cases h
  object id object h := by
    rw [SessionState.new, Table.get?_empty] at h
    cases h
  live object inner h := by cases h

/-- Two ids never share an object. -/
theorem Surface.object_inj (h : Surface except st) {id' : TxId} {object : ℕ}
    (hget : st.streams.get? id = some object) (hget' : st.streams.get? id' = some object) :
    id = id' := by
  obtain ⟨inner, hinner, hid⟩ := h.object id object hget
  obtain ⟨inner', hinner', hid'⟩ := h.object id' object hget'
  rw [hinner, Option.some.injEq] at hinner'
  rw [← hid, ← hid', hinner']

theorem Surface.weaken (h : Surface except st) (hle : ∀ id, except id → except' id) :
    Surface except' st :=
  ⟨h.owned, fun id object hget hx => h.slot id object hget fun hex => hx (hle id hex), h.object,
    h.live⟩

/-- The slots change; the streams keep what they stand over. -/
theorem Surface.withReassembler (h : Surface except st) {r : TransactionReassembler}
    (hslots : ∀ id object, st.streams.get? id = some object → ¬ except' id →
      ∃ slot, r.slots.get? id = some slot ∧ slot.isComplete = false) :
    Surface except' (st.withReassembler r) :=
  ⟨h.owned, hslots, h.object, h.live⟩

/-- The objects of the table are written, and stay open. -/
theorem Surface.touches (h : Surface except st) {objects : List StreamInner}
    (ht : Touches (fun i => ∃ id, st.streams.get? id = some i) st.objects objects) :
    Surface except { st with objects := objects } ∧ Frozen st { st with objects := objects } := by
  have hback : ∀ (i : ℕ) (inner' : StreamInner), objects[i]? = some inner' →
      ∃ inner, st.objects[i]? = some inner ∧ inner.txid = inner'.txid ∧
        inner.state.isTerminal = inner'.state.isTerminal := by
    intro i inner' hget'
    have hsame := ht.same i
    rw [hget', Option.map_some] at hsame
    obtain ⟨inner, hget, heq⟩ := Option.map_eq_some_iff.1 hsame.symm
    obtain ⟨hid, hterm⟩ := Prod.mk.inj heq
    exact ⟨inner, hget, hid, hterm⟩
  refine ⟨⟨h.owned, h.slot, fun id object hget => ?_, fun object inner' hget' => ?_⟩, ?_⟩
  · obtain ⟨inner, hinner, hid⟩ := h.object id object hget
    have hsame := ht.same object
    rw [hinner, Option.map_some] at hsame
    obtain ⟨inner', hget', heq⟩ := Option.map_eq_some_iff.1 hsame
    exact ⟨inner', hget', (Prod.mk.inj heq).1.trans hid⟩
  · obtain ⟨inner, hinner, -, hterm⟩ := hback object inner' hget'
    rw [← hterm]
    exact h.live object inner hinner
  · -- an ended object is in no table entry, so it is not among those written
    intro object inner hinner hterm
    have hout := (h.live object inner hinner).1 hterm
    exact (ht.others object fun ⟨id, hget⟩ => hout id hget).trans hinner

theorem Surface.onStream (h : Surface except st) {update : StreamInner → StreamInner}
    (hopen : StaysOpen update) (id : TxId) :
    Surface except (st.onStream id update) ∧ Frozen st (st.onStream id update) := by
  unfold SessionState.onStream
  split
  · exact ⟨h, .refl st⟩
  · next object hget => exact h.touches (touches_modify hopen ⟨id, hget⟩ st.objects)

theorem Surface.onStreams (h : Surface except st) {update : StreamInner → StreamInner}
    (hopen : StaysOpen update) :
    Surface except (st.onStreams update) ∧ Frozen st (st.onStreams update) := by
  refine h.touches (touches_foldl hopen st.streams.values st.objects fun object hmem => ?_)
  obtain ⟨⟨id, object'⟩, hentry, rfl⟩ := List.mem_map.1 hmem
  exact ⟨id, Table.mem_toList.1 hentry⟩

/-- **A stream ends**: it leaves both tables, and its object is final. -/
theorem Surface.ends (h : Surface except st) {terminal : StreamInner → StreamInner}
    (hends : EndsStream terminal) (id : TxId) :
    Surface (fun id' => except id' ∧ id' ≠ id) ((st.endStream id terminal).disown id) ∧
      Frozen st ((st.endStream id terminal).disown id) := by
  unfold SessionState.endStream
  split
  · next hnone =>
    -- no stream: the id was not owned either
    have hkeep : ∀ id', id' ∈ st.streamOwned → id' ≠ id := by
      rintro id' hmem rfl
      obtain ⟨object, hget⟩ := (h.owned id').1 hmem
      rw [hnone] at hget
      cases hget
    refine ⟨⟨fun id' => ?_, fun id' object hget hx => ?_, h.object, h.live⟩, .refl st⟩
    · show id' ∈ st.streamOwned.erase id ↔ ∃ object, st.streams.get? id' = some object
      rw [Finset.mem_erase, ← h.owned id']
      exact ⟨fun hm => hm.2, fun hm => ⟨hkeep id' hm, hm⟩⟩
    · change st.streams.get? id' = some object at hget
      refine h.slot id' object hget fun hexcept => hx ⟨hexcept, ?_⟩
      rintro rfl
      rw [hnone] at hget
      cases hget
  · next object hobject =>
    have hmodify : ∀ i : ℕ, i ≠ object →
        (st.objects.modify object terminal)[i]? = st.objects[i]? := by
      intro i hne
      exact List.getElem?_modify_ne terminal st.objects (Ne.symm hne)
    refine ⟨⟨fun id' => ?_, fun id' object' hget hx => ?_, fun id' object' hget => ?_,
      fun i inner' hget' => ?_⟩, fun i inner hget hterm => ?_⟩
    · show id' ∈ st.streamOwned.erase id ↔ ∃ object', (st.streams.erase id).get? id' = some object'
      rw [Finset.mem_erase, h.owned id']
      constructor
      · rintro ⟨hne, object', hget⟩
        exact ⟨object', (Table.get?_erase_of_ne _ hne).trans hget⟩
      · rintro ⟨object', hget⟩
        obtain ⟨hne, hget⟩ := Table.of_get?_erase hget
        exact ⟨hne, object', hget⟩
    · change (st.streams.erase id).get? id' = some object' at hget
      obtain ⟨hne, hget⟩ := Table.of_get?_erase hget
      exact h.slot id' object' hget fun hexcept => hx ⟨hexcept, hne⟩
    · change (st.streams.erase id).get? id' = some object' at hget
      obtain ⟨hne, hget⟩ := Table.of_get?_erase hget
      have hother : object' ≠ object := by
        rintro rfl
        exact hne (h.object_inj hget hobject)
      show ∃ inner, (st.objects.modify object terminal)[object']? = some inner ∧ _
      rw [hmodify object' hother]
      exact h.object id' object' hget
    · change (st.objects.modify object terminal)[i]? = some inner' at hget'
      show _ ↔ ∀ id', (st.streams.erase id).get? id' ≠ some i
      by_cases hi : i = object
      · subst hi
        rw [List.getElem?_modify_eq, Option.map_eq_map] at hget'
        obtain ⟨inner, -, rfl⟩ := Option.map_eq_some_iff.1 hget'
        refine ⟨fun _ id' hget => ?_, fun _ => (hends inner).2⟩
        obtain ⟨hne, hget⟩ := Table.of_get?_erase hget
        exact hne (h.object_inj hget hobject)
      · rw [hmodify i hi] at hget'
        rw [h.live i inner' hget']
        refine ⟨fun hall id' hget => hall id' (Table.of_get?_erase hget).2, fun hall id' hget => ?_⟩
        refine hall id' ((Table.get?_erase_of_ne _ ?_).trans hget)
        rintro rfl
        rw [hobject, Option.some.injEq] at hget
        exact hi hget.symm
    · have hi : i ≠ object := by
        rintro rfl
        exact (h.live i inner hget).1 hterm id hobject
      show (st.objects.modify object terminal)[i]? = some inner
      rw [hmodify i hi]
      exact hget

/-- **A stream opens**, with an object of its own. -/
theorem Surface.opens (h : Surface except st) (hnone : st.streams.get? id = none)
    {inner : StreamInner} (hid : inner.txid = id) (hopen : inner.state.isTerminal = false) :
    Surface (fun id' => except id' ∨ id' = id) { st with
        streams := st.streams.insert id st.objects.length
        streamOwned := insert id st.streamOwned
        objects := st.objects ++ [inner] } ∧
      Frozen st { st with
        streams := st.streams.insert id st.objects.length
        streamOwned := insert id st.streamOwned
        objects := st.objects ++ [inner] } := by
  have hold : ∀ {object : ℕ} {inner' : StreamInner}, st.objects[object]? = some inner' →
      object < st.objects.length := fun hget => (List.getElem?_eq_some_iff.1 hget).1
  have hfrozen : ∀ (object : ℕ) (inner' : StreamInner), st.objects[object]? = some inner' →
      (st.objects ++ [inner])[object]? = some inner' := by
    intro object inner' hget
    rw [List.getElem?_append_left (hold hget)]
    exact hget
  refine ⟨⟨fun id' => ?_, fun id' object hget hx => ?_, fun id' object hget => ?_,
    fun object inner' hget => ?_⟩, fun object inner' hget _ => hfrozen object inner' hget⟩
  · show id' ∈ insert id st.streamOwned ↔
      ∃ object, (st.streams.insert id st.objects.length).get? id' = some object
    rw [Finset.mem_insert, h.owned id', Table.get?_insert]
    by_cases heq : id' = id
    · rw [if_pos heq]
      exact ⟨fun _ => ⟨_, rfl⟩, fun _ => .inl heq⟩
    · rw [if_neg heq]
      exact ⟨fun hm => hm.resolve_left heq, .inr⟩
  · change (st.streams.insert id st.objects.length).get? id' = some object at hget
    rw [Table.get?_insert_of_ne _ _ fun heq => hx (.inr heq)] at hget
    exact h.slot id' object hget fun hexcept => hx (.inl hexcept)
  · change (st.streams.insert id st.objects.length).get? id' = some object at hget
    show ∃ inner', (st.objects ++ [inner])[object]? = some inner' ∧ inner'.txid = id'
    rw [Table.get?_insert] at hget
    split at hget
    · next heq =>
      rw [Option.some.injEq] at hget
      subst hget
      exact ⟨inner, List.getElem?_concat_length, hid.trans heq.symm⟩
    · obtain ⟨inner', hinner', hid'⟩ := h.object id' object hget
      exact ⟨inner', hfrozen object inner' hinner', hid'⟩
  · change (st.objects ++ [inner])[object]? = some inner' at hget
    show _ ↔ ∀ id', (st.streams.insert id st.objects.length).get? id' ≠ some object
    by_cases hlt : object < st.objects.length
    · rw [List.getElem?_append_left hlt] at hget
      rw [h.live object inner' hget]
      refine forall_congr' fun id' => not_congr ?_
      rw [Table.get?_insert]
      split
      · next heq =>
        subst heq
        rw [hnone, Option.some.injEq]
        exact ⟨fun hcase => (by cases hcase), fun hcase => absurd hcase (by omega)⟩
      · exact Iff.rfl
    · -- the new object is in the table
      have hlast : object = st.objects.length := by
        have hbound := (List.getElem?_eq_some_iff.1 hget).1
        rw [List.length_append, List.length_singleton] at hbound
        omega
      subst hlast
      rw [List.getElem?_concat_length, Option.some.injEq] at hget
      subst hget
      rw [hopen]
      refine ⟨fun hcase => (by cases hcase), fun hall => absurd ?_ (hall id)⟩
      exact Table.get?_insert_self _ _ _

theorem disown_endStream (st : SessionState) (id : TxId) (terminal : StreamInner → StreamInner) :
    (st.disown id).endStream id terminal = (st.endStream id terminal).disown id := by
  unfold SessionState.endStream
  have hstreams : (st.disown id).streams = st.streams := rfl
  rw [hstreams]
  cases st.streams.get? id <;> rfl

/-- Forgetting a receive transaction. -/
theorem Surface.dropReceive (h : Surface (fun _ => False) st)
    {terminal : StreamInner → StreamInner} (hends : EndsStream terminal) (id : TxId) :
    Surface (fun _ => False) (st.dropReceive id terminal) ∧
      Frozen st (st.dropReceive id terminal) := by
  obtain ⟨hs, hfrozen⟩ := h.ends hends id
  refine ⟨hs.withReassembler fun id' object hget _ => ?_, hfrozen⟩
  have hne : id' ≠ id := by
    rintro rfl
    have hnone : ((st.endStream id' terminal).disown id').streams.get? id' = none := by
      unfold SessionState.endStream
      split
      · next hnone => exact hnone
      · exact Table.get?_erase_self _ _
    rw [hnone] at hget
    cases hget
  obtain ⟨slot, hslot, hc⟩ := hs.slot id' object hget fun hx => hx.1
  exact ⟨slot, (Table.get?_erase_of_ne _ hne).trans hslot, hc⟩

theorem Surface.dropAbandoned (h : Surface (fun _ => False) st) (ids : List TxId) :
    Surface (fun _ => False) (Handling.dropAbandoned st ids) ∧
      Frozen st (Handling.dropAbandoned st ids) := by
  induction ids generalizing st with
  | nil => exact ⟨h, .refl st⟩
  | cons id rest ih =>
    obtain ⟨hs, hfrozen⟩ := h.dropReceive (endsStream_finish .cancelled rfl) id
    obtain ⟨hs', hfrozen'⟩ := ih hs
    exact ⟨hs', hfrozen.trans hfrozen'⟩

end SessionState

section SameSurface

open SessionState

variable {except : TxId → Prop} {st st' st'' : SessionState}

theorem SameSurface.refl (st : SessionState) : SameSurface st st := ⟨rfl, rfl, rfl, rfl⟩

theorem SameSurface.trans (h : SameSurface st st') (h' : SameSurface st' st'') :
    SameSurface st st'' :=
  ⟨h'.reassembler.trans h.reassembler, h'.streams.trans h.streams,
    h'.streamOwned.trans h.streamOwned, h'.objects.trans h.objects⟩

theorem SameSurface.surface (hsame : SameSurface st st') (h : Surface except st) :
    Surface except st' := by
  obtain ⟨hr, hs, ho, hobj⟩ := hsame
  refine ⟨fun id => ?_, fun id object => ?_, fun id object => ?_, fun object inner => ?_⟩
  · rw [hs, ho]
    exact h.owned id
  · rw [hs, hr]
    exact h.slot id object
  · rw [hs, hobj]
    exact h.object id object
  · rw [hs, hobj]
    exact h.live object inner

theorem SameSurface.frozen (hsame : SameSurface st st') : Frozen st st' := by
  intro object inner hget _
  rw [hsame.objects]
  exact hget

end SameSurface

namespace SessionState

variable {st st' st'' : SessionState}

/-- **What a section does to the surface**: it keeps it, and writes to no
stream that has ended. -/
def Flows (st st' : SessionState) : Prop :=
  Surface (fun _ => False) st → Surface (fun _ => False) st' ∧ Frozen st st'

theorem Flows.refl (st : SessionState) : Flows st st := fun h => ⟨h, .refl st⟩

theorem Flows.trans (h₁ : Flows st st') (h₂ : Flows st' st'') : Flows st st'' := by
  intro h
  obtain ⟨hs, hfrozen⟩ := h₁ h
  obtain ⟨hs', hfrozen'⟩ := h₂ hs
  exact ⟨hs', hfrozen.trans hfrozen'⟩

theorem flows_dropReceive (st : SessionState) {terminal : StreamInner → StreamInner}
    (hends : EndsStream terminal) (id : TxId) : Flows st (st.dropReceive id terminal) :=
  fun h => h.dropReceive hends id

end SessionState

theorem SameSurface.flows {st st' : SessionState} (hsame : SameSurface st st') :
    SessionState.Flows st st' :=
  fun h => ⟨hsame.surface h, hsame.frozen⟩

namespace Handling

open SessionState

variable {h h' : Handling} {frame : Frame}

theorem sameSurface_writeControl (h : Handling) (frameType : FrameType)
    (payload : Except ControlError Bytes) :
    SameSurface h.st (h.writeControl frameType payload).st := by
  obtain ⟨port, heq⟩ := h.writeControl_eq frameType payload
  rw [heq]
  exact .refl h.st

theorem sameSurface_sendAckEntries (h : Handling) (entries : List AckEntry) :
    SameSurface h.st (h.sendAckEntries entries).st := by
  unfold sendAckEntries
  split
  · exact .refl h.st
  · exact sameSurface_writeControl _ _ _

theorem sameSurface_complete (h : Handling) (id : TxId) (confirmed : Bool) :
    SameSurface h.st (h.complete id confirmed).st := by
  unfold complete
  split <;> exact ⟨rfl, rfl, rfl, rfl⟩

theorem sameSurface_foldl {α : Type} {f : Handling → α → Handling}
    (hf : ∀ h x, SameSurface h.st (f h x).st) (xs : List α) (h : Handling) :
    SameSurface h.st (xs.foldl f h).st :=
  foldl_rel (R := fun h h' => SameSurface h.st h'.st) (fun h => .refl h.st)
    (fun _ _ _ => SameSurface.trans) hf xs h

/-! ## The send side -/

theorem sameSurface_ackOne (now : ℕ) (h : Handling) (entry : AckEntry) :
    SameSurface h.st (ackOne now h entry).st := by
  unfold ackOne
  split
  · exact ⟨rfl, rfl, rfl, rfl⟩
  · refine SameSurface.trans ?_ (sameSurface_complete _ _ _)
    exact ⟨rfl, rfl, rfl, rfl⟩

theorem sameSurface_onAckFrame (h : Handling) (frame : Frame) (now : ℕ) :
    SameSurface h.st (h.onAckFrame frame now).st := by
  unfold onAckFrame
  split
  · exact .refl h.st
  · exact sameSurface_foldl (sameSurface_ackOne now) _ h

theorem sameSurface_nackLoop (now : ℕ) : ∀ (entries : List NackEntry) (h : Handling),
    SameSurface h.st (nackLoop now entries h).st
  | [], h => .refl h.st
  | entry :: rest, h => by
    unfold nackLoop
    dsimp only
    split
    · next port _ =>
      have hfirst : SameSurface h.st { h with
          st := h.st.withSender (h.st.sender.handleNack entry.transactionId entry.missingSeqs now).2
          port := port }.st := ⟨rfl, rfl, rfl, rfl⟩
      exact hfirst.trans (sameSurface_nackLoop now rest _)
    · exact ⟨rfl, rfl, rfl, rfl⟩

theorem sameSurface_onNackFrame (h : Handling) (frame : Frame) (now : ℕ) :
    SameSurface h.st (h.onNackFrame frame now).st := by
  unfold onNackFrame
  split
  · exact .refl h.st
  · exact sameSurface_nackLoop now _ h

theorem sameSurface_onResumeResponseFrame (h : Handling) (frame : Frame) (now : ℕ) :
    SameSurface h.st (h.onResumeResponseFrame frame now).st := by
  unfold onResumeResponseFrame
  split
  · exact .refl h.st
  · dsimp only
    split
    · exact ⟨rfl, rfl, rfl, rfl⟩
    · refine SameSurface.trans ?_ ((sameSurface_foldl
        (fun h id => sameSurface_complete h id true) _ _).trans
          (sameSurface_foldl (fun h id => sameSurface_complete h id false) _ _))
      exact ⟨rfl, rfl, rfl, rfl⟩

/-! ## The receive side -/

theorem Heeds.flows (hheeds : Heeds h frame h') : Flows h.st h'.st := by
  cases hheeds with
  | ignored => exact .refl h.st
  | paused => exact fun hs => hs.onStream staysOpen_setPaused _
  | @aborted txid =>
    exact (flows_dropReceive h.st (endsStream_finish .cancelled rfl) txid).trans
      (SameSurface.flows ⟨rfl, rfl, rfl, rfl⟩)
  | closed =>
    intro hs
    obtain ⟨hs', hfrozen⟩ := hs.ends (endsStream_finish .complete rfl) _
    exact ⟨hs'.weaken fun id hx => hx.1, hfrozen⟩
  | @cutShort txid =>
    exact (flows_dropReceive h.st (endsStream_finishIncomplete _ _) txid).trans
      (SameSurface.flows ⟨rfl, rfl, rfl, rfl⟩)
  | expired => exact fun hs => hs.dropReceive (endsStream_finish .cancelled rfl) _
  | adjudicated =>
    refine Flows.trans ?_ (sameSurface_writeControl _ _ _).flows
    exact fun hs => hs.dropAbandoned _

theorem surface_streamAccepted {opensStream : Bool} (emitted : List (ℕ × Bytes))
    (hs : Surface (· = frame.transactionId) h.st)
    (hopens : opensStream = true → h.st.streams.get? frame.transactionId = none) :
    Surface (· = frame.transactionId) (h.streamAccepted frame opensStream emitted).st ∧
      Frozen h.st (h.streamAccepted frame opensStream emitted).st := by
  unfold streamAccepted
  cases opensStream with
  | true =>
    have hid : ((StreamInner.new frame.transactionId frame.totalLen).send emitted).txid =
        frame.transactionId := rfl
    obtain ⟨hs', hfrozen⟩ := hs.opens (hopens rfl) hid rfl
    exact ⟨hs'.weaken fun id hx => hx.elim (fun hid => hid) fun hid => hid, hfrozen⟩
  | false => exact hs.onStream (staysOpen_clearPaused_send emitted) _

theorem sameSurface_finalAck (h : Handling) (id : TxId) : SameSurface h.st (h.finalAck id).st := by
  unfold finalAck
  cases h.st.reassembler.ackEntry id with
  | none => exact ⟨rfl, rfl, rfl, rfl⟩
  | some entry =>
    obtain ⟨hr, hstreams, howned, hobjects⟩ := sameSurface_sendAckEntries h [entry]
    exact ⟨hr, hstreams, howned, hobjects⟩

/-- The hand-over resolves the exception: a complete slot keeps no
stream. -/
theorem surface_handOver {id : TxId} (handlerPresent : Bool) (hs : Surface (· = id) h.st) :
    Surface (fun _ => False) (h.handOver id handlerPresent).st ∧
      Frozen h.st (h.handOver id handlerPresent).st := by
  -- taking the payload erases the slot of the id, which no stream stands over any more
  have htake : ∀ st : SessionState, st.streams.get? id = none → Surface (· = id) st →
      Surface (fun _ => False) st ∧
        Surface (fun _ => False) (st.withReassembler (st.reassembler.takeCompleted id).2) := by
    intro st hnone hst
    have hplain : Surface (fun _ => False) st := by
      refine ⟨hst.owned, fun id' object hget _ => hst.slot id' object hget ?_, hst.object, hst.live⟩
      rintro rfl
      rw [hnone] at hget
      cases hget
    refine ⟨hplain, hplain.withReassembler fun id' object hget _ => ?_⟩
    obtain ⟨slot, hslot, hc⟩ := hplain.slot id' object hget not_false
    have hne : id' ≠ id := by
      rintro rfl
      rw [hnone] at hget
      cases hget
    rcases takeCompleted_cases st.reassembler id with heq | ⟨_, -, -, heq⟩
    · rw [heq]
      exact ⟨slot, hslot, hc⟩
    · rw [heq]
      exact ⟨slot, (Table.get?_erase_of_ne _ hne).trans hslot, hc⟩
  unfold handOver
  split
  · next howned =>
    obtain ⟨hs', hfrozen⟩ := hs.ends (endsStream_finish .complete rfl) id
    have hnone : ((h.st.endStream id fun inner => inner.finish .complete).disown id).streams.get? id
        = none := by
      unfold SessionState.endStream
      split
      · next hnone => exact hnone
      · exact Table.get?_erase_self _ _
    rw [← disown_endStream] at hs' hfrozen hnone
    exact ⟨(htake _ hnone (hs'.weaken fun id hx => hx.1)).2, hfrozen⟩
  · next howned =>
    have hnone : h.st.streams.get? id = none := by
      rw [← Option.not_isSome_iff_eq_none]
      exact fun hsome => howned ((hs.owned id).2 (Option.isSome_iff_exists.1 hsome))
    obtain ⟨hplain, htaken⟩ := htake h.st hnone hs
    split
    · split
      · exact ⟨hplain, .refl h.st⟩
      · next payload r heq =>
        rw [heq] at htaken
        exact ⟨htaken, .refl h.st⟩
    · exact ⟨hplain, .refl h.st⟩

/-- What follows an accepted frame, given what was stored. -/
theorem surface_dataAccepted {slot : Slot} {opensStream : Bool} {emitted : List (ℕ × Bytes)}
    {handlerPresent : Bool} (hs : Surface (· = frame.transactionId) h.st)
    (hslot : h.st.reassembler.slots.get? frame.transactionId = some slot)
    (hopens : opensStream = true → h.st.streams.get? frame.transactionId = none) :
    Surface (fun _ => False)
        (h.dataAccepted frame opensStream slot.isComplete emitted handlerPresent).st ∧
      Frozen h.st (h.dataAccepted frame opensStream slot.isComplete emitted handlerPresent).st := by
  unfold dataAccepted
  dsimp only
  have hcount : SameSurface h.st (h.withState (h.st.withPendingAckFrames
      (h.st.pendingAckFrames.insert frame.transactionId
        ((h.st.pendingAckFrames.get? frame.transactionId).getD 0 + 1)))).st :=
    ⟨rfl, rfl, rfl, rfl⟩
  generalize h.withState _ = h₁ at hcount
  obtain ⟨hs₁, hfrozen₁⟩ := surface_streamAccepted emitted (hcount.surface hs)
    (by rw [hcount.streams]; exact hopens)
  have hslot₁ : (h₁.streamAccepted frame opensStream emitted).st.reassembler.slots.get?
      frame.transactionId = some slot := by
    rw [(h₁.streamAccepted_spec frame opensStream emitted).2.1, hcount.reassembler]
    exact hslot
  generalize h₁.streamAccepted frame opensStream emitted = h₂ at hs₁ hfrozen₁ hslot₁
  have hfrozen := hcount.frozen.trans hfrozen₁
  split
  · have hack := h₂.sameSurface_finalAck frame.transactionId
    obtain ⟨hs₃, hfrozen₃⟩ := surface_handOver handlerPresent (hack.surface hs₁)
    exact ⟨hs₃, hfrozen.trans (hack.frozen.trans hfrozen₃)⟩
  · next hc =>
    refine ⟨⟨hs₁.owned, fun id object hget _ => ?_, hs₁.object, hs₁.live⟩, hfrozen⟩
    by_cases hid : id = frame.transactionId
    · subst hid
      exact ⟨slot, hslot₁, Bool.eq_false_iff.2 hc⟩
    · exact hs₁.slot id object hget hid

theorem flows_onDataFrame (h : Handling) (frame : Frame) (handlerPresent streamPresent : Bool) :
    Flows h.st (h.onDataFrame frame handlerPresent streamPresent).st := by
  intro hs
  -- a stream over the id means that the id has a slot
  have hslotless : h.st.reassembler.slots.get? frame.transactionId = none →
      h.st.streams.get? frame.transactionId = none := by
    intro hnone
    rw [← Option.not_isSome_iff_eq_none]
    intro hsome
    obtain ⟨object, hget⟩ := Option.isSome_iff_exists.1 hsome
    obtain ⟨slot, hslot, -⟩ := hs.slot _ object hget not_false
    rw [hnone] at hslot
    cases hslot
  have hfeeds := TransactionReassembler.receive_feeds h.st.reassembler frame streamPresent
  simp only [onDataFrame]
  rw [TransactionReassembler.receive] at hfeeds
  generalize h.st.reassembler.receiveFrame frame.transactionId frame.seq frame.totalLen
    frame.payload.length frame.payload streamPresent = res at hfeeds ⊢
  cases hfeeds with
  | refused | dropped hnone hseq | duplicate hget => exact ⟨hs, .refl h.st⟩
  | overlong hnone hseq =>
    refine ⟨hs.withReassembler fun id object hget _ => ?_, .refl h.st⟩
    have hne : id ≠ frame.transactionId := by
      rintro rfl
      rw [hslotless hnone] at hget
      cases hget
    obtain ⟨slot, hslot, hc⟩ := hs.slot id object hget not_false
    exact ⟨slot, (Table.get?_insert_of_ne _ _ hne).trans hslot, hc⟩
  | @stored slot emitted r' hslot hroom hget hothers =>
    have hs₁ : Surface (· = frame.transactionId) (h.st.withReassembler r') := by
      refine hs.withReassembler fun id object hobject hne => ?_
      obtain ⟨slot, hslot, hc⟩ := hs.slot id object hobject not_false
      exact ⟨slot, (hothers id hne).trans hslot, hc⟩
    refine surface_dataAccepted hs₁ hget ?_
    intro hopens
    simp only [Bool.and_eq_true, Bool.not_eq_true'] at hopens
    exact hslotless (Option.not_isSome_iff_eq_none.1 (Bool.eq_false_iff.1 hopens.2))

theorem flows_dispatch (h : Handling) (frame : Frame) (handlerPresent streamPresent : Bool)
    (now : ℕ) : Flows h.st (h.dispatch frame handlerPresent streamPresent now).st := by
  refine dispatch_rule (P := fun h' => Flows h.st h'.st) h ?_ ?_ ?_ ?_ ?_
  · exact fun _ => h.flows_onDataFrame frame handlerPresent streamPresent
  · exact fun _ => (h.sameSurface_onAckFrame frame now).flows
  · exact fun _ => (h.sameSurface_onNackFrame frame now).flows
  · exact fun _ => (h.sameSurface_onResumeResponseFrame frame now).flows
  · exact fun _ hheeds => hheeds.flows

/-! ## The clock -/

theorem sameSurface_exportAcks (h : Handling) (config : TransferConfig) (now : ℕ) :
    SameSurface h.st (h.exportAcks config now).st := by
  unfold exportAcks
  dsimp only
  split
  · refine SameSurface.trans ?_ (sameSurface_sendAckEntries _ _)
    exact ⟨rfl, rfl, rfl, rfl⟩
  · exact .refl h.st

theorem sameSurface_nackFeedback (h : Handling) (config : TransferConfig) (now : ℕ) :
    SameSurface h.st (h.nackFeedback config now).st :=
  h.nackFeedback_rel config now (R := fun h h' => SameSurface h.st h'.st) (fun h => .refl h.st)
    (fun _ _ _ => SameSurface.trans) (fun _ _ => sameSurface_writeControl _ _ _)
    ⟨rfl, rfl, rfl, rfl⟩

theorem sameSurface_redeclare (h : Handling) (config : TransferConfig) (now : ℕ) :
    SameSurface h.st (h.redeclare config now).st := by
  unfold redeclare
  dsimp only
  split
  · exact ⟨rfl, rfl, rfl, rfl⟩
  · refine SameSurface.trans ?_ (sameSurface_writeControl _ _ _)
    exact ⟨rfl, rfl, rfl, rfl⟩

theorem sameSurface_heartbeat (h : Handling) (config : TransferConfig) (now : ℕ) :
    SameSurface h.st (h.heartbeat config now).st := by
  unfold heartbeat
  dsimp only
  split
  · refine SameSurface.trans ?_ (sameSurface_writeControl _ _ _)
    exact ⟨rfl, rfl, rfl, rfl⟩
  · exact .refl h.st

theorem sameSurface_tick (h : Handling) (config : TransferConfig) (now : ℕ) :
    SameSurface h.st (h.tick config now).2.st := by
  have hfirst := (h.sameSurface_exportAcks config now).trans
    ((h.exportAcks config now).sameSurface_nackFeedback config now)
  unfold tick
  dsimp only
  generalize (h.exportAcks config now).nackFeedback config now = h₁ at hfirst
  have hdue : SameSurface h₁.st (h₁.retransmitDue now).2.st := ⟨rfl, rfl, rfl, rfl⟩
  generalize h₁.retransmitDue now = res at hdue
  obtain ⟨ok, h₂⟩ := res
  cases ok with
  | false => exact hfirst.trans hdue
  | true => exact hfirst.trans (hdue.trans ((h₂.sameSurface_redeclare config now).trans
      ((h₂.redeclare config now).sameSurface_heartbeat config now)))

end Handling

/-- Taking payloads leaves incomplete slots alone. -/
theorem get?_takeAll {id : TxId} {slot : Slot} (hc : slot.isComplete = false) :
    ∀ (ids : List TxId) (r : TransactionReassembler), r.slots.get? id = some slot →
      (takeAll ids r).2.slots.get? id = some slot
  | [], _, hget => hget
  | txid :: rest, r, hget => by
    unfold takeAll
    rcases Handling.takeCompleted_cases r txid with heq | ⟨slot', hget', hc', heq⟩
    · rw [heq]
      exact get?_takeAll hc rest r hget
    · rw [heq]
      have hne : id ≠ txid := by
        rintro rfl
        rw [hget, Option.some.injEq] at hget'
        rw [← hget', hc] at hc'
        cases hc'
      exact get?_takeAll hc rest _ ((Table.get?_erase_of_ne _ hne).trans hget)

theorem flows_drainCompleted (st : SessionState) (handlerPresent : Bool) :
    SessionState.Flows st (drainCompleted st handlerPresent).2 := by
  unfold drainCompleted
  split
  · intro hs
    refine ⟨hs.withReassembler fun id object hget _ => ?_, .refl st⟩
    obtain ⟨slot, hslot, hc⟩ := hs.slot id object hget not_false
    exact ⟨slot, get?_takeAll hc _ _ hslot, hc⟩
  · exact .refl st

/-! ## Sessions -/

namespace Session

open SessionState

variable {s s' : Session} {k now : ℕ} {outcomes : List Bool} {t : Task}

theorem Idles.flows (h : Idles s s') : Flows s.state s'.state := by
  rcases h.surface with hsame | hstalled | hcleared
  · exact hsame.flows
  · have hstall : Flows s.state s.state.stallStreams := fun hs => hs.onStreams staysOpen_setStalled
    exact hstall.trans hstalled.flows
  · have hclear : Flows s.state (s.state.onStreams StreamInner.clearStalled) := fun hs =>
      hs.onStreams staysOpen_clearStalled
    exact hclear.trans hcleared.flows

/-- The slots and the ownership are left alone. -/
theorem Idles.slots (h : Idles s s') : s'.state.reassembler = s.state.reassembler ∧
    s'.state.streamOwned = s.state.streamOwned := by
  rcases h.surface with hsame | hsame | hsame
  all_goals exact ⟨hsame.reassembler, hsame.streamOwned⟩

theorem SendLocked.idles {txid : TxId} {payload : Bytes} {cb : Bool}
    {r : Option (List Frame) × Session} (h : SendLocked s k txid payload cb now r) :
    Idles s r.2 := by
  cases h with
  | refused => exact .of_state rfl rfl
  | stranded hopen => exact ⟨fun h => h, .inl ⟨rfl, rfl, rfl, rfl⟩⟩
  | framed hopen happend hfinish => cases cb <;> exact ⟨fun h => h, .inl ⟨rfl, rfl, rfl, rfl⟩⟩

theorem idles_of_abortLocked {txid : TxId} {existed : Bool} {s₁ : Session}
    (h : s.abortLocked txid = (existed, s₁)) : Idles s s₁ := by
  rw [abortLocked_eq] at h
  split at h <;> cases h <;> exact ⟨fun h => h, .inl ⟨rfl, rfl, rfl, rfl⟩⟩

/-- **Only a drain touches the receive side.** -/
theorem Stretch.idles (h : Stretch s k now outcomes t s')
    (hdrain : ∀ conn, t ≠ .clock conn .drain) :
    Idles s s' := by
  have hend : ∀ (s₁ : Session) (t' : Task), Idles s s₁ → Idles s (s₁.setTask k t') :=
    fun s₁ t' hidles => ⟨hidles.handler, hidles.surface⟩
  cases h with
  | quiet hmoves hsame htasks hidles | spawnClock hfresh hsame htasks hidles
  | stopClock hclock hsame htasks hidles =>
    exact hidles
  | abort hlock haborts => exact hend _ _ (idles_of_abortLocked hlock)
  | send hlock | sendFails hlock => exact hend _ _ (sendLocked_cases hlock).idles
  | @declare conn entries =>
    have hsame := (Handling.start s.state outcomes).sameSurface_writeControl .resume
      (encodeResumeRequest entries)
    exact ⟨fun h => h, .inl ⟨hsame.reassembler, hsame.streams, hsame.streamOwned, hsame.objects⟩⟩
  | @tickDead conn h htick | @tick conn h htick =>
    have hsame := (Handling.start s.state outcomes).sameSurface_tick s.config now
    rw [show (Handling.start s.state outcomes).tick s.config now = _ from htick] at hsame
    exact ⟨fun h => h, .inl ⟨hsame.reassembler, hsame.streams, hsame.streamOwned, hsame.objects⟩⟩
  | @drain conn taken state htake => exact absurd rfl (hdrain conn)
  | _ => exact ⟨fun h => h, .inl ⟨rfl, rfl, rfl, rfl⟩⟩

end Session

/-! ## Receptions -/

namespace Reception

open SessionState

variable {r r' : Reception}

/-- The session's own actions do not touch the receive side. -/
theorem idles_session {a : Session.Action} {s' : Session} (hfine : r.coarse a = false)
    (hstep : r.session.step a = some s') : Session.Idles r.session s' := by
  cases Session.step_steps hstep with
  | idle hsame htasks hquiet hidles => exact hidles
  | @advanced k now outcomes t s' hget hstretch =>
    refine hstretch.idles fun conn ht => ?_
    subst ht
    simp only [coarse, hget] at hfine
    cases hfine
  | received hconn => cases hfine
  | opened hopen | unpaused hpaused => exact ⟨fun h => h, .inl ⟨rfl, rfl, rfl, rfl⟩⟩
  | started hfresh hcall | sawClosed hget => exact .of_state rfl rfl

theorem session_pass (r : Reception) (parcel : Parcel) : (r.pass parcel).session = r.session := by
  unfold pass
  split <;> rfl

theorem state_locked (r : Reception) (k : ℕ) (call : InboundCall)
    (handlerPresent streamPresent : Bool) (now : ℕ) (outcomes : List Bool) :
    (r.locked k call handlerPresent streamPresent now outcomes).session.state =
      (handleInbound r.session.state call.frame handlerPresent streamPresent now outcomes).st := by
  unfold locked
  dsimp only
  split <;> rfl

/-- **What a step can do.** -/
inductive Turns (r : Reception) : Action → Reception → Prop
  | own {a : Session.Action} {s' : Session} (hfine : r.coarse a = false)
      (hstep : r.session.step a = some s') : Turns r (.session a) (r.withSession s')
  | arrived {k conn : ℕ} {frame : Frame} (hnew : r.calls.get? k = none) :
      Turns r (.arrive k conn frame)
        { r with calls := r.calls.insert k ⟨conn, frame, .readBinary⟩ }
  | readBinary {k now : ℕ} {outcomes : List Bool} {call : InboundCall}
      (hget : r.calls.get? k = some call) (hpc : call.pc = .readBinary) :
      Turns r (.handle k now outcomes) (r.setCall k call (.readStream r.session.binaryHandler))
  | readStream {k now : ℕ} {outcomes : List Bool} {call : InboundCall} {handlerPresent : Bool}
      (hget : r.calls.get? k = some call) (hpc : call.pc = .readStream handlerPresent) :
      Turns r (.handle k now outcomes)
        (r.setCall k call (.lock handlerPresent r.session.streamHandler))
  | locked {k now : ℕ} {outcomes : List Bool} {call : InboundCall}
      {handlerPresent streamPresent : Bool} (hget : r.calls.get? k = some call)
      (hpc : call.pc = .lock handlerPresent streamPresent) :
      Turns r (.handle k now outcomes)
        (r.locked k call handlerPresent streamPresent now outcomes)
  | returned {k now : ℕ} {outcomes : List Bool} {call : InboundCall}
      (hget : r.calls.get? k = some call) (hpc : call.pc = .deliver []) :
      Turns r (.handle k now outcomes) (r.setCall k call .returned)
  | passed {k now : ℕ} {outcomes : List Bool} {call : InboundCall} {parcel : Parcel}
      {rest : List Parcel} (hget : r.calls.get? k = some call)
      (hpc : call.pc = .deliver (parcel :: rest)) :
      Turns r (.handle k now outcomes) ((r.pass parcel).setCall k call (.deliver rest))
  | sawHandler {k conn : ℕ} (htask : r.session.tasks.get? k = some (.clock conn .drain))
      (hget : r.drains.get? k = none) (hhandler : r.session.binaryHandler = true) :
      Turns r (.drain k) { r with drains := r.drains.insert k .take }
  | sawNone {k conn : ℕ} (htask : r.session.tasks.get? k = some (.clock conn .drain))
      (hget : r.drains.get? k = none) :
      Turns r (.drain k) (r.withSession (r.session.setTask k (.clock conn .idle)))
  | took {k conn : ℕ} (htask : r.session.tasks.get? k = some (.clock conn .drain))
      (hget : r.drains.get? k = some .take) : Turns r (.drain k) (r.drain k conn (some .take))
  | drained {k conn : ℕ} (htask : r.session.tasks.get? k = some (.clock conn .drain))
      (hget : r.drains.get? k = some (.deliver [])) :
      Turns r (.drain k) { r.withSession (r.session.setTask k (.clock conn .idle)) with
        drains := r.drains.erase k }
  | drainPassed {k conn : ℕ} {parcel : Parcel} {rest : List Parcel}
      (htask : r.session.tasks.get? k = some (.clock conn .drain))
      (hget : r.drains.get? k = some (.deliver (parcel :: rest))) :
      Turns r (.drain k) { r.pass parcel with drains := r.drains.insert k (.deliver rest) }

/-- **The inversion of `step`.** -/
theorem step_turns {a : Action} (hstep : r.step a = some r') : Turns r a r' := by
  cases a with
  | session a =>
    simp only [step] at hstep
    split at hstep
    · cases hstep
    · next hfine =>
      obtain ⟨s', hs', rfl⟩ := Option.map_eq_some_iff.1 hstep
      exact .own (Bool.not_eq_true _ ▸ hfine) hs'
  | arrive k conn frame =>
    simp only [step] at hstep
    split at hstep
    · next harrives =>
      cases hstep
      exact .arrived (Option.not_isSome_iff_eq_none.1 (Bool.eq_false_iff.1 harrives.2))
    · cases hstep
  | handle k now outcomes =>
    obtain ⟨call, hget, hhandle⟩ := Option.bind_eq_some_iff.1 hstep
    unfold handle at hhandle
    split at hhandle
    · next hpc => cases hhandle; exact .readBinary hget hpc
    · next hpc => cases hhandle; exact .readStream hget hpc
    · next hpc => cases hhandle; exact .locked hget hpc
    · next hpc => cases hhandle; exact .returned hget hpc
    · next hpc => cases hhandle; exact .passed hget hpc
    · cases hhandle
  | drain k =>
    simp only [step] at hstep
    split at hstep
    · next conn htask =>
      cases hstep
      cases hget : r.drains.get? k with
      | none =>
        unfold drain
        dsimp only
        split
        · next hhandler => exact .sawHandler htask hget hhandler
        · exact .sawNone htask hget
      | some pc =>
        cases pc with
        | take => exact .took htask hget
        | deliver parcels =>
          cases parcels with
          | nil => exact .drained htask hget
          | cons parcel rest => exact .drainPassed htask hget
    · cases hstep

/-- **What a step does to the surface.** -/
theorem step_flows {a : Action} (hstep : r.step a = some r') :
    Flows r.session.state r'.session.state := by
  have hpass : ∀ parcel, Flows r.session.state (r.pass parcel).session.state := by
    intro parcel
    rw [session_pass]
    exact .refl _
  cases step_turns hstep with
  | own hfine hs' => exact (idles_session hfine hs').flows
  | @locked k now outcomes call handlerPresent streamPresent hget hpc =>
    rw [state_locked]
    have htouch : SameSurface r.session.state (r.session.state.touch now) := ⟨rfl, rfl, rfl, rfl⟩
    exact htouch.flows.trans (Handling.flows_dispatch
      (Handling.start (r.session.state.touch now) outcomes) call.frame handlerPresent
      streamPresent now)
  | passed hget hpc => exact hpass _
  | took htask hget => exact flows_drainCompleted r.session.state true
  | drainPassed htask hget => exact hpass _
  | arrived hnew | readBinary hget hpc | readStream hget hpc | returned hget hpc
  | sawHandler htask hget hhandler | sawNone htask hget | drained htask hget => exact .refl _

theorem run_flows {acts : List Action} (hrun : run Reception.step r acts = some r') :
    Flows r.session.state r'.session.state := by
  refine run_induct (I := fun t => Flows r.session.state t.session.state) ?_ (.refl _) hrun
  intro t a t' hflows hstep
  exact hflows.trans (step_flows hstep)

/-- **The stream tables agree in every state reached**: the ids owned are
those of the stream table, each over an open incomplete slot, and an object
has ended exactly when it has left the table. What has ended stays as it is
in every state that follows. -/
theorem streams_agree {config : TransferConfig} {start : ℕ} {acts : List Action}
    (hrun : run Reception.step (new config start) acts = some r) :
    (r.session.state.streamOwned = r.session.state.streams.keys.toFinset ∧
      (∀ id ∈ r.session.state.streams.keys, ∃ slot,
        r.session.state.reassembler.slots.get? id = some slot ∧ slot.isComplete = false) ∧
      ∀ (object : ℕ) (inner : StreamInner), r.session.state.objects[object]? = some inner →
        (inner.state.isTerminal = true ↔ object ∉ r.session.state.streams.values)) ∧
    ∀ more r', run Reception.step r more = some r' →
      ∀ (object : ℕ) (inner : StreamInner), r.session.state.objects[object]? = some inner →
        inner.state.isTerminal = true → r'.session.state.objects[object]? = some inner := by
  have hs := (run_flows hrun (surface_new config start)).1
  refine ⟨⟨Finset.ext fun id => ?_, fun id hid => ?_, fun object inner hget => ?_⟩, ?_⟩
  · rw [List.mem_toFinset, Table.mem_keys_iff]
    exact hs.owned id
  · obtain ⟨object, hget⟩ := Table.mem_keys_iff.1 hid
    exact hs.slot id object hget not_false
  · rw [hs.live object inner hget]
    refine ⟨fun hall hmem => ?_, fun hout id hget' => hout ?_⟩
    · obtain ⟨⟨id, object'⟩, hentry, rfl⟩ := List.mem_map.1 hmem
      exact hall id (Table.mem_toList.1 hentry)
    · exact Table.mem_values.2 ⟨id, hget'⟩
  · exact fun more r' hmore => (run_flows hmore hs).2

namespace Sample

/-- Run a call to the end of its locked section. -/
def handled (k conn : ℕ) (frame : Frame) : List Action :=
  .arrive k conn frame :: List.replicate 3 (.handle k 0 [])

/-- The first of two bytes opens a stream; the holder aborts. -/
def aborted : List Action :=
  (Session.wireUp 0 0 1 0).map .session ++ .session .onBinaryStream ::
    (handled 0 0 (dataFrame zeroId 2 0 [7]) ++ handled 1 0 (abortFrame zeroId))

end Sample

theorem streams_agree_sample :
    ∃ r inner, run Reception.step (new {} 0) Sample.aborted = some r ∧
      r.session.state.objects[0]? = some inner ∧ inner.state = .cancelled ∧
      0 ∉ r.session.state.streams.values ∧
      ∀ more r', run Reception.step r more = some r' →
        r'.session.state.objects[0]? = some inner := by
  obtain ⟨r, inner, hrun, hget, hstate⟩ :
      ∃ r inner, run Reception.step (new {} 0) Sample.aborted = some r ∧
        r.session.state.objects[0]? = some inner ∧ inner.state = .cancelled := by decide
  have hterm := congrArg StreamState.isTerminal hstate
  obtain ⟨⟨-, -, hlive⟩, hfrozen⟩ := streams_agree hrun
  exact ⟨_, _, hrun, hget, hstate, (hlive 0 _ hget).1 hterm,
    fun more r' hmore => hfrozen more r' hmore 0 _ hget hterm⟩

end Reception

end Transfer

end Xacpp
