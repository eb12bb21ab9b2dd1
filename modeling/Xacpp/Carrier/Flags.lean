import Xacpp.Carrier.Readers
/-!
# The flags of the transport

`connected` and the close watch are written by `connect`, `disconnect`, the
dispatch tasks and the drains of all connections. Nothing takes the mark off
the close watch, and `connect` stores `connected` after it has spawned the
tasks that would take it down. `Prompt` asks that at that store the watch is
unmarked, the new tasks are running and no task is half way through closing;
then `connected` tells the truth (`Truthful`).
-/

namespace Xacpp

namespace Carrier

/-- The stretches under the connect lock in which `connected` is down. -/
def Op.down : Op → Bool
  | .connect .check | .connect (.storeHandle _) | .disconnect .clearHooks => false
  | .connect .open | .connect .storeEgress | .connect (.storeConnected _)
  | .disconnect .takeEgress | .disconnect .takeHandle | .disconnect .clearPending => true

namespace SocketTransport

variable {t t' : SocketTransport} {a : Action}

/-- The dispatch task and the drain of connection `n` are running. -/
def Live (t : SocketTransport) (n : ℕ) : Prop :=
  (t.dispatches.get? n).map Dispatch.pc = some .running ∧ t.drains.get? n = some .running

instance (n : ℕ) : Decidable (t.Live n) := inferInstanceAs (Decidable (_ ∧ _))

/-- No task is between its store of `connected` and its mark on the close
watch. -/
def Whole (t : SocketTransport) : Prop :=
  (∀ d ∈ t.dispatches.values, d.pc ≠ .marking) ∧ ∀ pc ∈ t.drains.values, pc ≠ .failing

instance : Decidable t.Whole := inferInstanceAs (Decidable (_ ∧ _))

/-- `connect` stores `connected` while the close watch is unmarked, the tasks
it has spawned are running and no task is half way through closing. -/
def Prompt (t : SocketTransport) : Action → Prop
  | .advance _ =>
    match t.op with
    | some (.connect (.storeConnected n)) => t.closed = false ∧ t.Live n ∧ t.Whole
    | _ => True
  | _ => True

instance : Decidable (Prompt t a) := by
  unfold Prompt
  split
  · split <;> infer_instance
  · infer_instance

/-- **`connected` tells the truth.** -/
structure Truthful (t : SocketTransport) : Prop where
  unmarked : t.connected = true → t.closed = false
  live : t.connected = true → ∃ n, t.attached = some n ∧ t.Live n
  whole : t.connected = true → t.Whole
  down : ∀ op, t.op = some op → op.down = true → t.connected = false
  current : ∀ n, t.op = some (.connect (.storeConnected n)) → t.attached = some n

theorem truthful_newImpl (client : Bool) : Truthful (newImpl client) where
  unmarked h := by cases h
  live h := by cases h
  whole h := by cases h
  down op h := by cases h
  current n h := by cases h

/-- Where `connected` is down there is little to say. -/
theorem Truthful.of_down (hdown : t'.connected = false)
    (hcurrent : ∀ n, t'.op = some (.connect (.storeConnected n)) → t'.attached = some n) :
    Truthful t' := by
  have hnot : ¬ t'.connected = true := Bool.eq_false_iff.1 hdown
  exact ⟨fun h => absurd h hnot, fun h => absurd h hnot, fun h => absurd h hnot, fun _ _ _ => hdown,
    hcurrent⟩

/-- A step that leaves `connected` as it is. -/
theorem Truthful.of_same (h : Truthful t) (hconnected : t'.connected = t.connected)
    (hattached : t'.attached = t.attached)
    (hop : t'.op = t.op ∨ ∀ op, t'.op = some op → op.down = false)
    (hclosed : t.connected = true → t'.closed = t.closed)
    (hlive : ∀ n, t.connected = true → t.attached = some n → t.Live n → t'.Live n)
    (hwhole : t.connected = true → t.Whole → t'.Whole) : Truthful t' := by
  refine ⟨fun hup => ?_, fun hup => ?_, fun hup => ?_, fun op hget hdown => ?_, fun n hget => ?_⟩
  · rw [hconnected] at hup
    rw [hclosed hup]
    exact h.unmarked hup
  · rw [hconnected] at hup
    obtain ⟨n, hn, hlives⟩ := h.live hup
    exact ⟨n, hattached.trans hn, hlive n hup hn hlives⟩
  · rw [hconnected] at hup
    exact hwhole hup (h.whole hup)
  · rw [hconnected]
    rcases hop with hsame | hidle
    · exact h.down op (hsame ▸ hget) hdown
    · rw [hidle op hget] at hdown
      cases hdown
  · rw [hattached]
    rcases hop with hsame | hidle
    · exact h.current n (hsame ▸ hget)
    · have hdown := hidle _ hget
      cases hdown

/-- The tasks are untouched too. -/
theorem Truthful.of_tasks (h : Truthful t) (hconnected : t'.connected = t.connected)
    (hattached : t'.attached = t.attached)
    (hop : t'.op = t.op ∨ ∀ op, t'.op = some op → op.down = false) (hclosed : t'.closed = t.closed)
    (hdispatches : t'.dispatches = t.dispatches) (hdrains : t'.drains = t.drains) :
    Truthful t' := by
  refine h.of_same hconnected hattached hop (fun _ => hclosed) (fun n _ _ hlives => ?_)
    (fun _ hwhole => ?_)
  · rw [Live, hdispatches, hdrains]
    exact hlives
  · rw [Whole, hdispatches, hdrains]
    exact hwhole

theorem whole_iff : t.Whole ↔ (∀ n d, t.dispatches.get? n = some d → d.pc ≠ .marking) ∧
    ∀ n, t.drains.get? n ≠ some .failing := by
  constructor
  · rintro ⟨hmarking, hfailing⟩
    refine ⟨fun n d hget => hmarking d (Table.mem_values.2 ⟨n, hget⟩), fun n hget => ?_⟩
    exact hfailing .failing (Table.mem_values.2 ⟨n, hget⟩) rfl
  · rintro ⟨hmarking, hfailing⟩
    refine ⟨fun d hmem => ?_, fun pc hmem hpc => ?_⟩
    · obtain ⟨n, hget⟩ := Table.mem_values.1 hmem
      exact hmarking n d hget
    · obtain ⟨n, hget⟩ := Table.mem_values.1 hmem
      exact hfailing n (hpc ▸ hget)

/-- A dispatch task goes on without leaving its loop. -/
theorem Truthful.setDispatch (h : Truthful t) {n : ℕ} {d : Dispatch} {inbox : List (Option Bytes)}
    (hget : t.dispatches.get? n = some d) : Truthful (t.setDispatch n inbox d.pc) := by
  refine h.of_same rfl rfl (.inl rfl) (fun _ => rfl) (fun m _ _ hlives => ⟨?_, hlives.2⟩)
    (fun _ hwhole => whole_iff.2 ⟨fun m d' hget' => ?_, (whole_iff.1 hwhole).2⟩)
  · rw [SocketTransport.setDispatch, Table.get?_insert]
    split
    · next hm =>
      have hruns := hlives.1
      rw [hm, hget] at hruns
      exact hruns
    · exact hlives.1
  · rcases Table.of_get?_insert hget' with ⟨rfl, rfl⟩ | ⟨-, hget'⟩
    · exact (whole_iff.1 hwhole).1 _ d hget
    · exact (whole_iff.1 hwhole).1 m d' hget'

/-- A drain ends that is not the attached connection's. -/
theorem Truthful.endDrain (h : Truthful t) {n : ℕ}
    (hother : t.connected = true → t.Live n → t.attached ≠ some n) :
    Truthful { t with drains := t.drains.insert n .ended } := by
  refine h.of_same rfl rfl (.inl rfl) (fun _ => rfl) (fun m hup hm hlives => ⟨hlives.1, ?_⟩)
    (fun _ hwhole => whole_iff.2 ⟨(whole_iff.1 hwhole).1, fun m hget => ?_⟩)
  · have hne : m ≠ n := fun heq => hother hup (heq ▸ hlives) (heq ▸ hm)
    exact (Table.get?_insert_of_ne _ _ hne).trans hlives.2
  · rcases Table.of_get?_insert hget with ⟨-, heq⟩ | ⟨-, hget⟩
    · cases heq
    · exact (whole_iff.1 hwhole).2 m hget

/-! ## The steps -/

theorem Truthful.advanceConnect (h : Truthful t) {reachable : Bool} {pc : ConnectPc}
    (hop : t.op = some (.connect pc)) (hprompt : Prompt t (.advance reachable)) :
    Truthful (t.advanceConnect reachable pc) := by
  cases pc with
  | check =>
    simp only [SocketTransport.advanceConnect]
    split
    · exact h.of_tasks rfl rfl (.inr fun _ h => by cases h) rfl rfl rfl
    · next hdown => exact .of_down (Bool.eq_false_iff.2 hdown) fun _ h => by cases h
  | «open» =>
    have hdown := h.down _ hop rfl
    simp only [SocketTransport.advanceConnect]
    split
    · split <;> exact .of_down hdown fun _ h => by cases h
    · split <;> exact .of_down hdown fun _ h => by cases h
  | storeEgress =>
    refine .of_down (h.down _ hop rfl) fun n hn => ?_
    cases hn
    rfl
  | storeConnected n =>
    have hprompt' : t.closed = false ∧ t.Live n ∧ t.Whole := by
      simp only [Prompt, hop] at hprompt
      exact hprompt
    obtain ⟨hclosed, hlives, hwhole⟩ := hprompt'
    refine ⟨fun _ => hclosed, fun _ => ⟨n, h.current n hop, hlives⟩, fun _ => hwhole,
      fun op hget hdown => ?_, fun _ h => by cases h⟩
    cases hget
    cases hdown
  | storeHandle n => exact h.of_tasks rfl rfl (.inr fun _ h => by cases h) rfl rfl rfl

theorem Truthful.advanceDisconnect (h : Truthful t) {pc : DisconnectPc}
    (hop : t.op = some (.disconnect pc)) : Truthful (t.advanceDisconnect pc) := by
  cases pc with
  | clearHooks => exact .of_down rfl fun _ h => by cases h
  | takeEgress =>
    simp only [SocketTransport.advanceDisconnect]
    split
    · exact .of_down (h.down _ hop rfl) fun _ h => by cases h
    · exact .of_down rfl fun _ h => by cases h
  | takeHandle =>
    have hdown := h.down _ hop rfl
    simp only [SocketTransport.advanceDisconnect]
    split <;> exact .of_down hdown fun _ h => by cases h
  | clearPending => exact .of_down (h.down _ hop rfl) fun _ h => by cases h

theorem Truthful.reads (h : Truthful t) {n : ℕ} (hreads : Reads t n t') : Truthful t' := by
  obtain ⟨-, -, hsends, -, -, -⟩ := hreads
  rcases hsends with rfl | ⟨d, inbox, hget, rfl⟩
  · exact h.of_tasks rfl rfl (.inl rfl) rfl rfl rfl
  · have hqueued : Truthful (t.setDispatch n inbox d.pc) := h.setDispatch hget
    exact hqueued.of_tasks rfl rfl (.inl rfl) rfl rfl rfl

theorem Truthful.advanceDispatch (h : Truthful t) {n : ℕ} {d : Dispatch}
    (hget : t.dispatches.get? n = some d) (hadv : t.advanceDispatch n d = some t') :
    Truthful t' := by
  obtain ⟨inbox, pc⟩ := d
  cases pc with
  | running =>
    match inbox, hadv with
    | some _ :: rest, hadv =>
      cases hadv
      exact h.setDispatch (d := ⟨_, .running⟩) hget
    | none :: rest, hadv =>
      cases hadv
      exact .of_down rfl h.current
    | [], hadv =>
      simp only [SocketTransport.advanceDispatch] at hadv
      split at hadv
      · cases hadv
        exact .of_down rfl h.current
      · cases hadv
  | clearing =>
    simp only [SocketTransport.advanceDispatch] at hadv
    cases hadv
    exact .of_down rfl h.current
  | marking =>
    -- a task at its mark has taken `connected` down
    have hdown : t.connected = false :=
      Bool.eq_false_iff.2 fun hup => (whole_iff.1 (h.whole hup)).1 n _ hget rfl
    simp only [SocketTransport.advanceDispatch] at hadv
    cases hadv
    exact .of_down hdown h.current
  | ended =>
    simp only [SocketTransport.advanceDispatch] at hadv
    cases hadv

theorem Truthful.advanceDrain (h : Truthful t) {n : ℕ} {ok : Bool} {pc : DrainPc}
    (hget : t.drains.get? n = some pc) (hadv : t.advanceDrain n ok pc = some t') :
    Truthful t' := by
  cases pc with
  | running =>
    simp only [SocketTransport.advanceDrain] at hadv
    split at hadv
    · split at hadv
      · next hdropped =>
        cases hadv
        refine h.endDrain fun _ hlives _ => ?_
        -- the dispatch task of a live connection has an entry to the queue
        have hended := of_decide_eq_true (Bool.and_eq_true_iff.1 hdropped).2
        cases hlives.1.symm.trans hended
      · cases hadv
    · split at hadv
      · cases hadv
        exact .of_down rfl h.current
      · cases hadv
  | closing =>
    simp only [SocketTransport.advanceDrain] at hadv
    split at hadv
    · cases hadv
      refine h.endDrain fun _ hlives _ => ?_
      cases hlives.2.symm.trans hget
    · split at hadv
      · cases hadv
        exact .of_down rfl h.current
      · cases hadv
  | failing =>
    have hdown : t.connected = false :=
      Bool.eq_false_iff.2 fun hup => (whole_iff.1 (h.whole hup)).2 n hget
    cases hadv
    exact .of_down hdown h.current
  | ended => cases hadv

theorem Truthful.step (h : Truthful t) (hprompt : Prompt t a) (hstep : t.step a = some t') :
    Truthful t' := by
  cases a with
  | connect | disconnect =>
    simp only [SocketTransport.step] at hstep
    split at hstep
    · cases hstep
    · cases hstep
      refine h.of_tasks rfl rfl (.inr fun op hget => ?_) rfl rfl rfl
      cases hget
      rfl
  | advance reachable =>
    obtain ⟨op, hop, rfl⟩ := Option.map_eq_some_iff.1 hstep
    cases op with
    | connect pc => exact h.advanceConnect hop hprompt
    | disconnect pc => exact h.advanceDisconnect hop
  | onTransferActivity present =>
    cases hstep
    cases present <;> exact h.of_tasks rfl rfl (.inl rfl) rfl rfl rfl
  | read n outcome =>
    obtain ⟨reader, hget, hread⟩ := Option.bind_eq_some_iff.1 hstep
    split at hread
    · next hready =>
      cases hread
      exact h.reads (received_reads hget hready.1)
    · cases hread
  | reader n =>
    obtain ⟨reader, hget, hadv⟩ := Option.bind_eq_some_iff.1 hstep
    exact h.reads (advanceReader_reads hget hadv)
  | dispatch n =>
    obtain ⟨d, hget, hadv⟩ := Option.bind_eq_some_iff.1 hstep
    exact h.advanceDispatch hget hadv
  | drain n ok =>
    obtain ⟨pc, hget, hadv⟩ := Option.bind_eq_some_iff.1 hstep
    exact h.advanceDrain hget hadv

/-- **A transport that says it is connected is.** In every run in which
`connect` stores `connected` while the close watch is unmarked, its tasks are
running and no task is half way through closing: wherever `connected` is up,
the dispatch task and the drain of the attached connection are running, and
subscribers of `closed()` see `false`. -/
theorem connected_is_live {client : Bool} {acts : List Action}
    (hmeets : RunMeets step Prompt (newImpl client) acts)
    (hrun : run step (newImpl client) acts = some t) (hup : t.connected = true) :
    (∃ n, t.attached = some n ∧ t.Live n) ∧ t.closed = false := by
  have htruth : Truthful t := run_induct_of (I := Truthful)
    (fun _ _ _ h hprompt hstep => h.step hprompt hstep) (truthful_newImpl client) hmeets hrun
  exact ⟨htruth.live hup, htruth.unmarked hup⟩

theorem connected_is_live_sample :
    ∃ t, run step connectTo Sample.connects = some t ∧ t.op = none ∧ t.connected = true ∧
      (∃ n, t.attached = some n ∧ t.Live n) ∧ t.closed = false := by
  have hmeets : RunMeets step Prompt connectTo Sample.connects := by decide +kernel
  obtain ⟨t, hrun, hidle, hup⟩ : ∃ t, run step connectTo Sample.connects = some t ∧
      t.op = none ∧ t.connected = true := by decide +kernel
  exact ⟨_, hrun, hidle, hup, connected_is_live hmeets hrun hup⟩

namespace Sample

/-- The peer closes connection `n`, and its tasks end. -/
def peerCloses (n : ℕ) : List Action :=
  [.read n .eof, .reader n, .dispatch n, .dispatch n, .dispatch n, .drain n true]

end Sample

/-- A connection that dies before `connect` has stored `connected` leaves it
up with no task running. And after a connection was closed by the peer, the
next one runs with the close watch still marked. -/
theorem connected_is_stale :
    (∃ t, run step connectTo (.connect :: List.replicate 3 (.advance true) ++
        Sample.peerCloses 0 ++ List.replicate 2 (.advance true)) = some t ∧
      t.op = none ∧ t.connected = true ∧ t.attached = some 0 ∧
      (t.dispatches.get? 0).map Dispatch.pc = some .ended ∧ t.drains.get? 0 = some .ended) ∧
    ∃ t, run step connectTo (Sample.connects ++ Sample.peerCloses 0 ++ Sample.connects) = some t ∧
      t.op = none ∧ t.connected = true ∧ t.attached = some 1 ∧ t.Live 1 ∧ t.closed = true := by
  decide +kernel

end SocketTransport

end Carrier

end Xacpp
