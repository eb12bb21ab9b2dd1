import Xacpp.Carrier.Socket
/-!
# Readers of past connections

A frame reader outlives the `disconnect` of its connection, and every reader
looks into the same hook slot. Whether it can reach hooks that are not its
own depends on what is running when hooks are registered: `Settled` asks
that no reader of a past connection is, and then no hooks in the slot, and
none a reader has in hand, were registered after that reader's connection
had gone (`Sound`).

`Effect` says what a step can do, to the drains too.
-/

namespace Xacpp

namespace Carrier

/-- The event does not bring a reader together with hooks that were
registered after its connection had gone. -/
def Event.Fair : Event → Prop
  | .routed n hooks _ | .unregistered n hooks => ¬ hooks.After n
  | .connectReturned _ | .disconnectReturned => True

/-- Where a stretch takes a drain. -/
def DrainPc.next (ok : Bool) : DrainPc → DrainPc
  | .running | .closing => if ok then .ended else .failing
  | .failing | .ended => .ended

namespace SocketTransport

variable {t t' : SocketTransport} {a : Action}

variable {n : ℕ}

/-- Hooks are registered only while every reader that runs is that of the
attached connection. -/
def Settled (t : SocketTransport) : Action → Prop
  | .onTransferActivity true =>
    ∀ n ∈ t.readers.keys, t.readerEnded n = false → t.attached = some n
  | _ => True

instance (t : SocketTransport) (a : Action) : Decidable (Settled t a) := by
  unfold Settled
  split <;> infer_instance

/-! ## What a step can do -/

/-- No drain goes on; one may be told to close, and one may be spawned. -/
inductive Rests (t t' : SocketTransport) : Prop
  | keeps (hdrains : ∀ n, t'.drains.get? n = t.drains.get? n ∨
        t.drains.get? n = some .running ∧ t'.drains.get? n = some .closing)
      (hstarted : t'.started = t.started) (hop : t.op = some (.connect .storeEgress) → t'.op = t.op)
  | spawns (hop : t.op = some (.connect .open))
      (hdrains : t'.drains = t.drains.insert t.started .running) (hstarted : t'.started = t.started)
      (hop' : t'.op = some (.connect .storeEgress))
  | starts (hdrains : t'.drains = t.drains) (hstarted : t'.started = t.started + 1)

/-- What is sent to the dispatch task of connection `n` waits in its
channel. -/
def Sends (t : SocketTransport) (n : ℕ) (dispatches : Table ℕ Dispatch) : Prop :=
  dispatches = t.dispatches ∨ ∃ d inbox, t.dispatches.get? n = some d ∧
    dispatches = t.dispatches.insert n ⟨inbox, d.pc⟩

/-- Reader `n` goes on. It has in hand what is in the slot, it calls what it
has in hand, and its end empties the slot. -/
inductive Reads (t : SocketTransport) (n : ℕ) : SocketTransport → Prop
  | mk {reader reader' : Reader} {dispatches : Table ℕ Dispatch} {slot : Option Hooks}
      {log : List Event} (hget : t.readers.get? n = some reader) (hruns : reader.pc ≠ .ended)
      (hsends : Sends t n dispatches)
      (hcall : ∀ hooks frame rest, reader'.pc = .call hooks frame rest →
        t.transferHooks = some hooks)
      (hslot : slot = t.transferHooks ∨ slot = none)
      (hlog : ∀ e ∈ log, e ∈ t.log ∨
        (∃ hooks frame rest, reader.pc = .call hooks frame rest ∧ e = .routed n hooks frame) ∨
          ∃ hooks, t.transferHooks = some hooks ∧ e = .unregistered n hooks) :
      Reads t n { t with
        readers := t.readers.insert n reader', dispatches := dispatches, transferHooks := slot,
        log := log }

/-- What a step does to the readers, the hook slot and the history, and a
step that is not a drain's to the drains. -/
inductive Effect (t : SocketTransport) : Action → SocketTransport → Prop
  | apart {a : Action} {t' : SocketTransport} (hreaders : t'.readers = t.readers)
      (hhooks : t'.transferHooks = t.transferHooks ∨ t'.transferHooks = none)
      (hstarted : t'.started = t.started) (hlog : ∀ e ∈ t'.log, e ∈ t.log ∨ e.Fair)
      (hrests : (∀ n ok, a ≠ .drain n ok) → Rests t t') : Effect t a t'
  | starts {a : Action} {t' : SocketTransport}
      (hreaders : t'.readers = t.readers.insert t.started ⟨.new, .read⟩)
      (hhooks : t'.transferHooks = t.transferHooks) (hstarted : t'.started = t.started + 1)
      (hlog : t'.log = t.log) (hdrains : t'.drains = t.drains) : Effect t a t'
  | registers : Effect t (.onTransferActivity true) (t.onTransferActivity true)
  | reads {a : Action} {t' : SocketTransport} {n : ℕ} (h : Reads t n t') : Effect t a t'

theorem Rests.of_same (hdrains : t'.drains = t.drains) (hstarted : t'.started = t.started)
    (hop : t.op = some (.connect .storeEgress) → t'.op = t.op) : Rests t t' :=
  .keeps (fun _ => .inl (by rw [hdrains])) hstarted hop

/-- The operation under the lock goes on. -/
theorem Rests.of_op {op : Op} (hdrains : t'.drains = t.drains)
    (hstarted : t'.started = t.started) (hop : t.op = some op) (hne : op ≠ .connect .storeEgress) :
    Rests t t' :=
  .of_same hdrains hstarted fun h => absurd (Option.some.inj (hop.symm.trans h)) hne

theorem Rests.of_queueClose (hdrains : t'.drains = (t.queueClose n).drains)
    (hstarted : t'.started = t.started)
    (hop : t.op = some (.connect .storeEgress) → t'.op = t.op) : Rests t t' := by
  refine .keeps (fun m => ?_) hstarted hop
  rw [hdrains, queueClose, Table.get?_modify]
  split
  · next heq =>
    subst heq
    rcases hget : t.drains.get? m with - | pc
    · exact .inl rfl
    · cases pc with
      | running => exact .inr ⟨rfl, rfl⟩
      | _ => exact .inl rfl
  · exact .inl rfl

theorem Effect.rests (h : Effect t a t') (ha : ∀ n ok, a ≠ .drain n ok) : Rests t t' := by
  cases h with
  | apart hreaders hhooks hstarted hlog hrests => exact hrests ha
  | starts hreaders hhooks hstarted hlog hdrains => exact .starts hdrains hstarted
  | registers => exact .of_same rfl rfl fun _ => rfl
  | reads hreads =>
    cases hreads
    exact .of_same rfl rfl fun _ => rfl

theorem Effect.of_eq (hreaders : t'.readers = t.readers)
    (hhooks : t'.transferHooks = t.transferHooks ∨ t'.transferHooks = none)
    (hstarted : t'.started = t.started) (hlog : t'.log = t.log) (hrests : Rests t t') :
    Effect t a t' :=
  .apart hreaders hhooks hstarted (fun _ he => .inl (hlog ▸ he)) fun _ => hrests

/-- The operation under the lock returns. -/
theorem Effect.of_returns {t₁ : SocketTransport} {e : Event} (hfair : e.Fair)
    (hreaders : t₁.readers = t.readers) (hhooks : t₁.transferHooks = t.transferHooks)
    (hstarted : t₁.started = t.started) (hlog : t₁.log = t.log)
    (hrests : Rests t (t₁.returns e)) : Effect t a (t₁.returns e) := by
  refine .apart hreaders (.inl hhooks) hstarted (fun e' he => ?_) fun _ => hrests
  rcases List.mem_cons.1 he with rfl | he
  · exact .inr hfair
  · exact .inl (hlog ▸ he)

theorem advanceConnect_effect {pc : ConnectPc} (hop : t.op = some (.connect pc))
    (reachable : Bool) : Effect t a (t.advanceConnect reachable pc) := by
  cases pc with
  | check =>
    simp only [advanceConnect]
    split
    · exact .of_returns trivial rfl rfl rfl rfl (.of_op rfl rfl hop (by simp))
    · exact .of_eq rfl (.inl rfl) rfl rfl (.of_op rfl rfl hop (by simp))
  | «open» =>
    simp only [advanceConnect]
    split
    · split
      · exact .of_eq rfl (.inl rfl) rfl rfl (.spawns hop rfl rfl rfl)
      · exact .of_returns trivial rfl rfl rfl rfl (.of_op rfl rfl hop (by simp))
    · split
      · exact .of_eq rfl (.inl rfl) rfl rfl (.spawns hop rfl rfl rfl)
      · exact .of_returns trivial rfl rfl rfl rfl (.of_op rfl rfl hop (by simp))
  | storeEgress => exact .starts rfl rfl rfl rfl rfl
  | storeConnected n => exact .of_eq rfl (.inl rfl) rfl rfl (.of_op rfl rfl hop (by simp))
  | storeHandle n => exact .of_returns trivial rfl rfl rfl rfl (.of_op rfl rfl hop (by simp))

theorem advanceDisconnect_effect {pc : DisconnectPc} (hop : t.op = some (.disconnect pc)) :
    Effect t a (t.advanceDisconnect pc) := by
  cases pc with
  | clearHooks => exact .of_eq rfl (.inr rfl) rfl rfl (.of_op rfl rfl hop (by simp))
  | takeEgress =>
    simp only [advanceDisconnect]
    split
    · exact .of_eq rfl (.inl rfl) rfl rfl (.of_op rfl rfl hop (by simp))
    · exact .of_eq rfl (.inl rfl) rfl rfl
        (.of_queueClose rfl rfl fun h => by cases hop.symm.trans h)
  | takeHandle =>
    simp only [advanceDisconnect]
    split
    · exact .of_eq rfl (.inl rfl) rfl rfl (.of_op rfl rfl hop (by simp))
    · exact .of_eq rfl (.inl rfl) rfl rfl (.of_op rfl rfl hop (by simp))
  | clearPending => exact .of_returns trivial rfl rfl rfl rfl (.of_op rfl rfl hop (by simp))

theorem sendFrame_some {item : Option Bytes} {sent : Bool}
    (h : t.sendFrame n item = some (sent, t')) :
    ∃ dispatches, t' = { t with dispatches := dispatches } ∧ Sends t n dispatches := by
  unfold sendFrame at h
  split at h
  · cases h
    exact ⟨_, rfl, .inl rfl⟩
  · next d hget =>
    split at h
    · cases h
      exact ⟨_, rfl, .inl rfl⟩
    · split at h
      · cases h
        exact ⟨_, rfl, .inr ⟨d, _, hget, rfl⟩⟩
      · cases h

/-- A reader goes on without touching the slot or calling anyone. -/
theorem Reads.of_setReader {reader reader' : Reader} {pc : ReaderPc}
    {dispatches : Table ℕ Dispatch} (hget : t.readers.get? n = some reader)
    (hruns : reader.pc ≠ .ended) (hsends : Sends t n dispatches)
    (hcall : ∀ hooks frame rest, pc = .call hooks frame rest → t.transferHooks = some hooks) :
    Reads t n ({ t with dispatches := dispatches }.setReader n reader' pc) :=
  .mk hget hruns hsends hcall (.inl rfl) fun _ he => .inl he

theorem onward_ne_call {frame frame' : Frame} {rest rest' : List Frame} {hooks : Hooks} :
    onward frame rest ≠ .call hooks frame' rest' := by
  unfold onward
  split <;> exact fun h => by cases h

theorem received_reads {reader : Reader} {outcome : ReadOutcome}
    (hget : t.readers.get? n = some reader) (hread : reader.pc = .read) :
    Reads t n (t.received n reader outcome) := by
  have hruns : reader.pc ≠ .ended := fun h => by rw [hread] at h; cases h
  unfold received
  split
  · exact .of_setReader hget hruns (.inl rfl) fun _ _ _ h => (by cases h)
  · exact .of_setReader hget hruns (.inl rfl) fun _ _ _ h => (by cases h)
  · split
    · exact .of_setReader hget hruns (.inl rfl) fun _ _ _ h => (by cases h)
    · exact .of_setReader hget hruns (.inl rfl) fun _ _ _ h => (by cases h)

theorem advanceReader_reads {reader : Reader} (hget : t.readers.get? n = some reader)
    (h : t.advanceReader n reader = some t') : Reads t n t' := by
  have hruns : reader.pc ≠ .ended := by
    intro hpc
    simp only [advanceReader, hpc] at h
    cases h
  have honward : ∀ {frame : Frame} {rest : List Frame} (hooks : Hooks) (frame' : Frame)
      (rest' : List Frame), onward frame rest = .call hooks frame' rest' →
        t.transferHooks = some hooks := fun _ _ _ h => absurd h onward_ne_call
  cases hpc : reader.pc with
  | read =>
    simp only [advanceReader, hpc] at h
    cases h
  | route frames =>
    cases frames with
    | nil =>
      simp only [advanceReader, hpc, Option.some.injEq] at h
      subst h
      exact .of_setReader hget hruns (.inl rfl) fun _ _ _ h => (by cases h)
    | cons frame rest =>
      simp only [advanceReader, hpc] at h
      split at h
      · cases h
        exact .of_setReader hget hruns (.inl rfl) honward
      · next hooks hhooks =>
        cases h
        refine .of_setReader hget hruns (.inl rfl) fun _ _ _ h => ?_
        cases h
        exact hhooks
  | call hooks frame rest =>
    simp only [advanceReader, hpc, Option.some.injEq] at h
    subst h
    refine .mk hget hruns (.inl rfl) honward (.inl rfl) fun e he => ?_
    rcases List.mem_cons.1 he with rfl | he
    · exact .inr (.inl ⟨hooks, frame, rest, hpc, rfl⟩)
    · exact .inl he
  | forward payload rest =>
    simp only [advanceReader, hpc] at h
    obtain ⟨⟨sent, t₁⟩, hsend, hnext⟩ := Option.map_eq_some_iff.1 h
    obtain ⟨dispatches, rfl, hsends⟩ := sendFrame_some hsend
    cases sent with
    | true | false =>
      subst hnext
      exact .of_setReader hget hruns hsends fun _ _ _ h => (by cases h)
  | surface =>
    simp only [advanceReader, hpc] at h
    obtain ⟨⟨sent, t₁⟩, hsend, rfl⟩ := Option.map_eq_some_iff.1 h
    obtain ⟨dispatches, rfl, hsends⟩ := sendFrame_some hsend
    exact .of_setReader hget hruns hsends fun _ _ _ h => (by cases h)
  | detach =>
    simp only [advanceReader, hpc, Option.some.injEq] at h
    subst h
    cases hhooks : t.transferHooks with
    | none =>
      exact .mk hget hruns (.inl rfl) (fun _ _ _ h => (by cases h)) (.inr rfl)
        fun e he => .inl he
    | some hooks =>
      refine .mk hget hruns (.inl rfl) (fun _ _ _ h => (by cases h)) (.inr rfl) fun e he => ?_
      rcases List.mem_cons.1 he with rfl | he
      · exact .inr (.inr ⟨hooks, hhooks, rfl⟩)
      · exact .inl he
  | ended => exact absurd hpc hruns

theorem advanceDispatch_effect {d : Dispatch} (h : t.advanceDispatch n d = some t') :
    Effect t a t' := by
  unfold advanceDispatch at h
  split at h
  · cases h
    exact .of_eq rfl (.inl rfl) rfl rfl (.of_same rfl rfl fun _ => rfl)
  · cases h
    exact .of_eq rfl (.inl rfl) rfl rfl (.of_same rfl rfl fun _ => rfl)
  · split at h
    · cases h
      exact .of_eq rfl (.inl rfl) rfl rfl (.of_same rfl rfl fun _ => rfl)
    · cases h
  · cases h
    exact .of_eq rfl (.inl rfl) rfl rfl (.of_queueClose rfl rfl fun _ => rfl)
  · cases h
    exact .of_eq rfl (.inl rfl) rfl rfl (.of_same rfl rfl fun _ => rfl)
  · cases h

/-- A drain that goes on touches the flags and no more. -/
theorem advanceDrain_some {ok : Bool} {pc : DrainPc}
    (h : t.advanceDrain n ok pc = some t') : ∃ connected closed, t' = { t with
      connected := connected, closed := closed, drains := t.drains.insert n (pc.next ok) } := by
  cases pc with
  | running =>
    cases ok with
    | true | false =>
      obtain ⟨-, ⟨⟩⟩ := Option.ite_none_right_eq_some.1 h
      exact ⟨_, _, rfl⟩
  | closing =>
    cases ok with
    | true =>
      cases h
      exact ⟨_, _, rfl⟩
    | false =>
      obtain ⟨-, ⟨⟩⟩ := Option.ite_none_right_eq_some.1 h
      exact ⟨_, _, rfl⟩
  | failing =>
    cases h
    exact ⟨_, _, rfl⟩
  | ended => cases h

/-- **The inversion of `step`.** -/
theorem step_effect (h : t.step a = some t') : Effect t a t' := by
  cases a with
  | connect | disconnect =>
    simp only [step] at h
    split at h
    · cases h
    · next hidle =>
      cases h
      exact .of_eq rfl (.inl rfl) rfl rfl (.of_same rfl rfl fun hop => absurd (hop ▸ rfl) hidle)
  | advance reachable =>
    obtain ⟨op, hop, rfl⟩ := Option.map_eq_some_iff.1 h
    cases op with
    | connect pc => exact advanceConnect_effect hop reachable
    | disconnect pc => exact advanceDisconnect_effect hop
  | onTransferActivity present =>
    cases h
    cases present with
    | true => exact .registers
    | false => exact .of_eq rfl (.inr rfl) rfl rfl (.of_same rfl rfl fun _ => rfl)
  | read n outcome =>
    obtain ⟨reader, hget, hread⟩ := Option.bind_eq_some_iff.1 h
    split at hread
    · next hready =>
      cases hread
      exact .reads (received_reads hget hready.1)
    · cases hread
  | reader n =>
    obtain ⟨reader, hget, hadv⟩ := Option.bind_eq_some_iff.1 h
    exact .reads (advanceReader_reads hget hadv)
  | dispatch n =>
    obtain ⟨d, -, hadv⟩ := Option.bind_eq_some_iff.1 h
    exact advanceDispatch_effect hadv
  | drain n ok =>
    obtain ⟨pc, -, hadv⟩ := Option.bind_eq_some_iff.1 h
    obtain ⟨connected, closed, rfl⟩ := advanceDrain_some hadv
    exact .apart rfl (.inl rfl) rfl (fun _ he => .inl he) fun ha => absurd rfl (ha n ok)

/-! ## Runs -/

/-- No reader that runs can reach hooks registered after its connection had
gone: not in the slot, and not in its hands. -/
structure Sound (t : SocketTransport) : Prop where
  started : ∀ n reader, t.readers.get? n = some reader → n < t.started
  registered : ∀ hooks, t.transferHooks = some hooks → hooks.started ≤ t.started
  slot : ∀ hooks, t.transferHooks = some hooks → ∀ n reader,
    t.readers.get? n = some reader → reader.pc ≠ .ended → ¬ hooks.After n
  inHand : ∀ n reader hooks frame rest, t.readers.get? n = some reader →
    reader.pc = .call hooks frame rest → ¬ hooks.After n
  fair : ∀ e ∈ t.log, e.Fair

theorem sound_newImpl (client : Bool) : Sound (newImpl client) where
  started n reader h := by
    rw [newImpl, Table.get?_empty] at h
    cases h
  registered hooks h := by cases h
  slot hooks h := by cases h
  inHand n reader hooks frame rest h := by
    rw [newImpl, Table.get?_empty] at h
    cases h
  fair e h := absurd h List.not_mem_nil

theorem hooks_of_kept {slot : Option Hooks} (h : slot = t.transferHooks ∨ slot = none)
    (hooks : Hooks) (hget : slot = some hooks) : t.transferHooks = some hooks := by
  rcases h with hsame | hnone
  · exact hsame ▸ hget
  · rw [hnone] at hget
    cases hget

theorem Sound.effect (h : Sound t) (hsettled : Settled t a) (heffect : Effect t a t') :
    Sound t' := by
  cases heffect with
  | apart hreaders hhooks hstarted hlog =>
    have hslot := hooks_of_kept hhooks
    refine ⟨?_, fun hooks hget => ?_, fun hooks hget => ?_, ?_, fun e he => ?_⟩
    · rw [hreaders, hstarted]
      exact h.started
    · rw [hstarted]
      exact h.registered hooks (hslot hooks hget)
    · rw [hreaders]
      exact h.slot hooks (hslot hooks hget)
    · rw [hreaders]
      exact h.inHand
    · exact (hlog e he).elim (h.fair e) fun hfair => hfair
  | starts hreaders hhooks hstarted hlog =>
    refine ⟨fun n reader hget => ?_, fun hooks hget => ?_, fun hooks hget n reader hr hruns => ?_,
      fun n reader hooks frame rest hr hpc => ?_, fun e he => h.fair e (hlog ▸ he)⟩
    · rw [hreaders, Table.get?_insert] at hget
      split at hget
      · omega
      · have hlt := h.started n reader hget
        omega
    · have hle := h.registered hooks (hhooks ▸ hget)
      omega
    · rw [hreaders, Table.get?_insert] at hr
      split at hr
      · -- the connection that starts had not started when the hooks were registered
        next hn =>
        have hle := h.registered hooks (hhooks ▸ hget)
        exact fun hafter => absurd hafter.1 (by omega)
      · exact h.slot hooks (hhooks ▸ hget) n reader hr hruns
    · rw [hreaders, Table.get?_insert] at hr
      split at hr
      · cases hr
        cases hpc
      · exact h.inHand n reader hooks frame rest hr hpc
  | registers =>
    refine ⟨h.started, fun hooks hget => ?_, fun hooks hget n reader hr hruns => ?_, h.inHand,
      h.fair⟩
    · cases hget
      exact Nat.le_refl _
    · cases hget
      have hattached := hsettled n (Table.mem_keys_iff.2 ⟨reader, hr⟩) (by
        change t.readers.get? n = some reader at hr
        rw [readerEnded, hr]
        exact decide_eq_false hruns)
      exact fun hafter => hafter.2 hattached
  | @reads a t' n hreads =>
    obtain @⟨reader, reader', _, slot, _, hget, hruns, -, hcall, hslot, hlog⟩ := hreads
    have hself : ∀ hooks, t.transferHooks = some hooks → ¬ hooks.After n :=
      fun hooks hin => h.slot hooks hin n reader hget hruns
    have hkept : ∀ hooks, slot = some hooks → t.transferHooks = some hooks :=
      hooks_of_kept hslot
    refine ⟨fun m r hr => ?_, fun hooks hin => h.registered hooks (hkept hooks hin),
      fun hooks hin m r hr hm => ?_, fun m r hooks frame rest hr hpc => ?_, fun e he => ?_⟩
    · rcases Table.of_get?_insert hr with ⟨rfl, -⟩ | ⟨-, hr⟩
      · exact h.started m reader hget
      · exact h.started m r hr
    · rcases Table.of_get?_insert hr with ⟨rfl, -⟩ | ⟨-, hr⟩
      · exact hself hooks (hkept hooks hin)
      · exact h.slot hooks (hkept hooks hin) m r hr hm
    · rcases Table.of_get?_insert hr with ⟨rfl, rfl⟩ | ⟨-, hr⟩
      · exact hself hooks (hcall hooks frame rest hpc)
      · exact h.inHand m r hooks frame rest hr hpc
    · rcases hlog e he with he | ⟨hooks, frame, rest, hpc, rfl⟩ | ⟨hooks, hin, rfl⟩
      · exact h.fair e he
      · exact h.inHand n reader hooks frame rest hget hpc
      · exact hself hooks hin

/-- **Readers keep to their own connection's hooks**: where hooks are
registered only once the readers of past connections have ended, no frame
reaches hooks that were registered after its connection had gone, and no
reader's end takes such hooks out of the slot. -/
theorem readers_keep_apart {client : Bool} {acts : List Action}
    (hmeets : RunMeets step Settled (newImpl client) acts)
    (hrun : run step (newImpl client) acts = some t) :
    (∀ n hooks frame, Event.routed n hooks frame ∈ t.log → ¬ hooks.After n) ∧
      ∀ n hooks, Event.unregistered n hooks ∈ t.log → ¬ hooks.After n := by
  have hsound : Sound t := run_induct_of (I := Sound)
    (fun _ _ _ h hsettled hstep => h.effect hsettled (step_effect hstep))
    (sound_newImpl client) hmeets hrun
  exact ⟨fun n hooks frame he => hsound.fair _ he, fun n hooks he => hsound.fair _ he⟩

namespace Sample

/-- `connect`, to its end. -/
def connects : List Action := .connect :: List.replicate 5 (.advance true)

/-- `disconnect`, to its end. -/
def disconnects : List Action := .disconnect :: List.replicate 4 (.advance true)

/-- One connection with its hooks, disconnected and replaced by another with
hooks of its own. The reader of the first is still there. -/
def replaced : List Action :=
  connects ++ [.onTransferActivity true] ++ disconnects ++ connects ++ [.onTransferActivity true]

/-- A `TRANSACTION_ABORT`, and the bytes it is on the wire. -/
def lateFrame : Frame where
  frameType := .transactionAbort
  transactionId := zeroId
  totalLen := 0
  seq := 0
  payload := zeroId.toList

def late : Bytes := (lateFrame.encode crc32IsoHdlc).toOption.getD []

/-- Late bytes of the first connection, and its end. -/
def lingers : List Action :=
  [.read 0 (.bytes late), .reader 0, .reader 0, .reader 0, .read 0 .eof, .reader 0]

/-- The hooks of the second connection. -/
def second : Hooks := ⟨1, 2, some 1⟩

/-- The reader of the first connection has ended before the second one's
hooks are registered. -/
def patient : List Action :=
  connects ++ [.onTransferActivity true] ++ disconnects ++ [.read 0 .eof, .reader 0] ++ connects ++
    [.onTransferActivity true, .read 1 (.bytes late), .reader 1, .reader 1]

end Sample

theorem readers_keep_apart_sample :
    ∃ t, run step connectTo Sample.patient = some t ∧
      Event.routed 1 Sample.second Sample.lateFrame ∈ t.log ∧ ¬ Sample.second.After 1 := by
  obtain ⟨t, hrun, hrouted⟩ : ∃ t, run step connectTo Sample.patient = some t ∧
      Event.routed 1 Sample.second Sample.lateFrame ∈ t.log := by decide +kernel
  have hmeets : RunMeets step Settled connectTo Sample.patient := by decide +kernel
  exact ⟨_, hrun, hrouted, (readers_keep_apart hmeets hrun).1 1 _ _ hrouted⟩

/-- A reader that lingers gives a frame of the first connection to the
hooks of the second, and takes them out of the slot when it ends. -/
theorem late_reader_reaches_next_hooks :
    Sample.second.After 0 ∧ ∃ t, run step connectTo (Sample.replaced ++ Sample.lingers) = some t ∧
      Event.routed 0 Sample.second Sample.lateFrame ∈ t.log ∧
      Event.unregistered 0 Sample.second ∈ t.log ∧ t.attached = some 1 ∧ t.connected = true ∧
      t.transferHooks = none := by
  decide +kernel

end SocketTransport

end Carrier

end Xacpp
