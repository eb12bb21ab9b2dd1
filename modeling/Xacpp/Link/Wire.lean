import Xacpp.Link.Fates
/-!
# What is on its way

The inversion of a step of the link, and of the three kinds of control
traffic the handshake consists of: a declaration on its way was there, or
the holder has just taken or repeated it; verdicts on their way were there,
or the receiver has just answered a declaration that was on its way. Pipes
only reorder between channels, so membership is all that is followed.
-/

namespace Xacpp

open Reliability Transfer

namespace Link

/-! ## Pipes -/

namespace Pipe

variable {p p' : Pipe} {f : Frame} {w : Write} {c : ℕ} {a : Session.Action}

theorem mem_frames_queue : f ∈ (p.queue w).frames ↔ f ∈ p.frames ∨ f = w.frame := by
  unfold queue
  cases w.channel with
  | control | data => simp only [frames, List.mem_append, List.mem_singleton]; tauto

theorem mem_frames_foldl {writes : List Write} :
    f ∈ (writes.foldl queue p).frames ↔ f ∈ p.frames ∨ ∃ w ∈ writes, f = w.frame := by
  induction writes generalizing p with
  | nil => simp
  | cons w rest ih =>
    rw [List.foldl_cons, ih, mem_frames_queue]
    simp only [List.mem_cons, exists_eq_or_imp]
    tauto

theorem mem_frames_pump (h : p.pump = some p') : f ∈ p'.frames ↔ f ∈ p.frames := by
  unfold pump at h
  split at h
  · next frame rest hcontrol =>
    cases h
    simp only [frames, hcontrol, List.mem_append, List.mem_cons]
    tauto
  · next frame rest hcontrol hdata =>
    cases h
    simp only [frames, hcontrol, hdata, List.mem_append, List.mem_cons]
    tauto
  · cases h

theorem mem_frames_of_handle (h : p.handle c a = some p') (hf : f ∈ p'.frames) : f ∈ p.frames := by
  unfold handle at h
  split at h
  · split at h
    · cases h
      simp only [frames, List.mem_append] at hf ⊢
      exact hf.imp_right (Or.imp_right List.mem_of_mem_tail)
    · cases h
  · cases h
    exact hf

/-- A frame that is handled was on its way. -/
theorem of_handle {conn now : ℕ} {frame : Frame} {outcomes : List Bool}
    (h : p.handle c (.inbound conn frame now outcomes) = some p') :
    conn = c ∧ frame ∈ p.frames := by
  simp only [handle] at h
  split at h
  · next hhead =>
    refine ⟨hhead.1, List.mem_append_right _ (List.mem_append_right _ ?_)⟩
    exact List.mem_of_mem_head? hhead.2
  · cases h

end Pipe

/-! ## Steps -/

variable {l l' : Link} {a : Action} {id : TxId}

/-- **What a step of the link can do.** -/
inductive Steps (l : Link) : Action → Link → Prop
  | holder {a : Session.Action} {incoming : Pipe} {s : Session}
      (hhandle : l.incoming.handle l.conn a = some incoming)
      (hstep : l.holder.step a = some s) :
      Steps l (.holder a) { l with
        holder := s
        incoming := incoming
        outgoing := (l.holder.sentTo l.conn s).foldl Pipe.queue l.outgoing
        opened := if l.holder.wiredUp l.conn then l.holder.openedBy a s ++ l.opened else l.opened
        declared := l.declared || l.holder.snapshots l.conn a }
  | receiver {a : Session.Action} {outgoing : Pipe} {s : Session}
      (hhandle : l.outgoing.handle l.conn a = some outgoing)
      (hstep : l.receiver.step a = some s) :
      Steps l (.receiver a) { l with
        receiver := s
        outgoing := outgoing
        incoming := (l.receiver.sentTo l.conn s).foldl Pipe.queue l.incoming
        carried := l.carried.filter s.state.awaits }
  | pumpOutgoing {p : Pipe} (hpump : l.outgoing.pump = some p) :
      Steps l .pumpOutgoing { l with outgoing := p }
  | pumpIncoming {p : Pipe} (hpump : l.incoming.pump = some p) :
      Steps l .pumpIncoming { l with incoming := p }
  | reconnect {c : ℕ} (hholder : l.holder.unused c = true)
      (hreceiver : l.receiver.unused c = true) :
      Steps l (.reconnect c) { l with
        conn := c
        outgoing := .empty
        incoming := .empty
        carried := l.receiver.state.reassembler.openTransactions.filter l.receiver.state.awaits
        streams := l.receiver.state.streams.toList
        opened := []
        declared := false }

theorem step_steps (h : l.step a = some l') : Steps l a l' := by
  cases a with
  | holder a =>
    obtain ⟨incoming, hhandle, h⟩ := Option.bind_eq_some_iff.1 h
    obtain ⟨s, hstep, h⟩ := Option.bind_eq_some_iff.1 h
    cases h
    exact .holder hhandle hstep
  | receiver a =>
    obtain ⟨outgoing, hhandle, h⟩ := Option.bind_eq_some_iff.1 h
    obtain ⟨s, hstep, h⟩ := Option.bind_eq_some_iff.1 h
    cases h
    exact .receiver hhandle hstep
  | pumpOutgoing =>
    obtain ⟨p, hpump, rfl⟩ := Option.map_eq_some_iff.1 h
    exact .pumpOutgoing hpump
  | pumpIncoming =>
    obtain ⟨p, hpump, rfl⟩ := Option.map_eq_some_iff.1 h
    exact .pumpIncoming hpump
  | reconnect c =>
    simp only [step] at h
    split at h
    · next hunused =>
      cases h
      rw [Bool.and_eq_true] at hunused
      exact .reconnect hunused.1 hunused.2
    · cases h

/-- A step of the holder, field by field. -/
structure HolderStep (l : Link) (a : Session.Action) (l' : Link) : Prop where
  session : l.holder.step a = some l'.holder
  handled : l.incoming.handle l.conn a = some l'.incoming
  outgoing : l'.outgoing = (l.holder.sentTo l.conn l'.holder).foldl Pipe.queue l.outgoing
  conn : l'.conn = l.conn
  receiver : l'.receiver = l.receiver
  carried : l'.carried = l.carried
  streams : l'.streams = l.streams
  declared : l'.declared = (l.declared || l.holder.snapshots l.conn a)

theorem holder_step {a : Session.Action} (h : l.step (.holder a) = some l') :
    HolderStep l a l' := by
  cases step_steps h with
  | holder hhandle hs => exact ⟨hs, hhandle, rfl, rfl, rfl, rfl, rfl, rfl⟩

/-- A step of the receiver. -/
structure ReceiverStep (l : Link) (a : Session.Action) (l' : Link) : Prop where
  session : l.receiver.step a = some l'.receiver
  handled : l.outgoing.handle l.conn a = some l'.outgoing
  incoming : l'.incoming = (l.receiver.sentTo l.conn l'.receiver).foldl Pipe.queue l.incoming
  conn : l'.conn = l.conn
  holder : l'.holder = l.holder
  carried : l'.carried = l.carried.filter l'.receiver.state.awaits
  streams : l'.streams = l.streams
  declared : l'.declared = l.declared

theorem receiver_step {a : Session.Action} (h : l.step (.receiver a) = some l') :
    ReceiverStep l a l' := by
  cases step_steps h with
  | receiver hhandle hs => exact ⟨hs, hhandle, rfl, rfl, rfl, rfl, rfl, rfl⟩

/-- Both sessions frame what they send. -/
structure Framing (l : Link) : Prop where
  holder : l.holder.Framing
  receiver : l.receiver.Framing

theorem Framing.new (holder receiver : TransferConfig) (now : ℕ) :
    Framing (new holder receiver now) :=
  ⟨.new holder now, .new receiver now⟩

theorem Framing.step (h : Framing l) (hstep : l.step a = some l') : Framing l' := by
  cases step_steps hstep with
  | holder hhandle hs => exact ⟨h.holder.step hs, h.receiver⟩
  | receiver hhandle hs => exact ⟨h.holder, h.receiver.step hs⟩
  | pumpOutgoing hpump | pumpIncoming hpump | reconnect => exact ⟨h.holder, h.receiver⟩

/-! ## Declarations -/

theorem mem_declarations {declared : List AckEntry} :
    declared ∈ l.declarations ↔
      (∃ k t, l.holder.tasks.get? k = some t ∧ t.declaration? l.conn = some declared) ∨
        ∃ f ∈ l.outgoing.frames, declaration? f = some declared := by
  unfold declarations
  rw [List.mem_append, List.mem_filterMap, List.mem_filterMap]
  refine or_congr_left ⟨?_, ?_⟩
  · rintro ⟨t, ht, hd⟩
    obtain ⟨⟨k, t'⟩, hentry, rfl⟩ := List.mem_map.1 ht
    exact ⟨k, t', Table.mem_toList.1 hentry, hd⟩
  · rintro ⟨k, t, hget, hd⟩
    exact ⟨t, Table.mem_values.2 ⟨k, hget⟩, hd⟩

/-- A connection that is new to a session is named by none of its tasks. -/
theorem declaration_of_unused {s : Session} {c k : ℕ} {t : Task} {declared : List AckEntry}
    (hunused : s.unused c = true) (hget : s.tasks.get? k = some t) :
    t.declaration? c ≠ some declared := by
  intro hd
  have hall := (Bool.and_eq_true_iff.1 hunused).2
  have hnames := List.all_eq_true.1 hall t
    (Table.mem_values.2 ⟨k, hget⟩)
  unfold Task.declaration? at hd
  split at hd
  · split at hd
    · next hc => simp [Task.names, hc] at hnames
    · cases hd
  · cases hd

/-- **Where a declaration on its way comes from.** -/
inductive DeclarationStep (l : Link) (declared : List AckEntry) : Action → Prop
  | kept {a : Action} (hmem : declared ∈ l.declarations) : DeclarationStep l declared a
  | taken {k now : ℕ} {outcomes : List Bool}
      (hget : l.holder.tasks.get? k = some (.declarePendingSends (.snapshot l.conn)))
      (hentries : declared = (l.holder.state.sender.declarePending now).1) :
      DeclarationStep l declared (.holder (.advance k now outcomes))
  | again {k now : ℕ} {outcomes : List Bool}
      (hget : l.holder.tasks.get? k = some (.clock l.conn .idle)) (hne : declared ≠ [])
      (hentries : declared = l.holder.redeclaration now) :
      DeclarationStep l declared (.holder (.advance k now outcomes))

theorem declaration_step (hl : Framing l) (hstep : l.step a = some l')
    {declared : List AckEntry} (hmem : declared ∈ l'.declarations) :
    DeclarationStep l declared a := by
  cases step_steps hstep with
  | @holder a incoming s hhandle hs =>
    rcases mem_declarations.1 hmem with ⟨k, t, hget, hd⟩ | ⟨f, hf, hd⟩
    · rcases Session.declaration_origin hs hget hd with hold | ⟨now, outcomes, rfl, hsnap, hent⟩
      · exact .kept (mem_declarations.2 (.inl ⟨k, t, hold, hd⟩))
      · exact .taken hsnap hent
    · rcases Pipe.mem_frames_foldl.1 hf with hf | ⟨w, hw, rfl⟩
      · exact .kept (mem_declarations.2 (.inr ⟨f, hf, hd⟩))
      · cases Session.declares_of_sent hl.holder hs hw hd with
        | taken hget =>
          refine .kept (mem_declarations.2 (.inl ⟨_, _, hget, ?_⟩))
          rw [Task.declaration?, if_pos rfl]
        | again hget hne hentries => exact .again hget hne hentries
  | receiver hhandle hs =>
    refine .kept (mem_declarations.2 ((mem_declarations.1 hmem).imp_right ?_))
    rintro ⟨f, hf, hd⟩
    exact ⟨f, Pipe.mem_frames_of_handle hhandle hf, hd⟩
  | pumpOutgoing hpump =>
    refine .kept (mem_declarations.2 ((mem_declarations.1 hmem).imp_right ?_))
    rintro ⟨f, hf, hd⟩
    exact ⟨f, (Pipe.mem_frames_pump hpump).1 hf, hd⟩
  | pumpIncoming hpump => exact .kept hmem
  | reconnect hholder hreceiver =>
    -- nothing is on its way on a new connection
    rcases mem_declarations.1 hmem with ⟨k, t, hget, hd⟩ | ⟨f, hf, hd⟩
    · exact absurd hd (declaration_of_unused hholder hget)
    · exact absurd hf List.not_mem_nil

/-! ## Verdicts -/

theorem mem_responses {answered : List ResumeStatusEntry} :
    answered ∈ l.responses ↔ ∃ f ∈ l.incoming.frames, response? f = some answered :=
  List.mem_filterMap

/-- **Where verdicts on their way come from.** -/
inductive ResponseStep (l : Link) (answered : List ResumeStatusEntry) : Action → Prop
  | kept {a : Action} (hmem : answered ∈ l.responses) : ResponseStep l answered a
  | answers {frame : Frame} {now : ℕ} {outcomes : List Bool} {declared : List AckEntry}
      (hread : declaration? frame = some declared) (hmem : declared ∈ l.declarations)
      (hentries : answered = declared.map fun entry => ⟨entry.transactionId,
        Handling.verdictFor l.receiver.state.reassembler entry.transactionId⟩) :
      ResponseStep l answered (.receiver (.inbound l.conn frame now outcomes))

theorem response_step (hl : Framing l) (hstep : l.step a = some l')
    {answered : List ResumeStatusEntry} (hmem : answered ∈ l'.responses) :
    ResponseStep l answered a := by
  obtain ⟨f, hf, hread⟩ := mem_responses.1 hmem
  cases step_steps hstep with
  | holder hhandle hs =>
    exact .kept (mem_responses.2 ⟨f, Pipe.mem_frames_of_handle hhandle hf, hread⟩)
  | receiver hhandle hs =>
    rcases Pipe.mem_frames_foldl.1 hf with hf | ⟨w, hw, rfl⟩
    · exact .kept (mem_responses.2 ⟨f, hf, hread⟩)
    · cases Session.answers_of_sent hl.receiver hs hw hread with
      | mk hdecl hanswered =>
        have hway := (Pipe.of_handle hhandle).2
        exact .answers hdecl (mem_declarations.2 (.inr ⟨_, hway, hdecl⟩)) hanswered
  | pumpOutgoing hpump => exact .kept hmem
  | pumpIncoming hpump =>
    exact .kept (mem_responses.2 ⟨f, (Pipe.mem_frames_pump hpump).1 hf, hread⟩)
  | reconnect => exact absurd hf List.not_mem_nil

end Link

end Xacpp
