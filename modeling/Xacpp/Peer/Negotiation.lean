import Xacpp.Peer.Model
/-!
# Negotiated facts and the connection they belong to

What a negotiation settles is kept in the peer and forgotten by
`disconnect` alone, while a connection may also be lost, and `connect` then
puts another in its place. `Forgotten` asks that nothing negotiated is left
when that happens, and no negotiate request is under way; then every fact
the peer goes by was settled on the connection that is attached
(`negotiated_on_attached`).
-/

namespace Xacpp

namespace Peer

def Request.isNegotiate : Request → Bool
  | .negotiate _ => true
  | _ => false

namespace XacppPeer

variable {p p' : XacppPeer} {a : Action}

/-- A connection is put in the place of one that is gone only once nothing
negotiated on that one is left. -/
def Forgotten (p : XacppPeer) : Action → Prop
  | .connect .. => p.transport.live = false → p.inner.state ≠ .negotiated ∧
      p.fetchEnabled = false ∧ ∀ task ∈ p.inflight.values, task.request.isNegotiate = false
  | _ => True

instance (p : XacppPeer) (a : Action) : Decidable (Forgotten p a) := by
  unfold Forgotten
  split <;> infer_instance

/-- The peer goes by facts settled on the attached connection, and so will
the negotiations under way. -/
structure Sound (p : XacppPeer) : Prop where
  live : p.transport.live = true → ∃ n, p.transport.attached = some n
  tasks : ∀ k task, p.inflight.get? k = some task → task.request.isNegotiate = true →
    p.transport.attached = some task.conn
  facts : p.inner.state = .negotiated ∨ p.fetchEnabled = true →
    ∃ n, p.transport.attached = some n ∧ n ∈ p.exchanged

theorem sound_new (capabilities : Capabilities) (session : Option Session) :
    Sound (new capabilities session) where
  live h := by cases h
  tasks k task h := by
    rw [new, Table.get?_empty] at h
    cases h
  facts h := by rcases h with h | h <;> cases h

/-- Sessions and their handlers apart, nothing has changed. -/
structure SameFacts (p p' : XacppPeer) : Prop where
  transport : p'.transport = p.transport
  inner : p'.inner = p.inner
  fetchEnabled : p'.fetchEnabled = p.fetchEnabled
  inflight : p'.inflight = p.inflight
  exchanged : p'.exchanged = p.exchanged

theorem SameFacts.refl (p : XacppPeer) : SameFacts p p := ⟨rfl, rfl, rfl, rfl, rfl⟩

theorem Sound.of_same (h : Sound p) (hsame : SameFacts p p') : Sound p' := by
  obtain ⟨htransport, hinner, hfetch, hinflight, hexchanged⟩ := hsame
  refine ⟨?_, ?_, ?_⟩
  · rw [htransport]
    exact h.live
  · rw [htransport, hinflight]
    exact h.tasks
  · rw [htransport, hinner, hfetch, hexchanged]
    exact h.facts

theorem sameFacts_bindSession (p : XacppPeer) (sessionId credentials : String)
    (fetchResponder : Bool) (attach : Except XacppError Unit) :
    SameFacts p (p.bindSession sessionId credentials fetchResponder attach).2 := by
  simp only [bindSession]
  split
  · exact ⟨rfl, rfl, rfl, rfl, rfl⟩
  · split
    · split <;> exact ⟨rfl, rfl, rfl, rfl, rfl⟩
    · exact ⟨rfl, rfl, rfl, rfl, rfl⟩

theorem sameFacts_establishAnswer (p : XacppPeer) (fetchResponder : Bool)
    (attach : Except XacppError Unit) (call : String) (response : Response) :
    SameFacts p (p.establishAnswer fetchResponder attach call response).2 := by
  unfold establishAnswer
  split
  · exact p.sameFacts_bindSession _ _ _ _
  all_goals exact .refl p

/-- An establish changes no negotiated fact. -/
theorem sameFacts_establish (p : XacppPeer) (fetchResponder : Bool)
    (first second : Except XacppError Response) (verify attach : Except XacppError Unit) :
    SameFacts p (p.establish fetchResponder first second verify attach).2 := by
  unfold establish
  split
  · exact .refl p
  · split
    · exact .refl p
    · split
      · exact .refl p
      · split
        · exact .refl p
        · split
          · exact .refl p
          · exact p.sameFacts_establishAnswer _ _ _ _
      · exact p.sameFacts_establishAnswer _ _ _ _

/-! ## The steps -/

/-- A negotiation that succeeds does so on the attached connection. -/
theorem Sound.negotiate (h : Sound p) (answer : Except XacppError Response)
    (onNegotiate : Except XacppError Unit) : Sound (p.negotiate answer onNegotiate).2 := by
  unfold XacppPeer.negotiate
  split
  · exact h
  · split
    · exact h
    · next capabilities hsend =>
      cases onNegotiate with
      | error e => exact h
      | ok u =>
        refine ⟨h.live, h.tasks, fun _ => ?_⟩
        -- there was an answer, so the connection is live
        have hlive : p.transport.live = true := by
          by_contra hdead
          rw [send, if_neg hdead] at hsend
          cases hsend
        obtain ⟨n, hn⟩ := h.live hlive
        refine ⟨n, hn, ?_⟩
        show n ∈ p.exchange
        rw [exchange, hn]
        exact Finset.mem_insert_self n _
    · exact h
    · exact h

theorem Sound.connect (h : Sound p) {register opens wire : Except XacppError Unit}
    (hforgotten : Forgotten p (.connect register opens wire)) :
    Sound (p.connect register opens wire).2 := by
  -- nothing that was negotiated, or is being, is left for the new connection
  have hopen : p.transport.live = false → ∀ p', SameFacts p.openConnection p' → Sound p' := by
    intro hdead p' hsame
    obtain ⟨hstate, hgate, htasks⟩ := hforgotten hdead
    refine Sound.of_same ⟨fun _ => ⟨_, rfl⟩, fun k task hget hneg => ?_, fun hfacts => ?_⟩ hsame
    · have hmem : task ∈ p.inflight.values :=
        Table.mem_values.2 ⟨k, hget⟩
      rw [htasks task hmem] at hneg
      cases hneg
    · rcases hfacts with hnegotiated | hopen
      · exact absurd hnegotiated hstate
      · change p.fetchEnabled = true at hopen
        rw [hgate] at hopen
        cases hopen
  unfold XacppPeer.connect
  split
  · exact h
  · next hlive =>
    have hdead := Bool.eq_false_iff.2 hlive
    cases register with
    | error e => exact h
    | ok u =>
      cases opens with
      | error e => exact h
      | ok u =>
        dsimp only
        split
        · exact hopen hdead _ ⟨rfl, rfl, rfl, rfl, rfl⟩
        · have hwired := hopen hdead (p.openConnection.setWired true) ⟨rfl, rfl, rfl, rfl, rfl⟩
          split
          · refine ⟨hwired.live, hwired.tasks, fun hfacts => hwired.facts (.inr ?_)⟩
            exact hfacts.resolve_left fun hstate => by cases hstate
          · exact hwired

theorem Sound.disconnect (h : Sound p) (result : Except XacppError Unit) :
    Sound (p.disconnect result).2 := by
  cases result with
  | error e => exact h.of_same ⟨rfl, rfl, rfl, rfl, rfl⟩
  | ok u =>
    refine ⟨fun hlive => (by cases hlive), fun k task hget => ?_, fun hfacts => ?_⟩
    · change (∅ : Table ℕ Inflight).get? k = some task at hget
      rw [Table.get?_empty] at hget
      cases hget
    · rcases hfacts with hstate | hgate
      · cases hstate
      · cases hgate

theorem Sound.dropTask (h : Sound p) (k : ℕ) : Sound (p.dropTask k) := by
  refine ⟨h.live, fun k' task hget => h.tasks k' task ?_, h.facts⟩
  change (p.inflight.erase k).get? k' = some task at hget
  exact (Table.of_get?_erase hget).2

/-- A request is answered with what its connection settles. -/
theorem Sound.answer (h : Sound p) {k : ℕ} {task : Inflight} {decision : Decision}
    {r : Except XacppError Response × XacppPeer} (hget : p.inflight.get? k = some task)
    (hanswer : p.answer task.conn task.request decision = some r) : Sound r.2 := by
  cases hrequest : task.request with
  | negotiate capabilities =>
    rw [hrequest] at hanswer
    cases decision with
    | agrees =>
      cases hanswer
      have hconn := h.tasks k task hget (by rw [hrequest]; rfl)
      exact ⟨h.live, h.tasks, fun _ => ⟨task.conn, hconn, Finset.mem_insert_self _ _⟩⟩
    | fails e =>
      cases hanswer
      exact h
    | _ => cases hanswer
  | _ =>
    rw [hrequest] at hanswer
    cases decision <;>
      first
        | exact h.of_same (Option.some.inj hanswer ▸ ⟨rfl, rfl, rfl, rfl, rfl⟩)
        | cases hanswer

theorem Sound.step (h : Sound p) (hforgotten : Forgotten p a) (hstep : p.step a = some p') :
    Sound p' := by
  cases a with
  | connect register opens wire =>
    cases hstep
    exact h.connect hforgotten
  | negotiate answer onNegotiate =>
    cases hstep
    exact h.negotiate answer onNegotiate
  | establish fetchResponder first second verify attach =>
    cases hstep
    exact h.of_same (p.sameFacts_establish fetchResponder first second verify attach)
  | disconnect result =>
    cases hstep
    exact h.disconnect result
  | request k request =>
    simp only [XacppPeer.step] at hstep
    split at hstep
    · cases hstep
    · next conn hconn =>
      split at hstep
      · cases hstep
        refine ⟨h.live, fun k' task hget hneg => ?_, h.facts⟩
        change (p.inflight.insert k ⟨conn, request⟩).get? k' = some task at hget
        rw [Table.get?_insert] at hget
        split at hget
        · cases hget
          exact hconn
        · exact h.tasks k' task hget hneg
      · cases hstep
  | answer k decision =>
    obtain ⟨task, hget, hanswer⟩ := Option.bind_eq_some_iff.1 hstep
    obtain ⟨r, hr, rfl⟩ := Option.map_eq_some_iff.1 hanswer
    exact (h.answer hget hr).dropTask k
  | lose =>
    cases hstep
    exact ⟨fun hlive => (by cases hlive), h.tasks, h.facts⟩

/-- **What the peer goes by was negotiated on the attached connection**, in
every run in which a lost connection is replaced only once nothing
negotiated is left. -/
theorem negotiated_on_attached {capabilities : Capabilities} {session : Option Session}
    {acts : List Action}
    (hmeets : RunMeets XacppPeer.step Forgotten (new capabilities session) acts)
    (hrun : run XacppPeer.step (new capabilities session) acts = some p)
    (hfacts : p.inner.state = .negotiated ∨ p.fetchEnabled = true) :
    ∃ n, p.transport.attached = some n ∧ n ∈ p.exchanged :=
  (run_induct_of (I := Sound) (fun _ _ _ h hforgotten hstep => h.step hforgotten hstep)
    (sound_new capabilities session) hmeets hrun).facts hfacts

namespace Sample

/-- Both ends declare the fetch extension. -/
def fetching : Capabilities := { fetchExt := some fetchExtVersion }

def connects : Action := .connect (.ok ()) (.ok ()) (.ok ())

def negotiates : Action := .negotiate (.ok (.negotiated fetching)) (.ok ())

end Sample

theorem negotiated_on_attached_sample :
    ∃ p n, run XacppPeer.step (new Sample.fetching (some {})) [Sample.connects, Sample.negotiates,
        .lose, .disconnect (.ok ()), Sample.connects, Sample.negotiates] = some p ∧
      p.inner.state = .negotiated ∧ p.transport.attached = some n ∧ n ∈ p.exchanged := by
  have hmeets : RunMeets XacppPeer.step Forgotten (new Sample.fetching (some {}))
      [Sample.connects, Sample.negotiates, .lose, .disconnect (.ok ()), Sample.connects,
        Sample.negotiates] := by decide
  obtain ⟨p, hrun, hstate⟩ : ∃ p, run XacppPeer.step (new Sample.fetching (some {}))
        [Sample.connects, Sample.negotiates, .lose, .disconnect (.ok ()), Sample.connects,
          Sample.negotiates] = some p ∧
      p.inner.state = .negotiated := by decide
  obtain ⟨n, hattached, hexchanged⟩ := negotiated_on_attached hmeets hrun (.inl hstate)
  exact ⟨_, n, hrun, hstate, hattached, hexchanged⟩

/-- A connection replaces a lost one, and the peer is still negotiated with
its gate open: a command of the fetch family passes, and `establish` asks
for nothing more. -/
theorem negotiated_after_loss :
    ∃ p, run XacppPeer.step (new Sample.fetching (some {})) [Sample.connects, Sample.negotiates,
        .lose, Sample.connects] = some p ∧
      p.inner.state = .negotiated ∧ p.fetchEnabled = true ∧ p.transport = ⟨some 1, true, 2⟩ ∧
      1 ∉ p.exchanged := by
  decide

end XacppPeer

end Peer

end Xacpp
