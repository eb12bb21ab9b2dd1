import Mathlib.Data.Finset.Basic
import Xacpp.Common.Run
import Xacpp.Common.Table
/-!
# The peer

`XacppPeer` over a transport that can be connected again once its
connection is gone. Each call runs to its return; what the transport, the
application's handlers and the other end answer is part of the action. A
request of the other end runs as a task of its own, so that calls and losses
may come between its arrival and its answer.

Connections are numbered. A connection that is lost stays attached until a
`connect` replaces it or a `disconnect` takes it away; `exchanged` is
history: the connections on which a negotiate exchange has completed.
-/

namespace Xacpp

namespace Peer

inductive XacppError
  | notConnected
  | alreadyConnected
  | closed
  | invalidRequest (message : String)
  | establishReject (reason : String)
  | invalidState (message : String)
  | internal (message : String)
  | application (code message : String)
deriving DecidableEq

/-- A JSON schema, of which only the name is read. -/
structure Schema where
  name : Option String
deriving DecidableEq

/-- Capabilities declared by one side during Negotiate. -/
structure Capabilities where
  commands : List Schema := []
  produceEvents : List Schema := []
  acceptEvents : List Schema := []
  fetchExt : Option UInt32 := none
deriving DecidableEq

/-- The only fetch extension version defined so far. -/
def fetchExtVersion : UInt32 := 1

/-- What a negotiation settles, as the application sees it. -/
structure EffectiveCapabilities where
  remoteCommands : List Schema
  emitEvents : List String
  remoteFetchExt : Option UInt32
  fetchEnabled : Bool
deriving DecidableEq

def extractNames (schemas : List Schema) : List String := schemas.filterMap Schema.name

def EffectiveCapabilities.fromCapabilities (localCaps remote : Capabilities) :
    EffectiveCapabilities where
  remoteCommands := remote.commands
  emitEvents := (extractNames localCaps.produceEvents).filter fun name =>
    (extractNames remote.acceptEvents).contains name
  remoteFetchExt := remote.fetchExt
  fetchEnabled := decide (localCaps.fetchExt = some fetchExtVersion) &&
    decide (remote.fetchExt = some fetchExtVersion)

inductive PeerState
  | disconnected
  | connected
  | negotiated
deriving DecidableEq

/-- The name a message shows. -/
def PeerState.debug : PeerState → String
  | .disconnected => "Disconnected"
  | .connected => "Connected"
  | .negotiated => "Negotiated"

/-- What the lock of the peer guards. -/
structure PeerInner where
  state : PeerState := .disconnected
  remoteCapabilities : Capabilities := {}
  emitEvents : List String := []
  fetchEnabled : Bool := false
deriving DecidableEq

/-- The initiator-side logical session, as far as the peer writes it. -/
structure Session where
  sessionId : String := ""
  credentials : String := ""
  emitEvents : List String := []
  fetchEnabled : Bool := false
  wired : Bool := false
deriving DecidableEq

/-- The transport under the peer. -/
structure Transport where
  attached : Option ℕ := none
  live : Bool := false
  connections : ℕ := 0
deriving DecidableEq

inductive Response
  | negotiated (capabilities : Capabilities)
  | established (sessionId credentials : String)
  | establishPrepare (challenge : String)
  | establishReject (reason : String)
  | error (code message : String)
  /-- A response the peer's own calls do not expect. -/
  | other (shown : String)
deriving DecidableEq

/-- A request of the other end. -/
inductive Request
  | negotiate (capabilities : Capabilities)
  | establish (credentials : Option String)
  | establishConfirm
  /-- Any other request without a session. -/
  | stray
  | command (sessionId : String) (fetchFamily : Bool)
  | event (sessionId : String)
deriving DecidableEq

/-- What the application's handler says to a request. -/
inductive Decision
  | fails (e : XacppError)
  /-- `on_negotiate`. -/
  | agrees
  /-- `on_establish`. -/
  | challengeRequired (challenge : String)
  /-- `on_establish` and `on_establish_confirm`. -/
  | establishes (sessionId credentials : String) (fetchResponder : Bool)
  /-- A session handler. -/
  | responds (response : Response)
deriving DecidableEq

/-- A request that is being handled, and the connection it came on. -/
structure Inflight where
  conn : ℕ
  request : Request
deriving DecidableEq

structure XacppPeer where
  localCapabilities : Capabilities
  session : Option Session
  inner : PeerInner
  /-- Shared with the request closure. -/
  emitEvents : List String
  /-- Shared with the request closure: the inbound fetch gate. -/
  fetchEnabled : Bool
  /-- Session handlers; the flag says whether one is a fetch responder. -/
  sessions : Table String Bool
  transport : Transport
  inflight : Table ℕ Inflight
  exchanged : Finset ℕ

namespace XacppPeer

def new (capabilities : Capabilities) (session : Option Session) : XacppPeer where
  localCapabilities := capabilities
  session := session
  inner := {}
  emitEvents := []
  fetchEnabled := false
  sessions := ∅
  transport := {}
  inflight := ∅
  exchanged := ∅

variable (p : XacppPeer)

/-- `transport.send`: nothing is answered on a connection that is gone. -/
def send (answer : Except XacppError Response) : Except XacppError Response :=
  if p.transport.live then answer else .error .notConnected

/-- A negotiate exchange has completed on the attached connection. -/
def exchange : Finset ℕ :=
  match p.transport.attached with
  | none => p.exchanged
  | some n => insert n p.exchanged

/-- `negotiate`. -/
def negotiate (answer : Except XacppError Response) (onNegotiate : Except XacppError Unit) :
    Except XacppError Unit × XacppPeer :=
  if p.inner.state ≠ .connected then
    (.error (.internal ("negotiate requires Connected state, current: " ++ p.inner.state.debug)), p)
  else
    match p.send answer with
    | .error e => (.error e, p)
    | .ok (.negotiated capabilities) =>
      let effective := EffectiveCapabilities.fromCapabilities p.localCapabilities capabilities
      match onNegotiate with
      | .error e => (.error e, p)
      | .ok () =>
        (.ok (), { p with
          inner := {
            state := .negotiated
            remoteCapabilities := capabilities
            emitEvents := effective.emitEvents
            fetchEnabled := effective.fetchEnabled }
          fetchEnabled := effective.fetchEnabled
          exchanged := p.exchange })
    | .ok (.error code message) => (.error (.application code message), p)
    | .ok _ => (.error (.internal "unexpected response to negotiate"), p)

/-- The transport's own `connect`. -/
def openConnection : XacppPeer :=
  { p with transport := ⟨some p.transport.connections, true, p.transport.connections + 1⟩ }

def setWired (wired : Bool) : XacppPeer :=
  { p with session := p.session.map fun session => { session with wired := wired } }

/-- `connect`: register the request closure, connect the transport, wire the
session. Only a peer that was disconnected changes its state. -/
def connect (register opens wire : Except XacppError Unit) : Except XacppError Unit × XacppPeer :=
  if p.transport.live then (.error .alreadyConnected, p)
  else
    match register with
    | .error e => (.error e, p)
    | .ok () =>
      match opens with
      | .error e => (.error e, p)
      | .ok () =>
        let p := p.openConnection
        match (if p.session.isSome then wire else .ok ()) with
        | .error e => (.error e, p.setWired false)
        | .ok () =>
          let p := p.setWired true
          if p.inner.state = .disconnected then
            (.ok (), { p with inner := { p.inner with state := .connected } })
          else (.ok (), p)

/-- An establish success: the handler is registered, and the session the
answer names gets its identity and the negotiated facts. A session of
another identity is detached; the fresh one is the caller's. -/
def bindSession (sessionId credentials : String) (fetchResponder : Bool)
    (attach : Except XacppError Unit) : Except XacppError Unit × XacppPeer :=
  let p := { p with sessions := p.sessions.insert sessionId fetchResponder }
  match p.session with
  | none => (attach, p)
  | some held =>
    if held.sessionId = "" ∨ held.sessionId = sessionId then
      match (if held.wired then .ok () else attach) with
      | .error e => (.error e, p)
      | .ok () =>
        let session : Session :=
          { sessionId := sessionId
            credentials := credentials
            emitEvents := p.inner.emitEvents
            fetchEnabled := p.inner.fetchEnabled
            wired := true }
        (.ok (), { p with session := some session })
    else (attach, p.setWired false)

/-- The answer that ends the handshake. -/
def establishAnswer (fetchResponder : Bool) (attach : Except XacppError Unit) (call : String) :
    Response → Except XacppError Unit × XacppPeer
  | .established sessionId credentials =>
    p.bindSession sessionId credentials fetchResponder attach
  | .establishReject reason => (.error (.establishReject reason), p)
  | .error code message => (.error (.application code message), p)
  | _ => (.error (.internal ("unexpected response to " ++ call)), p)

/-- `establish`, with the answers to its two requests and the verdict on a
challenge. -/
def establish (fetchResponder : Bool) (first second : Except XacppError Response)
    (verify attach : Except XacppError Unit) : Except XacppError Unit × XacppPeer :=
  if p.session.isNone then
    (.error (.internal
      "establish requires an initiator-side session (pass Some at XacppPeer::new)"), p)
  else if p.inner.state ≠ .negotiated then
    (.error (.internal
      ("establish requires Negotiated state, current: " ++ p.inner.state.debug)), p)
  else
    match p.send first with
    | .error e => (.error e, p)
    | .ok (.establishPrepare _) =>
      match verify with
      | .error e => (.error e, p)
      | .ok () =>
        match p.send second with
        | .error e => (.error e, p)
        | .ok response => p.establishAnswer fetchResponder attach "establish_confirm" response
    | .ok response => p.establishAnswer fetchResponder attach "establish" response

/-- `disconnect`: unwire, disconnect the transport, which aborts the
handlers under way, and forget what was negotiated. -/
def disconnect (result : Except XacppError Unit) : Except XacppError Unit × XacppPeer :=
  let p := p.setWired false
  match result with
  | .error e => (.error e, p)
  | .ok () =>
    (.ok (), { p with
      transport := { p.transport with attached := none, live := false }
      inflight := ∅
      fetchEnabled := false
      session := p.session.map fun session => { session with fetchEnabled := false }
      inner := {}
      sessions := ∅ })

/-! ## Requests of the other end -/

/-- Whether the gate turns a command away. -/
def fetchUnavailable (fetchFamily fetchResponder : Bool) : Bool :=
  fetchFamily && (!p.fetchEnabled || !fetchResponder)

/-- What the gate answers. -/
def gateAnswer : Response := .error "fetch_unavailable"
  "fetch unavailable on this end (not enabled by negotiation, or no fetch responder loaded)"

/-- A request routed to the handler of its session. -/
def route (sessionId : String) (fetchFamily : Bool) (handled : Except XacppError Response) :
    Except XacppError Response :=
  match p.sessions.get? sessionId with
  | none => .error (.internal ("unknown session: " ++ sessionId))
  | some fetchResponder =>
    if p.fetchUnavailable fetchFamily fetchResponder then .ok gateAnswer else handled

/-- The request closure, from the handler's decision on. -/
def answer (conn : ℕ) : Request → Decision → Option (Except XacppError Response × XacppPeer)
  | .stray, _ => some (.error (.invalidRequest "missing session_id"), p)
  | .command sessionId fetchFamily, .fails e => some (p.route sessionId fetchFamily (.error e), p)
  | .command sessionId fetchFamily, .responds response =>
    some (p.route sessionId fetchFamily (.ok response), p)
  | .event sessionId, .fails e => some (p.route sessionId false (.error e), p)
  | .event sessionId, .responds response => some (p.route sessionId false (.ok response), p)
  | _, .fails e => some (.error e, p)
  | .negotiate capabilities, .agrees =>
    let effective := EffectiveCapabilities.fromCapabilities p.localCapabilities capabilities
    some (.ok (.negotiated p.localCapabilities), { p with
      emitEvents := effective.emitEvents
      fetchEnabled := effective.fetchEnabled
      exchanged := insert conn p.exchanged })
  | .establish _, .challengeRequired challenge => some (.ok (.establishPrepare challenge), p)
  | .establish _, .establishes sessionId credentials fetchResponder
  | .establishConfirm, .establishes sessionId credentials fetchResponder =>
    some (.ok (.established sessionId credentials),
      { p with sessions := p.sessions.insert sessionId fetchResponder })
  | _, _ => none

/-- Task `k` has ended. -/
def dropTask (k : ℕ) : XacppPeer := { p with inflight := p.inflight.erase k }

/-! ## The transition system -/

inductive Action
  | connect (register opens wire : Except XacppError Unit)
  | negotiate (answer : Except XacppError Response) (onNegotiate : Except XacppError Unit)
  | establish (fetchResponder : Bool) (first second : Except XacppError Response)
      (verify attach : Except XacppError Unit)
  | disconnect (result : Except XacppError Unit)
  /-- A request arrives on the attached connection and is handled as task
  `k`. -/
  | request (k : ℕ) (request : Request)
  /-- Task `k` answers. -/
  | answer (k : ℕ) (decision : Decision)
  /-- The connection is lost. -/
  | lose

def step (p : XacppPeer) : Action → Option XacppPeer
  | .connect register opens wire => some (p.connect register opens wire).2
  | .negotiate answer onNegotiate => some (p.negotiate answer onNegotiate).2
  | .establish fetchResponder first second verify attach =>
    some (p.establish fetchResponder first second verify attach).2
  | .disconnect result => some (p.disconnect result).2
  | .request k request =>
    match p.transport.attached with
    | none => none
    | some conn =>
      if p.transport.live ∧ p.inflight.contains k = false then
        some { p with inflight := p.inflight.insert k ⟨conn, request⟩ }
      else none
  | .answer k decision => (p.inflight.get? k).bind fun task =>
    (p.answer task.conn task.request decision).map fun r => r.2.dropTask k
  | .lose => some { p with transport := { p.transport with live := false } }

end XacppPeer

end Peer

end Xacpp
