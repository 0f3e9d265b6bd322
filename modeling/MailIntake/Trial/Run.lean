import MailIntake.Server
import MailIntake.Trial.Scene
/-!
A server on trial: clients connect, send and leave by a script, and what each step brings is
reported.  Whether clients can reach the server at all is up to the network between them.
-/
namespace MailIntake.Trial

open Address Text

inductive TlsMaterial
  | none
  /-- One for itself. -/
  | own
  /-- One for itself and one to check those of clients against. -/
  | withClientCa
deriving DecidableEq, Repr

inductive ClientCertificate
  | none
  | trusted
  | stranger
deriving DecidableEq, Repr

/-- The network between clients and servers. -/
inductive Network
  /-- Whatever listens can be reached. -/
  | reachable
  /-- Every connection is refused. -/
  | unreachable
deriving DecidableEq, Repr

inductive ClientStep
  | connect
  | send (bytes : List UInt8)
  | handshake (certificate : ClientCertificate)
  /-- Sends nothing any more, and reads on. -/
  | halfClose
  | drop
  /-- Does nothing until the server loses patience. -/
  | idle
deriving DecidableEq, Repr

inductive Step
  | client (name : String) (step : ClientStep)
  | stats
  | metrics
  | http (method target : String)
  | shutdown (wait : Bool)
  | wait
  | listen
deriving DecidableEq, Repr

/-- What a step on a connection brings. -/
structure Heard where
  /-- What the server wrote. -/
  out : String
  /-- Karma, if the first stage has run. -/
  karma : Option Int
  closed : Bool
  /-- A handshake was completed. -/
  handshake : Bool := false
deriving DecidableEq, Repr

/-- What a step brings. -/
inductive Outcome
  | heard (heard : Heard)
  /-- The handshake failed, and with it the connection. -/
  | handshakeFailed
  /-- The connection has ended before. -/
  | gone
  | refused
  /-- There is no client of that name. -/
  | noClient (name : String)
  | stats (counters : Counters)
  | metrics (text : String)
  | http (response : HttpResponse)
  /-- A shutdown was asked for, and maybe waited for; this may have ended the listener. -/
  | shutdown (result : WaitOutcome) (listenerEnded shuttingDown : Bool)
  | waited (result : WaitOutcome) (shuttingDown : Bool)
  /-- Another listener was started, or not because the server is closed. -/
  | listening
  | serverClosed
deriving DecidableEq, Repr

structure Client where
  name : String
  /-- The place of its connection on the server, if it was admitted. -/
  place : Option Nat
  closed : Bool
deriving DecidableEq, Repr

/-- A trial under way. -/
structure State where
  server : Server Scene
  network : Network
  tls : TlsMaterial
  clients : List Client := []
  /-- How many connections have arrived. -/
  arrivals : Nat := 0

namespace State

def client? (s : State) (name : String) : Option Client :=
  s.clients.find? (·.name == name)

/-- Puts a client in the place of an earlier one of that name. -/
def putClient (s : State) (client : Client) : State :=
  { s with clients := client :: s.clients.filter (·.name != client.name) }

def session? (s : State) (place : Nat) : Option Session :=
  s.server.sessions[place]?

def eventsAt (s : State) (place : Nat) : Nat :=
  ((s.session? place).map fun session => session.journal.length).getD 0

/-- What a session wrote behind its first events. -/
def written (session : Session) (known : Nat) : String :=
  String.join
    (((session.journal.take (session.journal.length - known)).reverse.filterMap
      Event.reply?).map Reply.render)

def hear (s : State) (place known : Nat) (handshake : Bool) : Heard :=
  match s.session? place with
  | none => { out := "", karma := none, closed := true, handshake }
  | some session =>
      let tx := session.transaction
      { out := written session known
        karma := (s.server.world.numberOf tx.shared.id).map fun _ => tx.karma
        closed := session.isClosed
        handshake }

/-- Gives an input to a client's session, and reports what the client hears. -/
def give (s : State) (client : Client) (place : Nat) (input : Input) (handshake : Bool) :
    Heard × State :=
  let known := s.eventsAt place
  let s := { s with server := s.server.advance place input }
  let heard := s.hear place known handshake
  (heard, s.putClient { client with closed := heard.closed })

def loopback (port : UInt16) : Endpoint :=
  ⟨.v4 ⟨127, 0, 0, 1⟩, port⟩

def dropClient (s : State) (client : Client) : State :=
  match client.place, client.closed with
  | some place, false =>
      { s with server := s.server.advance place .ended }.putClient { client with closed := true }
  | _, _ => s.putClient { client with closed := true }

def canConnect (s : State) : Bool :=
  s.network = .reachable && !s.server.lifecycle.stopped

def arrive (s : State) (name : String) : Outcome × State :=
  let id : TransactionId := ⟨BitVec.ofNat 128 (s.arrivals + 1)⟩
  let place := s.server.sessions.length
  let (arrival, server) :=
    s.server.arrive id (loopback 25) (loopback (UInt16.ofNat (40000 + s.arrivals % 20000)))
  let s := { s with server, arrivals := s.arrivals + 1 }
  let out := ((Server.told arrival).map Reply.render).getD ""
  match arrival with
  | .admitted =>
      let heard := s.hear place 0 false
      (.heard heard, s.putClient ⟨name, some place, heard.closed⟩)
  | .busy =>
      let s := { s with server := s.server.endTurningAway true }
      (.heard { out, karma := none, closed := true }, s.putClient ⟨name, none, true⟩)
  | .ignored => (.heard { out, karma := none, closed := true }, s.putClient ⟨name, none, true⟩)

/-- Connects a client; an earlier connection of that name is dropped. -/
def connect (s : State) (name : String) : Outcome × State :=
  if ¬ s.canConnect then (.refused, s)
  else
    match s.client? name with
    | none => s.arrive name
    | some earlier => (s.dropClient earlier).arrive name

/-- How a handshake ends with a server of given certificates. -/
def settle (tls : TlsMaterial) (certificate : ClientCertificate) : Option Turn.Handshake :=
  let info : TlsInfo := { protocolVersion := "TLSv1_3", cipher := "TLS13_AES_256_GCM_SHA384" }
  match tls, certificate with
  | .none, _ => none
  | .own, _ => some { secured := false, info }
  | .withClientCa, .none => some { secured := false, info }
  | .withClientCa, .trusted => some { secured := true, info }
  | .withClientCa, .stranger => none

def awaitsHandshake (session : Session) : Bool :=
  match session.phase with
  | .opening | .handshake => true
  | .command _ | .response _ _ | .body _ | .closed => false

/-- A client with a connection begins a handshake.  Where none is expected it fails, and the client
leaves. -/
def handshake (s : State) (client : Client) (place : Nat) (session : Session)
    (certificate : ClientCertificate) : Outcome × State :=
  if ¬ awaitsHandshake session then (.handshakeFailed, s.dropClient client)
  else
    match settle s.tls certificate with
    | some h =>
        let (heard, s) := s.give client place (.handshake (some h)) true
        (.heard heard, s)
    | none =>
        let (_, s) := s.give client place (.handshake none) false
        (.handshakeFailed, s.dropClient client)

/-- A client sends bytes.  Bytes in the place of a handshake make it fail. -/
def send (s : State) (client : Client) (place : Nat) (session : Session) (bytes : List UInt8) :
    Outcome × State :=
  let input : Input :=
    if awaitsHandshake session ∧ bytes ≠ [] then .handshake none else .bytes bytes
  let (heard, s) := s.give client place input false
  (.heard heard, s)

def leave (s : State) (client : Client) (place : Nat) : Outcome × State :=
  let s := s.dropClient client
  let heard := s.hear place (s.eventsAt place) false
  (.heard { heard with closed := true }, s)

def clientStep (s : State) (client : Client) (place : Nat) (session : Session) :
    ClientStep → Outcome × State
  | .connect => s.connect client.name
  | .send bytes => s.send client place session bytes
  | .handshake certificate => s.handshake client place session certificate
  | .halfClose =>
      let (heard, s) := s.give client place .ended false
      (.heard heard, s)
  | .drop => s.leave client place
  | .idle =>
      let (heard, s) := s.give client place .expired false
      (.heard heard, s)

def namedStep (s : State) (name : String) (step : ClientStep) : Outcome × State :=
  if step = .connect then s.connect name
  else
    match s.client? name with
    | none => (.noClient name, s)
    | some client =>
        match client.closed, client.place with
        | false, some place =>
            match s.session? place with
            | some session => s.clientStep client place session step
            | none => (.gone, s)
        | _, _ => (.gone, s)

def shutdown (s : State) (wait : Bool) : Outcome × State :=
  let (first, server) := s.server.shutdown
  let result := if wait then server.lifecycle.wait else .done
  (.shutdown result first server.lifecycle.shuttingDown, { s with server })

/-- What a step does; nothing if it needs a connection that the network does not give. -/
def step? (s : State) : Step → Option (Outcome × State)
  | .client name step => some (s.namedStep name step)
  | .stats => some (.stats s.server.counters, s)
  | .metrics => some (.metrics s.server.counters.render, s)
  | .http method target =>
      match s.network with
      | .reachable => some (.http (s.server.counters.answer method target), s)
      | .unreachable => none
  | .shutdown wait => some (s.shutdown wait)
  | .wait => some (.waited s.server.lifecycle.wait s.server.lifecycle.shuttingDown, s)
  | .listen =>
      some (if s.server.lifecycle.shuttingDown then .serverClosed else .listening, s)

def steps? (s : State) : List Step → Option (List Outcome × State)
  | [] => some ([], s)
  | step :: more => do
      let (outcome, s) ← s.step? step
      let (outcomes, s) ← s.steps? more
      return (outcome :: outcomes, s)

/-- All clients leave in the order of their names, and the server is shut down. -/
def finish (s : State) : State :=
  let clients := s.clients.mergeSort fun a b => decide (a.name ≤ b.name)
  (clients.foldl dropClient s).shutdown true |>.2

/-- What is left of the connections whose first stage has run, in this order. -/
def observed (s : State) : List Shared :=
  s.server.world.connections.filterMap fun arrived =>
    (s.server.sessions.find? (·.transaction.shared.id == arrived.id)).map (·.transaction.shared)

end State

/-- A trial: a server, the network it is on, and a script. -/
structure Plan where
  settings : Settings := {}
  tls : TlsMaterial := .none
  resolver : Resolver := .unavailable
  policy : Policy := {}
  authority : Authority := .none
  spool : Option Spool := none
  now : Moment := ⟨0⟩
  /-- The name of the machine. -/
  machine : String
  network : Network := .reachable
  steps : List Step := []

inductive Result
  /-- The server could not be set up. -/
  | setup (error : SetupError)
  /-- The script could not be carried out to its end. -/
  | unreachable
  | report (outcomes : List Outcome) (final : State)

def Plan.setup (plan : Plan) : Setup Scene where
  settings := plan.settings
  pipelines := plan.policy.pipelines plan.resolver
  authenticator := plan.authority.authenticator? plan.resolver
  offersTls := plan.tls ≠ .none
  resolver := plan.resolver

def Plan.run (plan : Plan) : Result :=
  match plan.setup.build plan.machine with
  | .error e => .setup e
  | .ok service =>
      let scene : Scene := { office := { now := plan.now, spool := plan.spool } }
      let state : State :=
        { server := .start service scene, network := plan.network, tls := plan.tls }
      match state.steps? plan.steps with
      | none => .unreachable
      | some (outcomes, state) => .report outcomes state.finish

end MailIntake.Trial
