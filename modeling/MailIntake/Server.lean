import MailIntake.Gate
import MailIntake.Lifecycle
import MailIntake.Metrics
import MailIntake.Session.Run
/-!
A server: one service, any number of connections, and what they share.  Connections are known by
their places in the order of admission.  A connection that finds no room is told so and not served;
one that comes after a shutdown began is neither told nor served.
-/
namespace MailIntake

open Address Text

universe u

structure Server (W : Type u) where
  service : Service W
  lifecycle : Lifecycle := {}
  gate : Option Gate := none
  counters : Counters := {}
  /-- The connections that were admitted, in this order, those that have ended among them. -/
  sessions : List Session := []
  /-- How many connections are being turned away. -/
  turningAway : Nat := 0
  world : W

/-- What became of a connection that arrived. -/
inductive Arrival
  | admitted
  | busy
  | ignored
deriving DecidableEq, Repr

/-- Something that happens to a server. -/
inductive ServerInput
  /-- A connection arrives, which gets the given identifier if it is admitted. -/
  | arrival (id : TransactionId) (localAddr remoteAddr : Endpoint)
  /-- The reply to a connection that is turned away has been written, or could not be. -/
  | turnedAway (delivered : Bool)
  /-- Something happens to the connection at a place. -/
  | session (place : Nat) (input : Input)
  /-- A shutdown is asked for. -/
  | shutdown
deriving DecidableEq, Repr

namespace Server

variable {W : Type u}

def start (service : Service W) (world : W) : Server W :=
  { service, world, gate := service.settings.connectionLimit.map Gate.ofLimit }

/-- The reply to a connection that finds no room. -/
def busyReply : Reply := ⟨421, "Too busy. Try again later."⟩

/-- What a connection is told that arrives and is not served. -/
def told : Arrival → Option Reply
  | .busy => some busyReply
  | .admitted | .ignored => none

/-- Adds what a connection has counted since `before` to the counts of the server. -/
def count (s : Server W) (before after : Tally) : Server W :=
  { s with counters := { s.counters with
      bytesRead := s.counters.bytesRead + (after.bytesRead - before.bytesRead)
      bytesWritten := s.counters.bytesWritten + (after.bytesWritten - before.bytesWritten)
      messages := s.counters.messages + (after.messages - before.messages) } }

/-- Gives back what a connection held. -/
def release (s : Server W) : Server W :=
  { s with
    gate := s.gate.map Gate.leave
    lifecycle := s.lifecycle.endActivity
    counters := { s.counters with active := s.counters.active - 1 } }

/-- Gives back what a connection held if it has just ended. -/
def settle (s : Server W) (session : Session) : Server W :=
  if session.isClosed then s.release else s

/-- Serves a connection that has passed the gate. -/
def serve (s : Server W) (id : TransactionId) (localAddr remoteAddr : Endpoint) : Server W :=
  let tx := Transaction.start id s.service.hostname localAddr remoteAddr
  let t := Turn.start s.service tx s.world
  let s := { s with
    sessions := s.sessions ++ [t.toSession]
    world := t.world
    counters := { s.counters with
      transactions := s.counters.transactions + 1
      active := s.counters.active + 1 } }
  (s.count {} t.tally).settle t.toSession

/-- A connection finds no room. -/
def turnAway (s : Server W) : Server W :=
  { s with
    turningAway := s.turningAway + 1
    counters := { s.counters with busy := s.counters.busy + 1 } }

/-- The room of a server with one more connection, if there is room. -/
def room? (s : Server W) : Option (Server W) :=
  match s.gate with
  | none => some s
  | some gate => gate.enter?.map fun gate => { s with gate := some gate }

def arrive (s : Server W) (id : TransactionId) (localAddr remoteAddr : Endpoint) :
    Arrival × Server W :=
  match s.lifecycle.beginActivity? with
  | none => (.ignored, s)
  | some lifecycle =>
      let s := { s with lifecycle }
      match s.room? with
      | none => (.busy, s.turnAway)
      | some s => (.admitted, s.serve id localAddr remoteAddr)

/-- The reply to a connection that is turned away has been written, or could not be. -/
def endTurningAway (s : Server W) (delivered : Bool) : Server W :=
  if s.turningAway = 0 then s
  else
    let written := if delivered then (Utf8.encode busyReply.render).length else 0
    { s with
      turningAway := s.turningAway - 1
      lifecycle := s.lifecycle.endActivity
      counters := { s.counters with bytesWritten := s.counters.bytesWritten + written } }

/-- Something happens to the connection at a place. -/
def advance (s : Server W) (place : Nat) (input : Input) : Server W :=
  match s.sessions[place]? with
  | none => s
  | some session =>
      if session.isClosed then s
      else
        let t : Turn W := { session with world := s.world }
        let t := t.step s.service input
        let s := { s with sessions := s.sessions.set place t.toSession, world := t.world }
        (s.count session.tally t.tally).settle t.toSession

/-- A shutdown is asked for; true for the call that begins it. -/
def shutdown (s : Server W) : Bool × Server W :=
  let (first, lifecycle) := s.lifecycle.initiateShutdown
  (first, { s with lifecycle })

def step (s : Server W) : ServerInput → Server W
  | .arrival id localAddr remoteAddr => (s.arrive id localAddr remoteAddr).2
  | .turnedAway delivered => s.endTurningAway delivered
  | .session place input => s.advance place input
  | .shutdown => s.shutdown.2

def run (s : Server W) (inputs : List ServerInput) : Server W :=
  inputs.foldl step s

end Server
end MailIntake
