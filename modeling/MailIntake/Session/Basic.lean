import MailIntake.Command
import MailIntake.Dots
import MailIntake.Karma
import MailIntake.LineReader
import MailIntake.Reply
import MailIntake.Service
/-!
The state of one connection: its transaction, what is read next, what has been counted, and a
journal of everything that happened.  The functions here are the steps that all commands are made
of: replying, moving karma, running a stage and ending the connection.
-/
namespace MailIntake

open Text

universe u

/-- What an AUTH exchange waits for. -/
inductive AuthStep
  /-- The one response of PLAIN. -/
  | credentials
  /-- The user name of LOGIN. -/
  | username
  /-- The password of LOGIN for a user name. -/
  | password (username : String)
deriving DecidableEq, Repr

/-- What a connection reads next. -/
inductive Phase
  /-- The handshake with which an encrypted connection opens. -/
  | opening
  /-- A command line. -/
  | command (reader : LineReader)
  /-- A response in an AUTH exchange. -/
  | response (step : AuthStep) (reader : LineReader)
  /-- The body of a message. -/
  | body (decoder : DotDecoder)
  /-- The handshake that STARTTLS asked for. -/
  | handshake
  /-- Nothing; the connection has ended. -/
  | closed
deriving DecidableEq, Repr

/-- What can happen on a connection that later questions ask about. -/
inductive Event
  /-- A command line was taken up. -/
  | command (line : CommandLine)
  /-- A command line was too long. -/
  | overlong
  /-- A stage began with this transaction. -/
  | stage (stage : Stage) (transaction : Transaction)
  /-- The checker at a place in its stage was asked. -/
  | checked (stage : Stage) (place : Nat) (refusal : Option Refusal)
  /-- The authenticator was asked. -/
  | authenticated (username password : String) (refusal : Option Refusal)
  /-- A reply was written. -/
  | replied (reply : Reply)

def Event.reply? : Event → Option Reply
  | .replied reply => some reply
  | _ => none

/-- What is counted on a connection. -/
structure Tally where
  bytesRead : Nat := 0
  bytesWritten : Nat := 0
  messages : Nat := 0
deriving DecidableEq, Repr

def Tally.add (a b : Tally) : Tally :=
  ⟨a.bytesRead + b.bytesRead, a.bytesWritten + b.bytesWritten, a.messages + b.messages⟩

/-- The state of one connection. -/
structure Session where
  transaction : Transaction
  phase : Phase
  /-- How many commands have been carried out. -/
  commands : Nat := 0
  tally : Tally := {}
  /-- What happened, the latest first. -/
  journal : List Event := []

namespace Session

/-- Whether the connection has ended. -/
def isClosed (s : Session) : Bool :=
  s.phase = .closed

/-- The replies in the order in which they were written. -/
def replies (s : Session) : List Reply :=
  s.journal.reverse.filterMap Event.reply?

end Session

/-- A session at work on the world that its checkers share. -/
structure Turn (W : Type u) extends Session where
  world : W

namespace Turn

variable {W : Type u}

/-- Writes an event into the journal. -/
def note (t : Turn W) (e : Event) : Turn W :=
  { t with journal := e :: t.journal }

def mapTransaction (t : Turn W) (f : Transaction → Transaction) : Turn W :=
  { t with transaction := f t.transaction }

/-- Changes the protocol state of the transaction. -/
def mapPeer (t : Turn W) (f : Peer → Peer) : Turn W :=
  t.mapTransaction fun tx => { tx with peer := f tx.peer }

/-- Changes the envelope of the transaction. -/
def mapEnvelope (t : Turn W) (f : Envelope → Envelope) : Turn W :=
  t.mapTransaction fun tx => { tx with envelope := f tx.envelope }

def reward (t : Turn W) (amount : Int) : Turn W :=
  t.mapTransaction fun tx => tx.reward amount

def penalize (t : Turn W) (amount : Int) : Turn W :=
  t.mapTransaction fun tx => tx.penalize amount

/-- Forgets the message at hand. -/
def resetEnvelope (t : Turn W) : Turn W :=
  t.mapTransaction Transaction.resetEnvelope

def countRead (t : Turn W) (bytes : Nat) : Turn W :=
  { t with tally := { t.tally with bytesRead := t.tally.bytesRead + bytes } }

def countMessage (t : Turn W) : Turn W :=
  { t with tally := { t.tally with messages := t.tally.messages + 1 } }

def reply (t : Turn W) (code : UInt16) (message : String) : Turn W :=
  let reply : Reply := ⟨code, message⟩
  let written := t.tally.bytesWritten + (Utf8.encode reply.render).length
  { t.note (.replied reply) with tally := { t.tally with bytesWritten := written } }

/-- Writes the reply that a refusal asks for. -/
def replyRefusal (t : Turn W) (r : Refusal) : Turn W :=
  t.reply r.code r.message

/-- Lowers karma and writes a reply. -/
def refuse (t : Turn W) (cost : Int) (code : UInt16) (message : String) : Turn W :=
  (t.penalize cost).reply code message

/-- Waits for the next command line. -/
def awaitCommand (t : Turn W) : Turn W :=
  { t with phase := .command {} }

/-- Counts the command at hand as carried out and waits for the next one. -/
def conclude (t : Turn W) : Turn W :=
  { t.awaitCommand with commands := t.commands + 1 }

/-- Asks checkers in order up to the first that refuses. -/
def check (stage : Stage) : Nat → List (Checker W) → Turn W → Turn W × Option Refusal
  | _, [], t => (t, none)
  | place, checker :: more, t =>
      let verdict := checker t.transaction t.world
      let t := { t with transaction := verdict.transaction, world := verdict.world }
      let t := t.note (.checked stage place verdict.refusal)
      match verdict.refusal with
      | some r => (t, some r)
      | none => check stage (place + 1) more t

/-- Runs a stage, and gives the refusal if one of its checkers refuses. -/
def runStage (service : Service W) (stage : Stage) (t : Turn W) : Turn W × Option Refusal :=
  check stage 0 (service.pipelines.checkers stage) (t.note (.stage stage t.transaction))

/-- Ends the connection: the last stage runs whatever went before, and its refusal changes
nothing. -/
def close (service : Service W) (t : Turn W) : Turn W :=
  let t := (t.runStage service .close).1
  { t with
    phase := .closed
    transaction := { t.transaction with shared := t.transaction.finish } }

end Turn
end MailIntake
