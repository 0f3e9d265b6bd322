import MailIntake.Session.Envelope
import MailIntake.Session.Greeting
import MailIntake.Session.Security
/-!
A connection from its start to its end.  Bytes arrive in chunks; each chunk is worked off piece by
piece, a piece being what completes a line or a body.  Bytes behind STARTTLS belong to nobody and
are dropped, and so is everything that arrives when the connection has ended.
-/
namespace MailIntake

universe u

/-- What happens to a connection from outside. -/
inductive Input
  /-- Bytes arrive. -/
  | bytes (chunk : List UInt8)
  /-- A handshake ends, completed or not. -/
  | handshake (result : Option Turn.Handshake)
  /-- The client sends nothing any more. -/
  | ended
  /-- The deadline of what is read passes. -/
  | expired
deriving DecidableEq, Repr

namespace Turn

variable {W : Type u}

/-- QUIT: the client takes its leave. -/
def quit (service : Service W) (t : Turn W) : Turn W :=
  let bye := "OK, bye, see you soon! (transaction " ++ t.transaction.shared.id.render ++ ")"
  let t := t.reply 221 bye
  { t with commands := t.commands + 1 }.close service

/-- Carries out a known command. -/
def execute (service : Service W) (verb : CommandLine.Verb) (line : CommandLine) (t : Turn W) :
    Turn W :=
  match verb with
  | .helo => t.helo service .smtp line
  | .ehlo => t.helo service .esmtp line
  | .mail => t.mail service line
  | .rcpt => t.rcpt service line
  | .data => t.data service
  | .rset => (t.resetEnvelope.reply 250 "Go ahead.").conclude
  | .noop => (t.reply 250 "Go ahead.").conclude
  | .quit => t.quit service
  | .startTls => t.startTls service
  | .auth => t.auth service line
  | .proxy => t.proxy service line
  | .xclient => t.xclient service line

/-- Carries out the command in a line. -/
def dispatch (service : Service W) (line : CommandLine) (t : Turn W) : Turn W :=
  let t := t.note (.command line)
  match line.verb? with
  | some verb => t.execute service verb line
  | none => (t.refuse Karma.unknownCommand 502 "Unsupported command.").conclude

/-- A line has arrived where a command is expected. -/
def takeLine (service : Service W) (line : Line) (t : Turn W) : Turn W :=
  match line with
  | .text text => t.dispatch service (CommandLine.parse text)
  | .tooLong =>
      ((t.note .overlong).refuse Karma.badParameter 500 "5.5.2 Line too long").awaitCommand

/-- Works off the first piece of a chunk, and gives what stands behind it. -/
def advance (service : Service W) (t : Turn W) (chunk : List UInt8) : Turn W × List UInt8 :=
  match t.phase with
  | .command reader =>
      match reader.feed chunk with
      | .more reader => ({ t with phase := .command reader }.countRead chunk.length, [])
      | .line line behind =>
          ((t.countRead (chunk.length - behind.length)).takeLine service line, behind)
  | .response step reader =>
      match reader.feed chunk with
      | .more reader => ({ t with phase := .response step reader }.countRead chunk.length, [])
      | .line line behind =>
          ((t.countRead (chunk.length - behind.length)).takeResponse service step line, behind)
  | .body decoder =>
      match decoder.feed chunk with
      | (none, decoder) => ({ t with phase := .body decoder }.countRead chunk.length, [])
      | (some behind, decoder) =>
          ((t.countRead (chunk.length - behind.length)).endBody service decoder.finish, behind)
  | .opening | .handshake | .closed => (t, [])

theorem length_advance_lt (service : Service W) (t : Turn W) {chunk : List UInt8}
    (hchunk : chunk ≠ []) : (t.advance service chunk).2.length < chunk.length := by
  have hpos : 0 < chunk.length := List.length_pos_iff.mpr hchunk
  rw [advance]
  split
  · split
    · exact hpos
    · next hfeed => exact LineReader.length_behind_lt hfeed
  · split
    · exact hpos
    · next hfeed => exact LineReader.length_behind_lt hfeed
  · split
    · exact hpos
    · next hfeed => exact DotDecoder.length_rest_lt hfeed
  · exact hpos
  · exact hpos
  · exact hpos

/-- Works off a chunk. -/
def receive (service : Service W) (t : Turn W) : List UInt8 → Turn W
  | [] => t
  | b :: rest =>
      let next := t.advance service (b :: rest)
      next.1.receive service next.2
termination_by chunk => chunk.length
decreasing_by exact length_advance_lt service t (List.cons_ne_nil b rest)

/-- The connection is ready for its first words: the client's names are looked up, the first stage
runs, and the client is greeted unless it is refused. -/
def begin (service : Service W) (t : Turn W) : Turn W :=
  match (t.lookUpNames service).runStage service .connection with
  | (t, some r) => (t.replyRefusal r).close service
  | (t, none) => (t.greet service).awaitCommand

def endHandshake (service : Service W) (result : Option Handshake) (t : Turn W) : Turn W :=
  match t.phase, result with
  | .opening, some h => (t.encrypt h).begin service
  | .opening, none => (t.penalize Karma.handshakeFailed).close service
  | .handshake, some h => t.upgraded h
  | .handshake, none =>
      let t := t.refuse Karma.handshakeFailed 550 "Handshake error"
      { t with commands := t.commands + 1 }.close service
  | _, _ => t

/-- The client sends nothing any more.  A handshake that is under way fails; anything else that is
read breaks off without a word. -/
def endInput (service : Service W) (t : Turn W) : Turn W :=
  match t.phase with
  | .opening | .handshake => t.endHandshake service none
  | .command _ | .response _ _ | .body _ => t.close service
  | .closed => t

/-- The deadline of what is read has passed.  Only a client that owes a line is told. -/
def expire (service : Service W) (t : Turn W) : Turn W :=
  match t.phase with
  | .command _ | .response _ _ => (t.reply 421 "Connection timed out.").close service
  | .opening | .handshake | .body _ => t.close service
  | .closed => t

def step (service : Service W) (t : Turn W) : Input → Turn W
  | .bytes chunk => t.receive service chunk
  | .handshake result => t.endHandshake service result
  | .ended => t.endInput service
  | .expired => t.expire service

def run (service : Service W) (t : Turn W) (inputs : List Input) : Turn W :=
  inputs.foldl (step service) t

/-- A connection that has just been admitted. -/
def start (service : Service W) (tx : Transaction) (world : W) : Turn W :=
  let t : Turn W := { transaction := tx, phase := .opening, world }
  if service.settings.implicitTls ∧ service.offersTls then t else t.begin service

end Turn
end MailIntake
