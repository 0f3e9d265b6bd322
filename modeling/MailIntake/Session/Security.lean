import MailIntake.Sasl
import MailIntake.Session.Basic
/-!
Encryption and authentication.  A completed handshake makes the client a stranger again: it has to
greet anew.  Credentials travel in one or two lines of an exchange that the client can cancel, and
they are only asked for on an encrypted connection.
-/
namespace MailIntake.Turn

open Text

universe u

variable {W : Type u}

structure Handshake where
  /-- The client showed a certificate that was accepted. -/
  secured : Bool
  info : TlsInfo
deriving DecidableEq, Repr

/-- STARTTLS: the client is told to begin a handshake. -/
def startTls (service : Service W) (t : Turn W) : Turn W :=
  if t.transaction.peer.encrypted then
    (t.refuse Karma.encryptionImpossible 502 "Already running in TLS").conclude
  else if ¬ service.offersTls then
    (t.refuse Karma.encryptionImpossible 502 "TLS not supported").conclude
  else { t.reply 220 "Go ahead" with phase := .handshake }

/-- The connection is encrypted from here on. -/
def encrypt (h : Handshake) (t : Turn W) : Turn W :=
  t.mapPeer fun p => { p with secured := h.secured, tls := some h.info, encrypted := true }

/-- The handshake that STARTTLS asked for is complete. -/
def upgraded (h : Handshake) (t : Turn W) : Turn W :=
  ((t.encrypt h).resetEnvelope.mapPeer fun p => { p with helo := none, protocol := .smtp }).conclude

/-- What keeps a client from authenticating: code and text of the reply. -/
def authObstacle (tx : Transaction) : Option (UInt16 × String) :=
  if tx.peer.helo.isNone then some (502, "Please introduce yourself first.")
  else if ¬ tx.peer.encrypted then some (502, "Cannot AUTH in plain text mode. Use STARTTLS.")
  else if tx.isAuthenticated then some (503, "Already authenticated")
  else if tx.envelope.sender.isSome then
    some (503, "AUTH not permitted during a mail transaction")
  else none

/-- Asks for the next response of an exchange. -/
def challenge (step : AuthStep) (t : Turn W) : Turn W :=
  let text := match step with
    | .credentials => ""
    | .username => Sasl.usernameChallenge
    | .password _ => Sasl.passwordChallenge
  { t.reply 334 text with phase := .response step {} }

/-- The exchange ends without credentials that can be read. -/
def garbled (e : Sasl.Error) (t : Turn W) : Turn W :=
  (t.refuse Karma.authenticationFailed 502 e.message).conclude

/-- The exchange has given credentials, and the authenticator judges them. -/
def judge (service : Service W) (username password : String) (t : Turn W) : Turn W :=
  match service.authenticator with
  | none => (t.refuse Karma.unknownCommand 502 "AUTH not supported.").conclude
  | some authenticator =>
      let verdict := authenticator username password t.transaction t.world
      let t := { t with transaction := verdict.transaction, world := verdict.world }
      let t := t.note (.authenticated username password verdict.refusal)
      match verdict.refusal with
      | some r => ((t.penalize Karma.authenticationFailed).replyRefusal r).conclude
      | none =>
          let t := t.mapPeer fun p =>
            { p with username := some username, password := some password }
          (t.reply 235 "OK, you are now authenticated").conclude

/-- The next step of an exchange behind a response. -/
def respond (service : Service W) (step : AuthStep) (response : String) (t : Turn W) : Turn W :=
  match step with
  | .credentials =>
      match Sasl.decodePlain response with
      | .error e => t.garbled e
      | .ok c => t.judge service c.username c.password
  | .username =>
      match Sasl.decodeLogin response with
      | .error e => t.garbled e
      | .ok username => t.challenge (.password username)
  | .password username =>
      match Sasl.decodeLogin response with
      | .error e => t.garbled e
      | .ok password => t.judge service username password

/-- Begins an exchange, with a response if the client sent one along.  In PLAIN a lone equals sign
stands for none. -/
def exchange (service : Service W) (mechanism : Sasl.Mechanism) (initial : Option String)
    (t : Turn W) : Turn W :=
  match mechanism, initial with
  | .plain, some response =>
      if response = "=" then t.challenge .credentials else t.respond service .credentials response
  | .plain, none => t.challenge .credentials
  | .login, some response => t.respond service .username response
  | .login, none => t.challenge .username

def auth (service : Service W) (line : CommandLine) (t : Turn W) : Turn W :=
  if service.authenticator.isNone then
    (t.refuse Karma.unknownCommand 502 "AUTH not supported.").conclude
  else
    match line.argument? with
    | none => (t.refuse Karma.badParameter 502 "Missing parameter").conclude
    | some name =>
        match authObstacle t.transaction with
        | some (code, message) => (t.refuse Karma.orderViolation code message).conclude
        | none =>
            match Sasl.Mechanism.parse name with
            | .error e => (t.reply 502 e.message).conclude
            | .ok mechanism => t.exchange service mechanism line.fields[2]?

/-- A line has arrived in an exchange; a lone star cancels it. -/
def takeResponse (service : Service W) (step : AuthStep) (line : Line) (t : Turn W) : Turn W :=
  match line with
  | .tooLong => t.garbled .malformed
  | .text text =>
      if trim text = "*" then (t.reply 501 "Authentication cancelled").conclude
      else t.respond service step text

end MailIntake.Turn
