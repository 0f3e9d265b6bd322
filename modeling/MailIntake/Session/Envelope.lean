import MailIntake.Path
import MailIntake.Session.Basic
/-!
The message at hand: its sender, its recipients and its body.  A command that is refused leaves the
envelope without what it wanted to add; a body that was read to its end empties the envelope,
whatever became of it.
-/
namespace MailIntake.Turn

open Text

universe u

variable {W : Type u}

/-- A number that fits into 64 bits. -/
def size? (text : List Char) : Option Nat :=
  Ascii.boundedNumber? UInt64.size text

def sizeOf? (parameter : String) : Option Nat :=
  match cutOnce (· == '=') parameter.toList with
  | some (key, value) =>
      if Ascii.sameIgnoringCase (String.ofList key) "SIZE" then size? value else none
  | none => none

/-- The size that the first parameter to declare one declares.  A parameter whose value is no number
declares none. -/
def declaredSize (parameters : List String) : Option Nat :=
  parameters.findSome? sizeOf?

/-- What stands behind a keyword and its colon. -/
def pathBehind (keyword : String) (line : CommandLine) : Option String :=
  if line.keyword? = some keyword then line.pathArgument? else none

/-- The text that refuses a message over the size limit. -/
def tooBigText (service : Service W) : String :=
  "Message exceeded max message size of " ++ toString service.settings.maxMessageSize.toNat
    ++ " bytes"

/-- What keeps a client from naming a sender: code and text of the reply. -/
def senderObstacle (service : Service W) (tx : Transaction) : Option (UInt16 × String) :=
  if tx.peer.helo.isNone then some (502, "Please introduce yourself first.")
  else if service.settings.requireTls ∧ ¬ tx.peer.encrypted then
    some (502, "Please turn on TLS by issuing a STARTTLS command.")
  else if service.authenticator.isSome ∧ ¬ tx.isAuthenticated then
    some (530, "Authentication Required.")
  else if tx.envelope.sender.isSome then some (502, "Duplicate MAIL")
  else none

/-- Asks the checkers about a sender, who is part of the envelope meanwhile. -/
def proposeSender (service : Service W) (sender : ReversePath) (t : Turn W) : Turn W :=
  let proposed := t.mapEnvelope fun e => { e with sender := some sender }
  match proposed.runStage service .sender with
  | (t, some r) => ((t.mapEnvelope fun e => { e with sender := none }).replyRefusal r).conclude
  | (t, none) => ((t.reward Karma.commandExecuted).reply 250 "Go ahead").conclude

/-- MAIL: the client names the sender of a message. -/
def mail (service : Service W) (line : CommandLine) (t : Turn W) : Turn W :=
  match senderObstacle service t.transaction with
  | some (code, message) => (t.refuse Karma.orderViolation code message).conclude
  | none =>
      match pathBehind "FROM" line with
      | none => (t.refuse Karma.badParameter 502 "Invalid syntax.").conclude
      | some path =>
          match ReversePath.parse? path with
          | none => (t.refuse Karma.badParameter 502 "Malformed e-mail address").conclude
          | some sender =>
              let tooBig :=
                (declaredSize line.esmtpParameters).any (service.settings.maxMessageSize.toNat < ·)
              if tooBig then (t.refuse Karma.messageTooBig 552 (tooBigText service)).conclude
              else t.proposeSender service sender

/-- Asks the checkers about a recipient, who joins the envelope if they pass.  Only the first one
earns karma. -/
def proposeRecipient (service : Service W) (recipient : ForwardPath) (t : Turn W) : Turn W :=
  match t.runStage service (.recipient recipient) with
  | (t, some r) => ((t.penalize Karma.recipientRejected).replyRefusal r).conclude
  | (t, none) =>
      let t := if t.transaction.envelope.recipients.isEmpty then t.reward Karma.commandExecuted
        else t
      let t := t.mapEnvelope fun e => { e with recipients := e.recipients ++ [recipient] }
      (t.reply 250 "Go ahead").conclude

/-- RCPT: the client names a recipient. -/
def rcpt (service : Service W) (line : CommandLine) (t : Turn W) : Turn W :=
  if t.transaction.envelope.sender.isNone then
    (t.refuse Karma.orderViolation 502 "Missing MAIL FROM command.").conclude
  else if service.settings.maxRecipients.toNat ≤ t.transaction.envelope.recipients.length then
    (t.refuse Karma.tooManyRecipients 452 "Too many recipients").conclude
  else
    match pathBehind "TO" line with
    | none => (t.refuse Karma.badParameter 502 "Invalid syntax.").conclude
    | some path =>
        match ForwardPath.parse? path with
        | none => (t.refuse Karma.badParameter 502 "Malformed e-mail address").conclude
        | some recipient => t.proposeRecipient service recipient

/-- DATA: the client is asked for the body. -/
def data (service : Service W) (t : Turn W) : Turn W :=
  if t.transaction.envelope.sender.isNone then
    (t.refuse Karma.orderViolation 502 "Missing MAIL FROM command.").conclude
  else if t.transaction.envelope.recipients.isEmpty then
    (t.refuse Karma.orderViolation 502 "Missing RCPT TO command.").conclude
  else
    { t.reply 354 "Go ahead. End your data with <CR><LF>.<CR><LF>" with
      phase := .body { limit := service.settings.maxMessageSize.toNat } }

/-- Runs stages in order up to the first in which a checker refuses. -/
def runStages (service : Service W) : List Stage → Turn W → Turn W × Option Refusal
  | [], t => (t, none)
  | stage :: more, t =>
      match t.runStage service stage with
      | (t, some r) => (t, some r)
      | (t, none) => runStages service more t

/-- The message has been read to its end: the checkers look at it and the handlers take it over. -/
def takeMessage (service : Service W) (body : List UInt8) (t : Turn W) : Turn W :=
  let read := t.mapTransaction fun tx => tx.setBody body
  match read.runStages service [.data, .handler] with
  | (t, some r) => (t.resetEnvelope.replyRefusal r).conclude
  | (t, none) =>
      let t := (t.countMessage.reward Karma.commandExecuted).resetEnvelope
      (t.reply 250 "Thank you.").conclude

def endBody (service : Service W) (outcome : BodyOutcome) (t : Turn W) : Turn W :=
  match outcome with
  | .complete body => t.takeMessage service body
  | .tooBig =>
      ((t.penalize Karma.messageTooBig).resetEnvelope.reply 552 (tooBigText service)).conclude

end MailIntake.Turn
