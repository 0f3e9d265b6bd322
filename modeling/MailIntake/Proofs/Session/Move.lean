import MailIntake.Proofs.Session.Signal
/-!
What can happen to a connection, said once.  `Exchanged`, `Handled` and `Move` list all outcomes of
a step of an AUTH exchange, of a command and of a signal, each with the conditions under which it
comes about; `heed_move` shows that nothing else happens.
-/
namespace MailIntake

universe u

variable {W : Type u}

def Protocol.verb : Protocol → CommandLine.Verb
  | .smtp => .helo
  | .esmtp => .ehlo

namespace Turn

/-- The codes of replies that turn a client down. -/
def Negative (code : UInt16) : Prop :=
  400 ≤ code.toNat ∧ code.toNat < 600

instance (code : UInt16) : Decidable (Negative code) :=
  inferInstanceAs (Decidable (_ ∧ _))

def introduce (protocol : Protocol) (name : String) (t : Turn W) : Turn W :=
  t.mapPeer fun p => { p with helo := some name, protocol := protocol }

def restoreGreeting (before : Peer) (t : Turn W) : Turn W :=
  t.mapPeer fun p => { p with helo := before.helo, protocol := before.protocol }

def setSender (sender : Option ReversePath) (t : Turn W) : Turn W :=
  t.mapEnvelope fun e => { e with sender }

def addRecipient (recipient : ForwardPath) (t : Turn W) : Turn W :=
  t.mapEnvelope fun e => { e with recipients := e.recipients ++ [recipient] }

def questioned (authenticator : Authenticator W) (username password : String) (t : Turn W) :
    Turn W :=
  let verdict := authenticator username password t.transaction t.world
  { t with
    transaction := verdict.transaction
    world := verdict.world
    journal := .authenticated username password verdict.refusal :: t.journal }

section Fields

variable (authenticator : Authenticator W) (username password : String) (t : Turn W)

@[simp]
theorem questioned_transaction : (t.questioned authenticator username password).transaction =
    (authenticator username password t.transaction t.world).transaction := rfl

@[simp]
theorem questioned_world : (t.questioned authenticator username password).world =
    (authenticator username password t.transaction t.world).world := rfl

@[simp]
theorem questioned_journal : (t.questioned authenticator username password).journal =
    .authenticated username password
      (authenticator username password t.transaction t.world).refusal :: t.journal := rfl

@[simp]
theorem questioned_messages :
    (t.questioned authenticator username password).tally.messages = t.tally.messages := rfl

end Fields

/-- The client has the name and the password it gave. -/
def signIn (username password : String) (t : Turn W) : Turn W :=
  t.mapPeer fun p => { p with username := some username, password := some password }

/-- Where a proxy or a trusted client says that the client is. -/
def relocate (service : Service W) (address : Address.Endpoint) (t : Turn W) : Turn W :=
  (t.mapPeer fun p => { p with remoteAddr := address }).lookUpNames service

/-- The message at hand has a body. -/
def hold (body : List UInt8) (t : Turn W) : Turn W :=
  t.mapTransaction fun tx => tx.setBody body

@[simp]
theorem moveTo_journal (service : Service W) (attributes : XClientAttributes) (t : Turn W) :
    (t.moveTo service attributes).journal = t.journal := by
  rw [moveTo]
  split
  · rfl
  · rfl

@[simp]
theorem moveTo_envelope (service : Service W) (attributes : XClientAttributes) (t : Turn W) :
    (t.moveTo service attributes).transaction.envelope = t.transaction.envelope := by
  rw [moveTo]
  split
  · rfl
  · rfl

/-- What can become of an AUTH exchange with one more response. -/
inductive Exchanged (service : Service W) (t : Turn W) : Turn W → Prop
  | refused (cost : Int) (code : UInt16) (message : String) (hcode : Negative code) :
      Exchanged service t (t.refuse cost code message).conclude
  | challenged (step : AuthStep) : Exchanged service t (t.challenge step)
  | rejected (authenticator : Authenticator W) (username password : String) (r : Refusal)
      (hauthenticator : service.authenticator = some authenticator)
      (hverdict : (authenticator username password t.transaction t.world).refusal = some r) :
      Exchanged service t
        (((t.questioned authenticator username password).penalize
          Karma.authenticationFailed).replyRefusal r).conclude
  | accepted (authenticator : Authenticator W) (username password : String)
      (hauthenticator : service.authenticator = some authenticator)
      (hverdict : (authenticator username password t.transaction t.world).refusal = none) :
      Exchanged service t
        (((t.questioned authenticator username password).signIn username password).reply 235
          "OK, you are now authenticated").conclude

/-- What can become of a command, `t` being the turn in which it was taken up. -/
inductive Handled (service : Service W) (line : CommandLine) (t : Turn W) : Turn W → Prop
  | refused (cost : Int) (code : UInt16) (message : String) (hcode : Negative code)
      (hverb : ∀ verb ∈ [CommandLine.Verb.rset, .noop, .quit], line.verb? ≠ some verb) :
      Handled service line t (t.refuse cost code message).conclude
  | idle (hverb : line.verb? = some .noop) :
      Handled service line t (t.reply 250 "Go ahead.").conclude
  | reset (hverb : line.verb? = some .rset) :
      Handled service line t (t.resetEnvelope.reply 250 "Go ahead.").conclude
  | greeted (protocol : Protocol) (name : String) (after : Turn W)
      (hverb : line.verb? = some protocol.verb) (hname : line.argument? = some name)
      (hrun : (t.introduce protocol name).runStage service .helo = (after, none)) :
      Handled service line t
        ((after.resetEnvelope.reward Karma.commandExecuted).reply 250
          (greetingText service protocol
            (after.resetEnvelope.reward Karma.commandExecuted))).conclude
  | greetingRefused (protocol : Protocol) (name : String) (after : Turn W) (r : Refusal)
      (hverb : line.verb? = some protocol.verb) (hname : line.argument? = some name)
      (hrun : (t.introduce protocol name).runStage service .helo = (after, some r)) :
      Handled service line t
        ((after.restoreGreeting t.transaction.peer).replyRefusal r).conclude
  | senderAccepted (path : String) (sender : ReversePath) (after : Turn W)
      (hverb : line.verb? = some .mail)
      (hobstacle : senderObstacle service t.transaction = none)
      (hpath : pathBehind "FROM" line = some path) (hparse : ReversePath.parse? path = some sender)
      (hrun : (t.setSender (some sender)).runStage service .sender = (after, none)) :
      Handled service line t ((after.reward Karma.commandExecuted).reply 250 "Go ahead").conclude
  | senderRefused (path : String) (sender : ReversePath) (after : Turn W) (r : Refusal)
      (hverb : line.verb? = some .mail)
      (hobstacle : senderObstacle service t.transaction = none)
      (hpath : pathBehind "FROM" line = some path) (hparse : ReversePath.parse? path = some sender)
      (hrun : (t.setSender (some sender)).runStage service .sender = (after, some r)) :
      Handled service line t ((after.setSender none).replyRefusal r).conclude
  | recipientAccepted (path : String) (recipient : ForwardPath) (after : Turn W)
      (hverb : line.verb? = some .rcpt)
      (hsender : t.transaction.envelope.sender.isSome)
      (hroom : t.transaction.envelope.recipients.length < service.settings.maxRecipients.toNat)
      (hpath : pathBehind "TO" line = some path)
      (hparse : ForwardPath.parse? path = some recipient)
      (hrun : t.runStage service (.recipient recipient) = (after, none)) :
      Handled service line t
        (((if after.transaction.envelope.recipients.isEmpty then
          after.reward Karma.commandExecuted else after).addRecipient recipient).reply 250
            "Go ahead").conclude
  | recipientRefused (path : String) (recipient : ForwardPath) (after : Turn W) (r : Refusal)
      (hverb : line.verb? = some .rcpt)
      (hsender : t.transaction.envelope.sender.isSome)
      (hpath : pathBehind "TO" line = some path)
      (hparse : ForwardPath.parse? path = some recipient)
      (hrun : t.runStage service (.recipient recipient) = (after, some r)) :
      Handled service line t
        ((after.penalize Karma.recipientRejected).replyRefusal r).conclude
  | bodyAwaited (hverb : line.verb? = some .data)
      (hsender : t.transaction.envelope.sender.isSome)
      (hrecipients : t.transaction.envelope.recipients ≠ []) :
      Handled service line t
        ((t.reply 354 "Go ahead. End your data with <CR><LF>.<CR><LF>").inPhase
          (.body { limit := service.settings.maxMessageSize.toNat }))
  | quit (message : String) (hverb : line.verb? = some .quit) :
      Handled service line t ((t.reply 221 message).countCommand.close service)
  | handshakeAwaited (hverb : line.verb? = some .startTls)
      (hplain : t.transaction.peer.encrypted = false) (hoffers : service.offersTls = true) :
      Handled service line t ((t.reply 220 "Go ahead").inPhase .handshake)
  | auth (after : Turn W) (hverb : line.verb? = some .auth)
      (hobstacle : authObstacle t.transaction = none) (hexchanged : Exchanged service t after) :
      Handled service line t after
  | proxied (header : ProxyHeader) (hverb : line.verb? = some .proxy)
      (henabled : service.settings.enableProxyProtocol = true) (hfirst : t.commands = 0)
      (hparse : ProxyHeader.ofFields line.fields = .ok header) :
      Handled service line t ((t.relocate service header.source).greet service).conclude
  | xclient (attributes : XClientAttributes) (hverb : line.verb? = some .xclient)
      (henabled : service.settings.enableXclient = true)
      (hparse : XClientAttributes.parse line.arguments = .ok attributes) :
      Handled service line t
        (((t.moveTo service attributes).mapPeer (withAttributes attributes)).greet
          service).conclude

/-- What can become of a body that has been read to its end. -/
inductive Ended (service : Service W) (t : Turn W) : BodyOutcome → Turn W → Prop
  | tooBig :
      Ended service t .tooBig
        ((t.penalize Karma.messageTooBig).resetEnvelope.reply 552 (tooBigText service)).conclude
  | bodyRefused (body : List UInt8) (after : Turn W) (r : Refusal)
      (hdata : (t.hold body).runStage service .data = (after, some r)) :
      Ended service t (.complete body) (after.resetEnvelope.replyRefusal r).conclude
  | messageRefused (body : List UInt8) (judged after : Turn W) (r : Refusal)
      (hdata : (t.hold body).runStage service .data = (judged, none))
      (hhandler : judged.runStage service .handler = (after, some r)) :
      Ended service t (.complete body) (after.resetEnvelope.replyRefusal r).conclude
  | messageAccepted (body : List UInt8) (judged after : Turn W)
      (hdata : (t.hold body).runStage service .data = (judged, none))
      (hhandler : judged.runStage service .handler = (after, none)) :
      Ended service t (.complete body)
        (((after.countMessage.reward Karma.commandExecuted).resetEnvelope).reply 250
          "Thank you.").conclude

/-- How a connection opens. -/
inductive Begun (service : Service W) (t : Turn W) : Turn W → Prop
  | refused (after : Turn W) (r : Refusal)
      (hrun : (t.lookUpNames service).runStage service .connection = (after, some r)) :
      Begun service t ((after.replyRefusal r).close service)
  | greeted (after : Turn W)
      (hrun : (t.lookUpNames service).runStage service .connection = (after, none)) :
      Begun service t (after.greet service).awaitCommand

/-- A byte that ends neither a line nor a body leads from one phase to the other. -/
inductive Passes (b : UInt8) : Phase → Phase → Prop
  | command (reader : LineReader) (hb : b ≠ LineReader.byteFeed) :
      Passes b (.command reader) (.command (reader.add [b]))
  | response (step : AuthStep) (reader : LineReader) (hb : b ≠ LineReader.byteFeed) :
      Passes b (.response step reader) (.response step (reader.add [b]))
  | body (decoder : DotDecoder) (hb : ¬ decoder.endsWith b) :
      Passes b (.body decoder) (.body (decoder.step b))

def BodyRead (t : Turn W) (b : UInt8) (outcome : BodyOutcome) : Prop :=
  ∃ decoder, t.phase = .body decoder ∧ decoder.endsWith b ∧ decoder.finish = outcome

/-- What can become of a connection with a signal. -/
inductive Move (service : Service W) (t : Turn W) : Signal → Turn W → Prop
  | unheard (b : UInt8) (hphase : t.phase = .opening ∨ t.phase = .handshake ∨ t.phase = .closed) :
      Move service t (.byte b) t
  | unasked (result : Option Handshake) (hphase : t.phase ≠ .opening ∧ t.phase ≠ .handshake) :
      Move service t (.handshake result) t
  | finished (signal : Signal) (hphase : t.phase = .closed) : Move service t signal t
  | passed (b : UInt8) (phase : Phase) (hpasses : Passes b t.phase phase) :
      Move service t (.byte b) (t.passByte phase)
  | overlong (reader : LineReader) (hphase : t.phase = .command reader)
      (hline : (reader.add [LineReader.byteFeed]).finish = .tooLong) :
      Move service t (.byte LineReader.byteFeed)
        (((t.countRead 1).note .overlong).refuse Karma.badParameter 500
          "5.5.2 Line too long").awaitCommand
  | handled (reader : LineReader) (text : String) (after : Turn W)
      (hphase : t.phase = .command reader)
      (hline : (reader.add [LineReader.byteFeed]).finish = .text text)
      (hhandled : Handled service (CommandLine.parse text)
        ((t.countRead 1).note (.command (CommandLine.parse text))) after) :
      Move service t (.byte LineReader.byteFeed) after
  | exchanged (step : AuthStep) (reader : LineReader) (after : Turn W)
      (hphase : t.phase = .response step reader)
      (hexchanged : Exchanged service (t.countRead 1) after) :
      Move service t (.byte LineReader.byteFeed) after
  | bodyEnded (b : UInt8) (outcome : BodyOutcome) (after : Turn W)
      (hread : t.BodyRead b outcome) (hended : Ended service (t.countRead 1) outcome after) :
      Move service t (.byte b) after
  | opened (h : Handshake) (after : Turn W) (hphase : t.phase = .opening)
      (hbegun : Begun service (t.encrypt h) after) :
      Move service t (.handshake (some h)) after
  | openingFailed (signal : Signal) (hphase : t.phase = .opening)
      (hsignal : signal = .handshake none ∨ signal = .ended) :
      Move service t signal ((t.penalize Karma.handshakeFailed).close service)
  | upgraded (h : Handshake) (hphase : t.phase = .handshake) :
      Move service t (.handshake (some h)) (t.upgraded h)
  | upgradeFailed (signal : Signal) (hphase : t.phase = .handshake)
      (hsignal : signal = .handshake none ∨ signal = .ended) :
      Move service t signal
        ((t.refuse Karma.handshakeFailed 550 "Handshake error").countCommand.close service)
  | ended (hphase : t.phase ≠ .opening ∧ t.phase ≠ .handshake ∧ t.phase ≠ .closed) :
      Move service t .ended (t.close service)
  | timedOut (hphase : (∃ reader, t.phase = .command reader) ∨
      ∃ step reader, t.phase = .response step reader) :
      Move service t .expired ((t.reply 421 "Connection timed out.").close service)
  | expired (hphase : t.phase = .opening ∨ t.phase = .handshake ∨
      ∃ decoder, t.phase = .body decoder) :
      Move service t .expired (t.close service)

section Cases

variable (service : Service W) (t : Turn W)

/-- Nothing to pay for a reply that costs nothing. -/
theorem refuse_zero (code : UInt16) (message : String) :
    t.refuse 0 code message = t.reply code message := by
  have hkarma : t.penalize 0 = t := by
    simp [penalize, mapTransaction, Transaction.penalize, Transaction.withMetadata,
      Transaction.metadata, Metadata.penalize]
  rw [refuse, hkarma]

theorem judge_exchanged (username password : String) :
    Exchanged service t (t.judge service username password) := by
  rw [judge]
  cases hauthenticator : service.authenticator with
  | none => exact .refused _ _ _ (by decide)
  | some authenticator =>
      cases hverdict : (authenticator username password t.transaction t.world).refusal with
      | none =>
          have haccepted := Exchanged.accepted authenticator username password hauthenticator
            hverdict
          simpa only [hverdict, questioned, note, signIn] using haccepted
      | some r =>
          have hrejected := Exchanged.rejected authenticator username password r hauthenticator
            hverdict
          simpa only [hverdict, questioned, note] using hrejected

theorem garbled_exchanged (e : Sasl.Error) : Exchanged service t (t.garbled e) :=
  .refused _ _ _ (by decide)

theorem respond_exchanged (step : AuthStep) (response : String) :
    Exchanged service t (t.respond service step response) := by
  cases step with
  | credentials =>
      rw [respond]
      split
      · exact garbled_exchanged service t _
      · exact judge_exchanged service t _ _
  | username =>
      rw [respond]
      split
      · exact garbled_exchanged service t _
      · exact .challenged _
  | password username =>
      rw [respond]
      split
      · exact garbled_exchanged service t _
      · exact judge_exchanged service t _ _

theorem exchange_exchanged (mechanism : Sasl.Mechanism) (initial : Option String) :
    Exchanged service t (t.exchange service mechanism initial) := by
  cases mechanism with
  | plain =>
      cases initial with
      | none => exact .challenged .credentials
      | some response =>
          by_cases hlone : response = "="
          · simp only [exchange, if_pos hlone]
            exact .challenged .credentials
          · simp only [exchange, if_neg hlone]
            exact respond_exchanged service t .credentials response
  | login =>
      cases initial with
      | none => exact .challenged .username
      | some response => exact respond_exchanged service t .username response

theorem takeResponse_exchanged (step : AuthStep) (line : Line) :
    Exchanged service t (t.takeResponse service step line) := by
  cases line with
  | tooLong => exact garbled_exchanged service t .malformed
  | text text =>
      by_cases hcancel : Text.trim text = "*"
      · rw [takeResponse, if_pos hcancel, ← refuse_zero]
        exact .refused _ _ _ (by decide)
      · rw [takeResponse, if_neg hcancel]
        exact respond_exchanged service t step text

variable (line : CommandLine)

theorem helo_handled (protocol : Protocol) (hverb : line.verb? = some protocol.verb) :
    Handled service line t (t.helo service protocol line) := by
  have hother : ∀ verb ∈ [CommandLine.Verb.rset, .noop, .quit], line.verb? ≠ some verb := by
    cases protocol with
    | smtp => simp [hverb, Protocol.verb]
    | esmtp => simp [hverb, Protocol.verb]
  rw [helo]
  cases hname : line.argument? with
  | none => exact .refused _ _ _ (by decide) hother
  | some name =>
      cases hrun : (t.introduce protocol name).runStage service .helo with
      | mk after refusal =>
          have hrun' := hrun
          rw [introduce] at hrun'
          simp only [hrun']
          cases refusal with
          | none => exact .greeted protocol name after hverb hname hrun
          | some r => exact .greetingRefused protocol name after r hverb hname hrun

theorem senderObstacle_negative {tx : Transaction} {code : UInt16} {message : String}
    (hobstacle : senderObstacle service tx = some (code, message)) : Negative code := by
  rw [senderObstacle] at hobstacle
  repeat' split at hobstacle
  all_goals cases hobstacle
  all_goals decide

theorem mail_handled (hverb : line.verb? = some .mail) :
    Handled service line t (t.mail service line) := by
  rw [mail]
  cases hobstacle : senderObstacle service t.transaction with
  | some obstacle =>
      exact .refused _ _ _ (senderObstacle_negative service hobstacle) (by simp [hverb])
  | none =>
      cases hpath : pathBehind "FROM" line with
      | none => exact .refused _ _ _ (by decide) (by simp [hverb])
      | some path =>
          simp only
          cases hparse : ReversePath.parse? path with
          | none => exact .refused _ _ _ (by decide) (by simp [hverb])
          | some sender =>
              simp only
              split
              · exact .refused _ _ _ (by decide) (by simp [hverb])
              · rw [proposeSender]
                cases hrun : (t.setSender (some sender)).runStage service .sender with
                | mk after refusal =>
                    have hproposed := hrun
                    rw [setSender] at hproposed
                    rw [hproposed]
                    cases refusal with
                    | none =>
                        exact .senderAccepted path sender after hverb hobstacle hpath hparse hrun
                    | some r =>
                        exact .senderRefused path sender after r hverb hobstacle hpath hparse hrun

theorem rcpt_handled (hverb : line.verb? = some .rcpt) :
    Handled service line t (t.rcpt service line) := by
  rw [rcpt]
  cases hsender : t.transaction.envelope.sender with
  | none => exact .refused _ _ _ (by decide) (by simp [hverb])
  | some sender =>
      have hsome : t.transaction.envelope.sender.isSome := by rw [hsender, Option.isSome_some]
      rw [if_neg (by simp)]
      split
      · exact .refused _ _ _ (by decide) (by simp [hverb])
      · next hroom =>
          cases hpath : pathBehind "TO" line with
          | none => exact .refused _ _ _ (by decide) (by simp [hverb])
          | some path =>
              simp only
              cases hparse : ForwardPath.parse? path with
              | none => exact .refused _ _ _ (by decide) (by simp [hverb])
              | some recipient =>
                  simp only
                  rw [proposeRecipient]
                  cases hrun : t.runStage service (.recipient recipient) with
                  | mk after refusal =>
                      cases refusal with
                      | none =>
                          exact .recipientAccepted path recipient after hverb hsome
                            (Nat.lt_of_not_le hroom) hpath hparse hrun
                      | some r =>
                          exact .recipientRefused path recipient after r hverb hsome hpath hparse
                            hrun

theorem data_handled (hverb : line.verb? = some .data) :
    Handled service line t (t.data service) := by
  rw [data]
  cases hsender : t.transaction.envelope.sender with
  | none => exact .refused _ _ _ (by decide) (by simp [hverb])
  | some sender =>
      have hsome : t.transaction.envelope.sender.isSome := by rw [hsender, Option.isSome_some]
      rw [if_neg (by simp)]
      split
      · exact .refused _ _ _ (by decide) (by simp [hverb])
      · next hrecipients => exact .bodyAwaited hverb hsome (by simpa using hrecipients)

theorem startTls_handled (hverb : line.verb? = some .startTls) :
    Handled service line t (t.startTls service) := by
  rw [startTls]
  split
  · exact .refused _ _ _ (by decide) (by simp [hverb])
  · next hplain =>
      split
      · exact .refused _ _ _ (by decide) (by simp [hverb])
      · next hoffers =>
          refine .handshakeAwaited hverb ?_ ?_
          · simpa using hplain
          · simpa using hoffers

theorem authObstacle_negative {tx : Transaction} {code : UInt16} {message : String}
    (hobstacle : authObstacle tx = some (code, message)) : Negative code := by
  rw [authObstacle] at hobstacle
  repeat' split at hobstacle
  all_goals cases hobstacle
  all_goals decide

theorem auth_handled (hverb : line.verb? = some .auth) :
    Handled service line t (t.auth service line) := by
  rw [auth]
  split
  · exact .refused _ _ _ (by decide) (by simp [hverb])
  · cases hname : line.argument? with
    | none => exact .refused _ _ _ (by decide) (by simp [hverb])
    | some name =>
        simp only
        cases hobstacle : authObstacle t.transaction with
        | some obstacle => exact .refused _ _ _ (authObstacle_negative hobstacle) (by simp [hverb])
        | none =>
            simp only
            cases hparse : Sasl.Mechanism.parse name with
            | error e =>
                simp only
                rw [← refuse_zero]
                exact .refused _ _ _ (by decide) (by simp [hverb])
            | ok mechanism =>
                exact .auth _ hverb hobstacle (exchange_exchanged service t mechanism _)

theorem proxy_handled (hverb : line.verb? = some .proxy) :
    Handled service line t (t.proxy service line) := by
  rw [proxy]
  split
  · rw [← refuse_zero]
    exact .refused _ _ _ (by decide) (by simp [hverb])
  · next henabled =>
      split
      · exact .refused _ _ _ (by decide) (by simp [hverb])
      · next hfirst =>
          cases hparse : ProxyHeader.ofFields line.fields with
          | error e => exact .refused _ _ _ (by decide) (by simp [hverb])
          | ok header =>
              refine .proxied header hverb ?_ ?_ hparse
              · simpa using henabled
              · simpa using hfirst

theorem xclient_handled (hverb : line.verb? = some .xclient) :
    Handled service line t (t.xclient service line) := by
  rw [xclient]
  split
  · rw [← refuse_zero]
    exact .refused _ _ _ (by decide) (by simp [hverb])
  · next henabled =>
      cases hparse : XClientAttributes.parse line.arguments with
      | error e => exact .refused _ _ _ (by decide) (by simp [hverb])
      | ok attributes =>
          refine .xclient attributes hverb ?_ hparse
          simpa using henabled

/-- A command has one of the listed outcomes. -/
theorem dispatch_handled :
    Handled service line (t.note (.command line)) (t.dispatch service line) := by
  rw [dispatch]
  cases hverb : line.verb? with
  | none => exact .refused _ _ _ (by decide) (by simp [hverb])
  | some verb =>
      cases verb with
      | helo => exact helo_handled service _ line .smtp hverb
      | ehlo => exact helo_handled service _ line .esmtp hverb
      | mail => exact mail_handled service _ line hverb
      | rcpt => exact rcpt_handled service _ line hverb
      | data => exact data_handled service _ line hverb
      | rset => exact .reset hverb
      | noop => exact .idle hverb
      | quit => exact .quit _ hverb
      | startTls => exact startTls_handled service _ line hverb
      | auth => exact auth_handled service _ line hverb
      | proxy => exact proxy_handled service _ line hverb
      | xclient => exact xclient_handled service _ line hverb

theorem begin_begun : Begun service t (t.begin service) := by
  rw [begin]
  cases hrun : (t.lookUpNames service).runStage service .connection with
  | mk after refusal =>
      cases refusal with
      | none => exact .greeted after hrun
      | some r => exact .refused after r hrun

theorem endBody_ended (outcome : BodyOutcome) :
    Ended service t outcome (t.endBody service outcome) := by
  cases outcome with
  | tooBig => exact .tooBig
  | complete body =>
      cases hdata : (t.hold body).runStage service .data with
      | mk judged refusal =>
          have hheld := hdata
          rw [hold] at hheld
          cases refusal with
          | some r =>
              simp only [endBody, takeMessage, runStages, hheld]
              exact .bodyRefused body judged r hdata
          | none =>
              cases hhandler : judged.runStage service .handler with
              | mk after refusal =>
                  cases refusal with
                  | some r =>
                      simp only [endBody, takeMessage, runStages, hheld, hhandler]
                      exact .messageRefused body judged after r hdata hhandler
                  | none =>
                      simp only [endBody, takeMessage, runStages, hheld, hhandler]
                      exact .messageAccepted body judged after hdata hhandler

theorem takeByte_move (b : UInt8) : Move service t (.byte b) (t.takeByte service b) := by
  rw [takeByte]
  cases hphase : t.phase with
  | opening => exact .unheard b (.inl hphase)
  | handshake => exact .unheard b (.inr (.inl hphase))
  | closed => exact .unheard b (.inr (.inr hphase))
  | command reader =>
      simp only
      split
      · next hb =>
          subst hb
          cases hline : (reader.add [LineReader.byteFeed]).finish with
          | tooLong => exact .overlong reader hphase hline
          | text text =>
              exact .handled reader text _ hphase hline (dispatch_handled service _ _)
      · next hb => exact .passed b _ (hphase ▸ .command reader hb)
  | response step reader =>
      simp only
      split
      · next hb =>
          subst hb
          exact .exchanged step reader _ hphase (takeResponse_exchanged service _ step _)
      · next hb => exact .passed b _ (hphase ▸ .response step reader hb)
  | body decoder =>
      simp only
      split
      · next hb =>
          exact .bodyEnded b _ _ ⟨decoder, hphase, hb, rfl⟩ (endBody_ended service _ _)
      · next hb => exact .passed b _ (hphase ▸ .body decoder hb)

theorem endHandshake_move (result : Option Handshake) :
    Move service t (.handshake result) (t.endHandshake service result) := by
  cases hphase : t.phase with
  | opening =>
      cases result with
      | none =>
          simp only [endHandshake, hphase]
          exact .openingFailed _ hphase (.inl rfl)
      | some h =>
          simp only [endHandshake, hphase]
          exact .opened h _ hphase (begin_begun service _)
  | handshake =>
      cases result with
      | none =>
          simp only [endHandshake, hphase]
          exact .upgradeFailed _ hphase (.inl rfl)
      | some h =>
          simp only [endHandshake, hphase]
          exact .upgraded h hphase
  | command reader | response step reader | body decoder | closed =>
      simp only [endHandshake, hphase]
      exact .unasked result (by simp [hphase])

theorem endInput_move : Move service t .ended (t.endInput service) := by
  cases hphase : t.phase with
  | opening =>
      simp only [endInput, endHandshake, hphase]
      exact .openingFailed _ hphase (.inr rfl)
  | handshake =>
      simp only [endInput, endHandshake, hphase]
      exact .upgradeFailed _ hphase (.inr rfl)
  | command reader | response step reader | body decoder =>
      simp only [endInput, hphase]
      exact .ended (by simp [hphase])
  | closed =>
      simp only [endInput, hphase]
      exact .finished _ hphase

theorem expire_move : Move service t .expired (t.expire service) := by
  cases hphase : t.phase with
  | opening | handshake | body decoder =>
      simp only [expire, hphase]
      exact .expired (by simp [hphase])
  | command reader | response step reader =>
      simp only [expire, hphase]
      exact .timedOut (by simp [hphase])
  | closed =>
      simp only [expire, hphase]
      exact .finished _ hphase

/-- A signal has one of the listed outcomes. -/
theorem heed_move (signal : Signal) : Move service t signal (t.heed service signal) := by
  cases signal with
  | byte b => exact takeByte_move service t b
  | handshake result => exact endHandshake_move service t result
  | ended => exact endInput_move service t
  | expired => exact expire_move service t

end Cases

section Phases

variable {service : Service W} {t after : Turn W}

theorem close_phase : (t.close service).phase = .closed := rfl

theorem Exchanged.phase_ne (hexchanged : Exchanged service t after) (d : DotDecoder) :
    after.phase ≠ .body d := by
  cases hexchanged with
  | refused cost code message hcode => simp
  | challenged step => simp
  | rejected authenticator username password r hauthenticator hverdict => simp
  | accepted authenticator username password hauthenticator hverdict => simp

/-- Only DATA makes a body the next thing to read, and only for a client with a sender and a
recipient. -/
theorem Handled.awaited {line : CommandLine} {d : DotDecoder}
    (hhandled : Handled service line t after) (hphase : after.phase = .body d) :
    t.transaction.envelope.sender.isSome ∧ t.transaction.envelope.recipients ≠ [] ∧
      after = (t.reply 354 "Go ahead. End your data with <CR><LF>.<CR><LF>").inPhase
        (.body { limit := service.settings.maxMessageSize.toNat }) := by
  cases hhandled with
  | bodyAwaited hverb hsender hrecipients => exact ⟨hsender, hrecipients, rfl⟩
  | auth _ hverb hobstacle hexchanged => exact absurd hphase (hexchanged.phase_ne d)
  | quit message hverb => cases close_phase.symm.trans hphase
  | refused | idle | reset | greeted | greetingRefused | senderAccepted | senderRefused
  | recipientAccepted | recipientRefused | handshakeAwaited | proxied | xclient =>
      simp [greet] at hphase

theorem Handled.limit_of_phase {line : CommandLine} {d : DotDecoder}
    (hhandled : Handled service line t after) (hphase : after.phase = .body d) :
    d = { limit := service.settings.maxMessageSize.toNat } := by
  obtain ⟨-, -, rfl⟩ := hhandled.awaited hphase
  cases hphase
  rfl

theorem Ended.phase_ne {outcome : BodyOutcome} (hended : Ended service t outcome after)
    (d : DotDecoder) : after.phase ≠ .body d := by
  cases hended with
  | tooBig => simp
  | bodyRefused body mid r hdata => simp
  | messageRefused body judged mid r hdata hhandler => simp
  | messageAccepted body judged mid hdata hhandler => simp

theorem Begun.phase_ne (hbegun : Begun service t after) (d : DotDecoder) :
    after.phase ≠ .body d := by
  cases hbegun with
  | refused mid r hrun => simp [close_phase]
  | greeted mid hrun => simp

/-- How a body comes to be what is read. -/
inductive Reads (service : Service W) (t : Turn W) : Signal → Turn W → DotDecoder → Prop
  | first (signal : Signal) (after : Turn W) :
      Reads service t signal after { limit := service.settings.maxMessageSize.toNat }
  | still (result : Option Handshake) (d : DotDecoder) (hphase : t.phase = .body d) :
      Reads service t (.handshake result) t d
  | more (b : UInt8) (d : DotDecoder) (hphase : t.phase = .body d) (hb : ¬ d.endsWith b) :
      Reads service t (.byte b) (t.passByte (.body (d.step b))) (d.step b)

theorem Move.reads {signal : Signal} {d : DotDecoder} (hmove : Move service t signal after)
    (hphase : after.phase = .body d) : Reads service t signal after d := by
  cases hmove with
  | unheard b hbefore => simp [hphase] at hbefore
  | unasked result hbefore => exact .still result d hphase
  | finished signal hbefore => simp [hphase] at hbefore
  | passed b next hpasses =>
      have hnext : next = .body d := hphase
      subst hnext
      generalize hbefore : t.phase = before at hpasses
      cases hpasses with
      | body decoder hb => exact .more b decoder hbefore hb
  | handled reader text _ hbefore hline hhandled =>
      rw [hhandled.limit_of_phase hphase]
      exact .first _ _
  | exchanged step reader _ hbefore hexchanged => exact absurd hphase (hexchanged.phase_ne d)
  | opened h _ hbefore hbegun => exact absurd hphase (hbegun.phase_ne d)
  | upgraded h hbefore => simp [Turn.upgraded] at hphase
  | overlong => simp at hphase
  | bodyEnded b outcome _ hread hended => exact absurd hphase (hended.phase_ne d)
  | openingFailed | upgradeFailed | ended | timedOut | expired =>
      cases close_phase.symm.trans hphase

end Phases

/-- What holds at the start and is kept by every move holds behind any signals. -/
theorem heedAll_induction {service : Service W} {motive : Turn W → Prop}
    (hmove : ∀ before signal after, Move service before signal after → motive before →
      motive after)
    (signals : List Signal) {t : Turn W} (hstart : motive t) :
    motive (t.heedAll service signals) := by
  induction signals generalizing t with
  | nil => exact hstart
  | cons signal signals ih =>
      exact ih (hmove t signal (t.heed service signal) (heed_move service t signal) hstart)

/-- What holds at the start and is kept by every move holds behind any inputs. -/
theorem run_induction {service : Service W} {motive : Turn W → Prop}
    (hmove : ∀ before signal after, Move service before signal after → motive before →
      motive after)
    (inputs : List Input) {t : Turn W} (hstart : motive t) : motive (t.run service inputs) := by
  rw [run_eq_heedAll]
  exact heedAll_induction hmove _ hstart

end Turn
end MailIntake
