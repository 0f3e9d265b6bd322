import MailIntake.Proofs.Session.TurnedDown
/-!
Why commands are refused, and what that costs.  The faults of a command are looked for in one order
for all commands, and the first one decides; what has no fault is put to the checkers, whose refusal
is a fault of its own (`failure?`).  Every fault has its price (`Fault.cost`), and a client pays
nothing but the price of the fault that it was refused for (`CommandAt.weighed`).
-/
namespace MailIntake

universe u

variable {W : Type u}

/-- Why a command is refused. -/
inductive Fault
  /-- It came too early or too late. -/
  | order
  /-- An argument is missing or malformed. -/
  | parameter
  /-- The message is too big. -/
  | size
  /-- There are recipients enough. -/
  | recipientLimit
  /-- A checker of recipients refused. -/
  | recipient
  /-- No credentials could be read. -/
  | unreadable
  /-- The authenticator refused. -/
  | credentials
  /-- The command is unknown. -/
  | verb
  /-- Encryption cannot be had. -/
  | encryption
  /-- The handshake failed. -/
  | handshake
  /-- A checker that looks at something else refused. -/
  | checker
  /-- The mechanism is unknown. -/
  | mechanism
  /-- The client called an exchange off. -/
  | cancelled
  /-- The command is switched off. -/
  | disabled
  /-- The client took too long. -/
  | timeout
deriving DecidableEq, Repr

namespace Fault

def cost : Fault → Int
  | .order => Karma.orderViolation
  | .parameter => Karma.badParameter
  | .size => Karma.messageTooBig
  | .recipientLimit => Karma.tooManyRecipients
  | .recipient => Karma.recipientRejected
  | .unreadable | .credentials => Karma.authenticationFailed
  | .verb => Karma.unknownCommand
  | .encryption => Karma.encryptionImpossible
  | .handshake => Karma.handshakeFailed
  | .checker | .mechanism | .cancelled | .disabled | .timeout => 0

/-- Whether the reply to a fault is chosen by who found it, a checker or the authenticator. -/
def chosen : Fault → Bool
  | .checker | .recipient | .credentials => true
  | .order | .parameter | .size | .recipientLimit | .unreadable | .verb | .encryption | .handshake
  | .mechanism | .cancelled | .disabled | .timeout => false

theorem cost_nonneg (fault : Fault) : 0 ≤ fault.cost := by
  cases fault <;> decide

end Fault

theorem Transaction.karma_resetEnvelope (tx : Transaction) :
    tx.resetEnvelope.karma = tx.karma := rfl

/-- A phase in which a command that was taken up goes on, a body included. -/
def Phase.Pending : Phase → Prop
  | .response _ _ | .handshake | .body _ => True
  | .opening | .command _ | .closed => False

namespace Turn

section Faults

variable (service : Service W) (line : CommandLine) (t : Turn W)

/-- A command that nobody knows; without an authenticator AUTH is one. -/
def isUnknown : Bool :=
  match line.verb? with
  | none => true
  | some .auth => service.authenticator.isNone
  | _ => false

def isDisabled : Bool :=
  match line.verb? with
  | some .proxy => !service.settings.enableProxyProtocol
  | some .xclient => !service.settings.enableXclient
  | _ => false

/-- A greeting without a name, or AUTH without a mechanism. -/
def isBare : Bool :=
  match line.verb? with
  | some .helo | some .ehlo | some .auth => line.argument?.isNone
  | _ => false

/-- A command that comes too early or too late. -/
def isUntimely : Bool :=
  match line.verb? with
  | some .mail =>
      t.transaction.peer.helo.isNone ||
        (service.settings.requireTls && !t.transaction.peer.encrypted) ||
        (service.authenticator.isSome && !t.transaction.isAuthenticated) ||
        t.transaction.envelope.sender.isSome
  | some .rcpt => t.transaction.envelope.sender.isNone
  | some .data =>
      t.transaction.envelope.sender.isNone || t.transaction.envelope.recipients.isEmpty
  | some .auth =>
      t.transaction.peer.helo.isNone || !t.transaction.peer.encrypted ||
        t.transaction.isAuthenticated || t.transaction.envelope.sender.isSome
  | some .proxy => 0 < t.commands
  | _ => false

/-- A recipient where there are enough. -/
def isCrowded : Bool :=
  match line.verb? with
  | some .rcpt =>
      service.settings.maxRecipients.toNat ≤ t.transaction.envelope.recipients.length
  | _ => false

def isMalformed : Bool :=
  match line.verb? with
  | some .mail => ((pathBehind "FROM" line).bind ReversePath.parse?).isNone
  | some .rcpt => ((pathBehind "TO" line).bind ForwardPath.parse?).isNone
  | some .proxy => !(ProxyHeader.ofFields line.fields).isOk
  | some .xclient => !(XClientAttributes.parse line.arguments).isOk
  | _ => false

def isOversized : Bool :=
  match line.verb? with
  | some .mail =>
      (declaredSize line.esmtpParameters).any (service.settings.maxMessageSize.toNat < ·)
  | _ => false

/-- A wish for encryption that cannot be granted. -/
def isUnencryptable : Bool :=
  match line.verb? with
  | some .startTls => t.transaction.peer.encrypted || !service.offersTls
  | _ => false

def mechanism? : Option Sasl.Mechanism :=
  line.argument?.bind fun name => (Sasl.Mechanism.parse name).toOption

/-- AUTH with a mechanism that nobody knows. -/
def isObscure : Bool :=
  match line.verb? with
  | some .auth => (mechanism? line).isNone
  | _ => false

/-- What is wrong with a command in itself. -/
def fault? : Option Fault :=
  if isUnknown service line then some .verb
  else if isDisabled service line then some .disabled
  else if isBare line then some .parameter
  else if isUntimely service line t then some .order
  else if isCrowded service line t then some .recipientLimit
  else if isMalformed line then some .parameter
  else if isOversized service line then some .size
  else if isUnencryptable service line t then some .encryption
  else if isObscure line then some .mechanism
  else none

/-- What the authenticator has against credentials. -/
def judgement? (username password : String) : Option Fault :=
  match service.authenticator with
  | none => some .verb
  | some authenticator =>
      (authenticator username password t.transaction t.world).refusal.map fun _ => .credentials

def responseFault? (step : AuthStep) (response : String) : Option Fault :=
  match step with
  | .credentials =>
      match Sasl.decodePlain response with
      | .error _ => some .unreadable
      | .ok c => t.judgement? service c.username c.password
  | .username =>
      match Sasl.decodeLogin response with
      | .error _ => some .unreadable
      | .ok _ => none
  | .password username =>
      match Sasl.decodeLogin response with
      | .error _ => some .unreadable
      | .ok password => t.judgement? service username password

/-- The response that AUTH brings along, and what it answers. -/
def firstResponse? : Option (AuthStep × String) :=
  match mechanism? line, line.fields[2]? with
  | some .plain, some response => if response = "=" then none else some (.credentials, response)
  | some .login, some response => some (.username, response)
  | _, _ => none

/-- What the checkers and the authenticator have against a command. -/
def objection? : Option Fault :=
  match line.verb? with
  | some .helo => line.argument?.bind fun name =>
      ((t.introduce .smtp name).runStage service .helo).2.map fun _ => .checker
  | some .ehlo => line.argument?.bind fun name =>
      ((t.introduce .esmtp name).runStage service .helo).2.map fun _ => .checker
  | some .mail => ((pathBehind "FROM" line).bind ReversePath.parse?).bind fun sender =>
      ((t.setSender (some sender)).runStage service .sender).2.map fun _ => .checker
  | some .rcpt => ((pathBehind "TO" line).bind ForwardPath.parse?).bind fun recipient =>
      (t.runStage service (.recipient recipient)).2.map fun _ => .recipient
  | some .auth => (firstResponse? line).bind fun first =>
      t.responseFault? service first.1 first.2
  | _ => none

/-- Why a command is refused, `t` being the turn in which it was taken up. -/
def commandFailure? : Option Fault :=
  (t.fault? service line).or (t.objection? service line)

def responseFailure? (step : AuthStep) : Line → Option Fault
  | .tooLong => some .unreadable
  | .text response =>
      if Text.trim response = "*" then some .cancelled else t.responseFault? service step response

def bodyFailure? : BodyOutcome → Option Fault
  | .tooBig => some .size
  | .complete body =>
      ((t.hold body).runStages service [.data, .handler]).2.map fun _ => .checker

/-- Why a line is refused where a command is expected. -/
def lineFailure? : Line → Option Fault
  | .tooLong => some .parameter
  | .text text =>
      (t.note (.command (CommandLine.parse text))).commandFailure? service (CommandLine.parse text)

/-- Why a client is refused with a signal, if it is. -/
def failure? : Signal → Option Fault
  | .byte b =>
      match t.phase with
      | .command reader =>
          if b = LineReader.byteFeed then
            (t.countRead 1).lineFailure? service (reader.add [b]).finish
          else none
      | .response step reader =>
          if b = LineReader.byteFeed then
            (t.countRead 1).responseFailure? service step (reader.add [b]).finish
          else none
      | .body decoder =>
          if decoder.endsWith b then (t.countRead 1).bodyFailure? service decoder.finish else none
      | .opening | .handshake | .closed => none
  | .handshake none | .ended =>
      match t.phase with
      | .opening | .handshake => some .handshake
      | .command _ | .response _ _ | .body _ | .closed => none
  | .expired =>
      match t.phase with
      | .command _ | .response _ _ => some .timeout
      | .opening | .handshake | .body _ | .closed => none
  | .handshake (some _) => none

end Faults

/-- What came of a command, a response or a body: karma, whether the client was turned down, and
whether the command goes on. -/
inductive Weighed (t after : Turn W) : Option Fault → Prop
  | refused (fault : Fault)
      (hkarma : after.transaction.karma = t.transaction.karma - fault.cost)
      (hreply : fault.chosen ∨ after.TurnedDown) (hphase : ¬ after.phase.Pending) :
      Weighed t after (some fault)
  | spared (hkarma : after.transaction.karma = t.transaction.karma)
      (hreply : ¬ after.TurnedDown) : Weighed t after none
  | rewarded
      (hkarma : after.transaction.karma = t.transaction.karma + Karma.commandExecuted)
      (hreply : ¬ after.TurnedDown) (hphase : ¬ after.phase.Pending) : Weighed t after none

variable {service : Service W} {t after : Turn W} {line : CommandLine}

theorem karma_of_runStage {stage : Stage} {refusal : Option Refusal}
    (hkeeps : service.Keeps fun tx _ => tx.karma)
    (hrun : t.runStage service stage = (after, refusal)) :
    after.transaction.karma = t.transaction.karma :=
  seen_of_runStage (hkeeps.stages stage) hrun

theorem karma_close (hkeeps : service.Keeps fun tx _ => tx.karma) (t : Turn W) :
    (t.close service).transaction.karma = t.transaction.karma := by
  cases hrun : t.runStage service .close with
  | mk after refusal =>
      have hkarma := karma_of_runStage hkeeps hrun
      rw [close_eq service t hrun]
      exact hkarma

/-- What tells a client nothing does not change what it was last told. -/
theorem lastReply?_append {newer : List Event} (hnewer : ∀ e ∈ newer, e.reply? = none)
    (older : List Event) : lastReply? (newer ++ older) = lastReply? older := by
  rw [lastReply?, List.findSome?_append, List.findSome?_eq_none_iff.mpr hnewer, Option.none_or,
    lastReply?]

/-- The end of a connection tells a client nothing. -/
theorem turnedDown_close (service : Service W) (t : Turn W) :
    (t.close service).TurnedDown ↔ t.TurnedDown := by
  cases hrun : t.runStage service .close with
  | mk mid refusal =>
      obtain ⟨newer, hmid, hevents⟩ := newer_of_runStage hrun
      have hsilent : ∀ e ∈ newer, e.reply? = none := by
        intro e he
        rcases hevents e he with ⟨tx, rfl⟩ | ⟨place, answer, rfl⟩
        · rfl
        · rfl
      have hjournal : (t.close service).journal = newer ++ t.journal := by
        rw [close_eq service t hrun]
        exact hmid
      rw [TurnedDown, hjournal, lastReply?_append hsilent, TurnedDown]

theorem turnedDown_reply (told : Turn W) (code : UInt16) (message : String) :
    (told.reply code message).conclude.TurnedDown ↔ Negative code := by
  have hjournal : (told.reply code message).conclude.journal =
      .replied ⟨code, message⟩ :: told.journal := by
    rw [conclude_journal, reply_journal]
  exact turnedDown_iff hjournal

/-- A fault that the server found itself. -/
theorem weighed_refuse (t : Turn W) (fault : Fault) {code : UInt16} (hcode : Negative code)
    (message : String) : Weighed t (t.refuse fault.cost code message).conclude (some fault) := by
  refine .refused fault rfl (.inr ?_) id
  rw [refuse_eq, turnedDown_reply]
  exact hcode

/-- A fault that somebody else found. -/
theorem weighed_chosen (told : Turn W) {fault : Fault} (hchosen : fault.chosen)
    (hkarma : told.transaction.karma = t.transaction.karma - fault.cost) (code : UInt16)
    (message : String) : Weighed t (told.reply code message).conclude (some fault) := by
  refine .refused fault ?_ (.inl hchosen) id
  rw [conclude_transaction, reply_transaction]
  exact hkarma

theorem weighed_spared (told : Turn W) (hkarma : told.transaction.karma = t.transaction.karma)
    {code : UInt16} (hcode : ¬ Negative code) (message : String) :
    Weighed t (told.reply code message).conclude none := by
  refine .spared ?_ ?_
  · rw [conclude_transaction, reply_transaction]
    exact hkarma
  · rwa [turnedDown_reply]

theorem weighed_rewarded (told : Turn W)
    (hkarma : told.transaction.karma = t.transaction.karma + Karma.commandExecuted)
    (message : String) : Weighed t (told.reply 250 message).conclude none := by
  refine .rewarded ?_ ?_ id
  · rw [conclude_transaction, reply_transaction]
    exact hkarma
  · rw [turnedDown_reply]
    decide

/-- The faults that each command can have, in the order in which they are looked for. -/
theorem fault?_of_verb (service : Service W) (t : Turn W) {verb : CommandLine.Verb}
    (hverb : line.verb? = some verb) :
    t.fault? service line = match verb with
      | .helo | .ehlo => if isBare line then some .parameter else none
      | .mail =>
          if t.isUntimely service line then some .order
          else if isMalformed line then some .parameter
          else if isOversized service line then some .size
          else none
      | .rcpt =>
          if t.isUntimely service line then some .order
          else if t.isCrowded service line then some .recipientLimit
          else if isMalformed line then some .parameter
          else none
      | .data => if t.isUntimely service line then some .order else none
      | .rset | .noop | .quit => none
      | .startTls => if t.isUnencryptable service line then some .encryption else none
      | .auth =>
          if isUnknown service line then some .verb
          else if isBare line then some .parameter
          else if t.isUntimely service line then some .order
          else if isObscure line then some .mechanism
          else none
      | .proxy =>
          if isDisabled service line then some .disabled
          else if t.isUntimely service line then some .order
          else if isMalformed line then some .parameter
          else none
      | .xclient =>
          if isDisabled service line then some .disabled
          else if isMalformed line then some .parameter
          else none := by
  cases verb <;>
    simp [fault?, isUnknown, isDisabled, isBare, isUntimely, isCrowded, isMalformed, isOversized,
      isUnencryptable, isObscure, hverb]

/-- A command with a fault, refused for it. -/
theorem weighed_fault {fault : Fault} (hfault : t.fault? service line = some fault) {code : UInt16}
    (hcode : Negative code) (message : String) :
    Weighed t (t.refuse fault.cost code message).conclude (t.commandFailure? service line) := by
  rw [commandFailure?, hfault, Option.some_or]
  exact weighed_refuse t fault hcode message

/-- What is in the way of a sender is that MAIL comes too early or too late. -/
theorem senderObstacle_isSome (service : Service W) (t : Turn W)
    (hverb : line.verb? = some .mail) :
    (senderObstacle service t.transaction).isSome = t.isUntimely service line := by
  rw [senderObstacle]
  simp only [isUntimely, hverb]
  repeat' split
  all_goals simp_all [Option.isSome_iff_ne_none]

/-- What is in the way of authentication, the mechanism and its credentials aside, is that AUTH
comes too early or too late. -/
theorem authObstacle_isSome (service : Service W) (t : Turn W)
    (hverb : line.verb? = some .auth) :
    (authObstacle t.transaction).isSome = t.isUntimely service line := by
  rw [authObstacle]
  simp only [isUntimely, hverb]
  repeat' split
  all_goals simp_all [Option.isSome_iff_ne_none]

/-- About some commands nobody is asked. -/
theorem commandFailure?_of_verb {verb : CommandLine.Verb} (hverb : line.verb? = some verb)
    (hother : verb ∈ [CommandLine.Verb.data, .rset, .noop, .quit, .startTls, .proxy, .xclient]) :
    t.commandFailure? service line = t.fault? service line := by
  have hnobody : t.objection? service line = none := by
    rw [objection?, hverb]
    simp only [List.mem_cons, List.not_mem_nil, or_false] at hother
    rcases hother with rfl | rfl | rfl | rfl | rfl | rfl | rfl <;> rfl
  rw [commandFailure?, hnobody, Option.or_none]

theorem Weighed.of_karma {before : Turn W} {failure : Option Fault}
    (hweighed : Weighed before after failure)
    (hkarma : before.transaction.karma = t.transaction.karma) : Weighed t after failure := by
  cases hweighed with
  | refused fault hpaid hreply hphase => exact .refused fault (hkarma ▸ hpaid) hreply hphase
  | spared hsame hreply => exact .spared (hkarma ▸ hsame) hreply
  | rewarded hearned hreply hphase => exact .rewarded (hkarma ▸ hearned) hreply hphase

section Commands

variable (hkeeps : service.Keeps fun tx _ => tx.karma)

include hkeeps

theorem helo_weighed {protocol : Protocol} (hverb : line.verb? = some protocol.verb) :
    Weighed t (t.helo service protocol line) (t.commandFailure? service line) := by
  rw [helo]
  cases hname : line.argument? with
  | none =>
      have hfault : t.fault? service line = some .parameter := by
        cases protocol <;> simp [fault?_of_verb _ _ hverb, Protocol.verb, isBare, hverb, hname]
      exact weighed_fault hfault (by decide) _
  | some name =>
      cases hrun : (t.introduce protocol name).runStage service .helo with
      | mk mid refusal =>
          have hkarma := karma_of_runStage hkeeps hrun
          have hfailure : t.commandFailure? service line = refusal.map fun _ => .checker := by
            cases protocol <;>
              simp [commandFailure?, fault?_of_verb _ _ hverb, objection?, Protocol.verb, isBare,
                hverb, hname, hrun]
          rw [introduce] at hrun
          simp only [hrun, hfailure]
          cases refusal with
          | none =>
              apply weighed_rewarded (mid.resetEnvelope.reward Karma.commandExecuted)
              exact congrArg (· + Karma.commandExecuted) hkarma
          | some r =>
              apply weighed_chosen (mid.restoreGreeting t.transaction.peer) rfl
              exact hkarma.trans (Int.sub_zero _).symm

theorem proposeSender_weighed (hverb : line.verb? = some .mail)
    (hfault : t.fault? service line = none) {sender : ReversePath}
    (hsender : (pathBehind "FROM" line).bind ReversePath.parse? = some sender) :
    Weighed t (t.proposeSender service sender) (t.commandFailure? service line) := by
  rw [proposeSender]
  cases hrun : (t.setSender (some sender)).runStage service .sender with
  | mk mid refusal =>
      have hkarma := karma_of_runStage hkeeps hrun
      have hfailure : t.commandFailure? service line = refusal.map fun _ => .checker := by
        simp [commandFailure?, hfault, objection?, hverb, hsender, hrun]
      rw [setSender] at hrun
      simp only [hrun, hfailure]
      cases refusal with
      | none =>
          apply weighed_rewarded (mid.reward Karma.commandExecuted)
          exact congrArg (· + Karma.commandExecuted) hkarma
      | some r =>
          apply weighed_chosen (mid.setSender none) rfl
          exact hkarma.trans (Int.sub_zero _).symm

theorem mail_weighed (hverb : line.verb? = some .mail) :
    Weighed t (t.mail service line) (t.commandFailure? service line) := by
  have huntimely := senderObstacle_isSome service t hverb
  have hfault := fault?_of_verb service t hverb
  simp only [← huntimely, isMalformed, isOversized, hverb] at hfault
  rw [mail]
  cases hobstacle : senderObstacle service t.transaction with
  | some obstacle =>
      rw [hobstacle] at hfault
      exact weighed_fault hfault (senderObstacle_negative service hobstacle) _
  | none =>
      cases hpath : pathBehind "FROM" line with
      | none =>
          rw [hobstacle, hpath] at hfault
          exact weighed_fault hfault (by decide) _
      | some path =>
          have hsender : (pathBehind "FROM" line).bind ReversePath.parse? =
              ReversePath.parse? path := by
            rw [hpath, Option.bind_some]
          rw [hobstacle, hsender] at hfault
          simp only
          cases hparse : ReversePath.parse? path with
          | none =>
              rw [hparse] at hfault
              exact weighed_fault hfault (by decide) _
          | some sender =>
              rw [hparse] at hfault
              simp only
              split
              · next hbig =>
                  rw [hbig] at hfault
                  exact weighed_fault hfault (by decide) _
              · next hsmall =>
                  have hnone : t.fault? service line = none := by
                    simpa [hsmall] using hfault
                  exact proposeSender_weighed hkeeps hverb hnone (hsender.trans hparse)

theorem proposeRecipient_weighed (hverb : line.verb? = some .rcpt)
    (hfault : t.fault? service line = none) {recipient : ForwardPath}
    (hrecipient : (pathBehind "TO" line).bind ForwardPath.parse? = some recipient) :
    Weighed t (t.proposeRecipient service recipient) (t.commandFailure? service line) := by
  rw [proposeRecipient]
  cases hrun : t.runStage service (.recipient recipient) with
  | mk mid refusal =>
      have hkarma := karma_of_runStage hkeeps hrun
      have hfailure : t.commandFailure? service line = refusal.map fun _ => .recipient := by
        simp [commandFailure?, hfault, objection?, hverb, hrecipient, hrun]
      simp only [hfailure]
      cases refusal with
      | none =>
          -- Only the first recipient is rewarded.
          by_cases hfirst : mid.transaction.envelope.recipients.isEmpty
          · simp only [if_pos hfirst]
            apply weighed_rewarded ((mid.reward Karma.commandExecuted).addRecipient recipient)
            exact congrArg (· + Karma.commandExecuted) hkarma
          · simp only [if_neg hfirst]
            exact weighed_spared (mid.addRecipient recipient) hkarma (by decide) _
      | some r =>
          apply weighed_chosen (mid.penalize Karma.recipientRejected) rfl
          exact congrArg (· - Karma.recipientRejected) hkarma

theorem rcpt_weighed (hverb : line.verb? = some .rcpt) :
    Weighed t (t.rcpt service line) (t.commandFailure? service line) := by
  have hfault := fault?_of_verb service t hverb
  simp only [isUntimely, isCrowded, isMalformed, hverb] at hfault
  rw [rcpt]
  split
  · next hsender =>
      rw [hsender] at hfault
      exact weighed_fault hfault (by decide) _
  · next hsender =>
      split
      · next hfull =>
          simp only [hsender, hfull] at hfault
          exact weighed_fault hfault (by decide) _
      · next hroom =>
          simp only [hsender, hroom] at hfault
          cases hpath : pathBehind "TO" line with
          | none =>
              rw [hpath] at hfault
              exact weighed_fault hfault (by decide) _
          | some path =>
              have hrecipient : (pathBehind "TO" line).bind ForwardPath.parse? =
                  ForwardPath.parse? path := by
                rw [hpath, Option.bind_some]
              rw [hrecipient] at hfault
              simp only
              cases hparse : ForwardPath.parse? path with
              | none =>
                  rw [hparse] at hfault
                  exact weighed_fault hfault (by decide) _
              | some recipient =>
                  rw [hparse] at hfault
                  exact proposeRecipient_weighed hkeeps hverb hfault (hrecipient.trans hparse)

omit hkeeps in
/-- A reply that asks for more. -/
theorem weighed_asked {code : UInt16} (hcode : ¬ Negative code) (message : String) (phase : Phase) :
    Weighed t ((t.reply code message).inPhase phase) none := by
  have hjournal : ((t.reply code message).inPhase phase).journal =
      .replied ⟨code, message⟩ :: t.journal := by
    rw [inPhase_journal, reply_journal]
  apply Weighed.spared
  · rw [inPhase_transaction, reply_transaction]
  · rwa [turnedDown_iff hjournal]

omit hkeeps in
theorem challenge_weighed (step : AuthStep) : Weighed t (t.challenge step) none := by
  apply Weighed.spared
  · rw [challenge_transaction]
  · have hcode : ¬ Negative 334 := by decide
    rwa [turnedDown_iff (challenge_journal t step)]

omit hkeeps in
theorem data_weighed (hverb : line.verb? = some .data) :
    Weighed t (t.data service) (t.commandFailure? service line) := by
  have hfault := fault?_of_verb service t hverb
  simp only [isUntimely, hverb] at hfault
  rw [data]
  split
  · next hsender =>
      rw [hsender] at hfault
      exact weighed_fault hfault (by decide) _
  · next hsender =>
      split
      · next hrecipients =>
          simp only [hsender, hrecipients] at hfault
          exact weighed_fault hfault (by decide) _
      · next hrecipients =>
          simp only [hsender, hrecipients] at hfault
          rw [commandFailure?_of_verb hverb (by simp), hfault]
          exact weighed_asked (by decide) _ _

omit hkeeps in
theorem startTls_weighed (hverb : line.verb? = some .startTls) :
    Weighed t (t.startTls service) (t.commandFailure? service line) := by
  have hfault := fault?_of_verb service t hverb
  simp only [isUnencryptable, hverb] at hfault
  rw [startTls]
  split
  · next hencrypted =>
      rw [hencrypted] at hfault
      exact weighed_fault hfault (by decide) _
  · next hplain =>
      split
      · next hoffers =>
          have hnone : t.fault? service line = some .encryption := by
            simpa [hplain, hoffers] using hfault
          exact weighed_fault hnone (by decide) _
      · next hoffers =>
          have hnone : t.fault? service line = none := by
            rw [hfault]
            simpa [hplain] using hoffers
          rw [commandFailure?_of_verb hverb (by simp), hnone]
          exact weighed_asked (by decide) _ _

theorem judge_weighed (username password : String) :
    Weighed t (t.judge service username password) (t.judgement? service username password) := by
  rw [judge, judgement?]
  cases hauthenticator : service.authenticator with
  | none => exact weighed_refuse t .verb (by decide) _
  | some authenticator =>
      have hkarma : (t.questioned authenticator username password).transaction.karma =
          t.transaction.karma :=
        hkeeps.authenticator authenticator hauthenticator username password t.transaction t.world
      simp only
      cases hverdict : (authenticator username password t.transaction t.world).refusal with
      | none =>
          have hcode : ¬ Negative 235 := by decide
          have haccepted := weighed_spared (t := t)
            ((t.questioned authenticator username password).signIn username password) hkarma hcode
            "OK, you are now authenticated"
          simpa only [hverdict, questioned, note, signIn, Option.map_none] using haccepted
      | some r =>
          have hchosen : Fault.credentials.chosen := rfl
          have hrejected := weighed_chosen (t := t)
            ((t.questioned authenticator username password).penalize Karma.authenticationFailed)
            hchosen (congrArg (· - Karma.authenticationFailed) hkarma) r.code r.message
          simpa only [hverdict, questioned, note, Option.map_some, replyRefusal] using hrejected

theorem respond_weighed (step : AuthStep) (response : String) :
    Weighed t (t.respond service step response) (t.responseFault? service step response) := by
  cases step with
  | credentials =>
      rw [respond, responseFault?]
      cases Sasl.decodePlain response with
      | error e => exact weighed_refuse t .unreadable (by decide) _
      | ok c => exact judge_weighed hkeeps _ _
  | username =>
      rw [respond, responseFault?]
      cases Sasl.decodeLogin response with
      | error e => exact weighed_refuse t .unreadable (by decide) _
      | ok username => exact challenge_weighed (.password username)
  | password username =>
      rw [respond, responseFault?]
      cases Sasl.decodeLogin response with
      | error e => exact weighed_refuse t .unreadable (by decide) _
      | ok password => exact judge_weighed hkeeps _ _

theorem takeResponse_weighed (step : AuthStep) (response : Line) :
    Weighed t (t.takeResponse service step response)
      (t.responseFailure? service step response) := by
  cases response with
  | tooLong => exact weighed_refuse t .unreadable (by decide) _
  | text text =>
      rw [takeResponse, responseFailure?]
      by_cases hcancel : Text.trim text = "*"
      · rw [if_pos hcancel, if_pos hcancel, ← refuse_zero]
        exact weighed_refuse t .cancelled (by decide) _
      · rw [if_neg hcancel, if_neg hcancel]
        exact respond_weighed hkeeps step text

theorem exchange_weighed {mechanism : Sasl.Mechanism}
    (hmechanism : mechanism? line = some mechanism) :
    Weighed t (t.exchange service mechanism line.fields[2]?)
      ((firstResponse? line).bind fun first => t.responseFault? service first.1 first.2) := by
  cases mechanism with
  | plain =>
      cases hinitial : line.fields[2]? with
      | none =>
          have hfirst : firstResponse? line = none := by
            simp [firstResponse?, hmechanism, hinitial]
          rw [hfirst, Option.bind_none]
          exact challenge_weighed .credentials
      | some response =>
          by_cases hlone : response = "="
          · have hfirst : firstResponse? line = none := by
              simp [firstResponse?, hmechanism, hinitial, hlone]
            rw [hfirst, Option.bind_none]
            simp only [exchange, if_pos hlone]
            exact challenge_weighed .credentials
          · have hfirst : firstResponse? line = some (.credentials, response) := by
              simp [firstResponse?, hmechanism, hinitial, hlone]
            rw [hfirst, Option.bind_some]
            simp only [exchange, if_neg hlone]
            exact respond_weighed hkeeps .credentials response
  | login =>
      cases hinitial : line.fields[2]? with
      | none =>
          have hfirst : firstResponse? line = none := by
            simp [firstResponse?, hmechanism, hinitial]
          rw [hfirst, Option.bind_none]
          exact challenge_weighed .username
      | some response =>
          have hfirst : firstResponse? line = some (.username, response) := by
            simp [firstResponse?, hmechanism, hinitial]
          rw [hfirst, Option.bind_some]
          exact respond_weighed hkeeps .username response

theorem auth_weighed (hverb : line.verb? = some .auth) :
    Weighed t (t.auth service line) (t.commandFailure? service line) := by
  have huntimely := authObstacle_isSome service t hverb
  have hfault := fault?_of_verb service t hverb
  simp only [isUnknown, isBare, ← huntimely, isObscure, hverb] at hfault
  rw [auth]
  split
  · next hnobody =>
      rw [hnobody] at hfault
      exact weighed_fault hfault (by decide) _
  · next hsomebody =>
      simp only [hsomebody] at hfault
      cases hname : line.argument? with
      | none =>
          rw [hname] at hfault
          exact weighed_fault hfault (by decide) _
      | some name =>
          rw [hname] at hfault
          simp only
          cases hobstacle : authObstacle t.transaction with
          | some obstacle =>
              rw [hobstacle] at hfault
              exact weighed_fault hfault (authObstacle_negative hobstacle) _
          | none =>
              have hmechanism : mechanism? line = (Sasl.Mechanism.parse name).toOption := by
                rw [mechanism?, hname, Option.bind_some]
              rw [hobstacle, hmechanism] at hfault
              simp only
              cases hparse : Sasl.Mechanism.parse name with
              | error e =>
                  rw [hparse] at hfault
                  have hsome : t.fault? service line = some .mechanism := hfault
                  simp only
                  rw [← refuse_zero]
                  exact weighed_fault hsome (by decide) _
              | ok mechanism =>
                  rw [hparse] at hfault hmechanism
                  have hfailure : t.commandFailure? service line =
                      (firstResponse? line).bind fun first =>
                        t.responseFault? service first.1 first.2 := by
                    rw [commandFailure?, hfault, objection?, hverb]
                    rfl
                  rw [hfailure]
                  exact exchange_weighed hkeeps hmechanism

omit hkeeps in
theorem proxy_weighed (hverb : line.verb? = some .proxy) :
    Weighed t (t.proxy service line) (t.commandFailure? service line) := by
  have hfault := fault?_of_verb service t hverb
  simp only [isDisabled, isUntimely, isMalformed, hverb] at hfault
  rw [proxy]
  split
  · next hdisabled =>
      have hsome : t.fault? service line = some .disabled := by
        simpa [hdisabled] using hfault
      rw [← refuse_zero]
      exact weighed_fault hsome (by decide) _
  · next hswitch =>
      have henabled : service.settings.enableProxyProtocol = true := by simpa using hswitch
      split
      · next hlate =>
          have hsome : t.fault? service line = some .order := by
            simpa [henabled, hlate] using hfault
          exact weighed_fault hsome (by decide) _
      · next hfirst =>
          cases hparse : ProxyHeader.ofFields line.fields with
          | error e =>
              have hsome : t.fault? service line = some .parameter := by
                simpa [henabled, hfirst, hparse, Except.isOk, Except.toBool] using hfault
              exact weighed_fault hsome (by decide) _
          | ok header =>
              have hnone : t.fault? service line = none := by
                simpa [henabled, hfirst, hparse, Except.isOk, Except.toBool] using hfault
              have hcode : ¬ Negative 220 := by decide
              rw [commandFailure?_of_verb hverb (by simp), hnone]
              exact weighed_spared (t := t) (t.relocate service header.source) rfl hcode _

omit hkeeps in
theorem xclient_weighed (hverb : line.verb? = some .xclient) :
    Weighed t (t.xclient service line) (t.commandFailure? service line) := by
  have hfault := fault?_of_verb service t hverb
  simp only [isDisabled, isMalformed, hverb] at hfault
  rw [xclient]
  split
  · next hdisabled =>
      have hsome : t.fault? service line = some .disabled := by
        simpa [hdisabled] using hfault
      rw [← refuse_zero]
      exact weighed_fault hsome (by decide) _
  · next hswitch =>
      have henabled : service.settings.enableXclient = true := by simpa using hswitch
      cases hparse : XClientAttributes.parse line.arguments with
      | error e =>
          have hsome : t.fault? service line = some .parameter := by
            simpa [henabled, hparse, Except.isOk, Except.toBool] using hfault
          exact weighed_fault hsome (by decide) _
      | ok attributes =>
          have hnone : t.fault? service line = none := by
            simpa [henabled, hparse, Except.isOk, Except.toBool] using hfault
          have hcode : ¬ Negative 220 := by decide
          have hmoved : (t.moveTo service attributes).transaction.karma = t.transaction.karma := by
            rw [moveTo]
            split
            · rfl
            · rfl
          rw [commandFailure?_of_verb hverb (by simp), hnone]
          exact weighed_spared ((t.moveTo service attributes).mapPeer (withAttributes attributes))
            hmoved hcode _

theorem quit_weighed (hverb : line.verb? = some .quit) :
    Weighed t (t.quit service) (t.commandFailure? service line) := by
  have hshape : ∃ message, t.quit service = (t.reply 221 message).countCommand.close service :=
    ⟨_, rfl⟩
  obtain ⟨message, hquit⟩ := hshape
  have hcode : ¬ Negative 221 := by decide
  rw [commandFailure?_of_verb hverb (by simp), fault?_of_verb _ _ hverb, hquit]
  apply Weighed.spared
  · rw [karma_close hkeeps, countCommand_transaction, reply_transaction]
  · have hjournal : (t.reply 221 message).countCommand.journal =
        .replied ⟨221, message⟩ :: t.journal := by
      rw [countCommand_journal, reply_journal]
    rwa [turnedDown_close, turnedDown_iff hjournal]

/-- A command is refused for its failure, if it has one. -/
theorem dispatch_weighed : Weighed (t.note (.command line)) (t.dispatch service line)
    ((t.note (.command line)).commandFailure? service line) := by
  rw [dispatch]
  have hcode : ¬ Negative 250 := by decide
  cases hverb : line.verb? with
  | none =>
      have hfault : (t.note (.command line)).fault? service line = some .verb := by
        simp [fault?, isUnknown, hverb]
      exact weighed_fault hfault (by decide) _
  | some verb =>
      cases verb with
      | helo => exact helo_weighed hkeeps hverb
      | ehlo => exact helo_weighed hkeeps hverb
      | mail => exact mail_weighed hkeeps hverb
      | rcpt => exact rcpt_weighed hkeeps hverb
      | data => exact data_weighed hverb
      | rset =>
          rw [commandFailure?_of_verb hverb (by simp), fault?_of_verb _ _ hverb]
          exact weighed_spared (t := t.note (.command line)) (t.note (.command line)).resetEnvelope
            rfl hcode _
      | noop =>
          rw [commandFailure?_of_verb hverb (by simp), fault?_of_verb _ _ hverb]
          exact weighed_spared (t := t.note (.command line)) (t.note (.command line)) rfl hcode _
      | quit => exact quit_weighed hkeeps hverb
      | startTls => exact startTls_weighed hverb
      | auth => exact auth_weighed hkeeps hverb
      | proxy => exact proxy_weighed hverb
      | xclient => exact xclient_weighed hverb

theorem takeLine_weighed (read : Line) :
    Weighed t (t.takeLine service read) (t.lineFailure? service read) := by
  cases read with
  | text text =>
      rw [takeLine, lineFailure?]
      exact (dispatch_weighed hkeeps).of_karma rfl
  | tooLong =>
      refine .refused .parameter rfl (.inr ?_) id
      have hjournal : (t.takeLine service .tooLong).journal =
          .replied ⟨500, "5.5.2 Line too long"⟩ :: (t.note .overlong).journal := by
        rw [takeLine, awaitCommand_journal, refuse_eq, reply_journal]
        rfl
      rw [turnedDown_iff hjournal]
      decide

theorem karma_of_runStages (stages : List Stage) {refusal : Option Refusal}
    (hrun : t.runStages service stages = (after, refusal)) :
    after.transaction.karma = t.transaction.karma := by
  induction stages generalizing t with
  | nil =>
      cases hrun
      rfl
  | cons stage more ih =>
      rw [runStages] at hrun
      cases hfirst : t.runStage service stage with
      | mk mid verdict =>
          have hmid := karma_of_runStage hkeeps hfirst
          rw [hfirst] at hrun
          cases verdict with
          | none => exact (ih hrun).trans hmid
          | some r =>
              cases hrun
              exact hmid

theorem endBody_weighed (outcome : BodyOutcome) :
    Weighed t (t.endBody service outcome) (t.bodyFailure? service outcome) := by
  cases outcome with
  | tooBig =>
      apply Weighed.refused .size rfl (.inr _) id
      exact (turnedDown_reply _ _ _).mpr (by decide)
  | complete body =>
      rw [bodyFailure?]
      cases hrun : (t.hold body).runStages service [.data, .handler] with
      | mk mid refusal =>
          have hkarma := karma_of_runStages hkeeps _ hrun
          rw [hold] at hrun
          simp only [endBody, takeMessage, hrun]
          cases refusal with
          | none =>
              apply weighed_rewarded
                (mid.countMessage.reward Karma.commandExecuted).resetEnvelope
              exact congrArg (· + Karma.commandExecuted) hkarma
          | some r =>
              apply weighed_chosen mid.resetEnvelope rfl
              exact hkarma.trans (Int.sub_zero _).symm

/-- A line is weighed when its last byte arrives. -/
theorem feed_weighed {reader : LineReader} (hphase : t.phase = .command reader) :
    Weighed t (t.heed service (.byte LineReader.byteFeed))
      (t.failure? service (.byte LineReader.byteFeed)) := by
  have htaken := takeLine_weighed (t := t.countRead 1) hkeeps
    (reader.add [LineReader.byteFeed]).finish
  simp only [heed, takeByte, failure?, hphase, if_true]
  exact htaken.of_karma rfl

/-- A signal at which nobody is told anything, and nothing is paid. -/
structure Untold (service : Service W) (t : Turn W) (signal : Signal) : Prop where
  failure : t.failure? service signal = none
  karma : (t.heed service signal).transaction.karma = t.transaction.karma
  turnedDown : (t.heed service signal).TurnedDown ↔ t.TurnedDown

/-- Every signal behind the opening of a connection is weighed, or nobody is told anything. -/
theorem heed_weighed (hopening : t.phase ≠ .opening) (signal : Signal) :
    Weighed t (t.heed service signal) (t.failure? service signal) ∨ Untold service t signal := by
  have hmove := heed_move service t signal
  generalize hafter : t.heed service signal = after at hmove
  -- Where nothing happens, nothing is failed for either.
  have hsame (hfailure : t.failure? service signal = none) (hkarma : after.transaction.karma =
      t.transaction.karma) (hdown : after.TurnedDown ↔ t.TurnedDown) :
      Weighed t after (t.failure? service signal) ∨ Untold service t signal :=
    .inr ⟨hfailure, hafter ▸ hkarma, hafter ▸ hdown⟩
  have hclosed (hfailure : t.failure? service signal = none) (hclose : after = t.close service) :
      Weighed t after (t.failure? service signal) ∨ Untold service t signal := by
    apply hsame hfailure
    · rw [hclose, karma_close hkeeps]
    · rw [hclose, turnedDown_close]
  cases hmove with
  | unheard b hphase =>
      refine hsame ?_ rfl Iff.rfl
      rcases hphase with hphase | hphase | hphase <;> simp [failure?, hphase]
  | unasked result hphase =>
      refine hsame ?_ rfl Iff.rfl
      cases result with
      | some h => rfl
      | none =>
          cases hbefore : t.phase with
          | opening => exact absurd hbefore hphase.1
          | handshake => exact absurd hbefore hphase.2
          | command | response | body | closed => simp only [failure?, hbefore]
  | finished signal hphase =>
      refine hsame ?_ rfl Iff.rfl
      rcases signal with b | (_ | h) | _ | _ <;> simp [failure?, hphase]
  | passed b phase hpasses =>
      refine hsame ?_ rfl Iff.rfl
      generalize hbefore : t.phase = before at hpasses
      cases hpasses with
      | command reader hb => simp [failure?, hbefore, hb]
      | response step reader hb => simp [failure?, hbefore, hb]
      | body decoder hb => simp [failure?, hbefore, hb]
  | overlong reader hphase hline =>
      rw [← hafter]
      exact .inl (feed_weighed hkeeps hphase)
  | handled reader text _ hphase hline hhandled =>
      rw [← hafter]
      exact .inl (feed_weighed hkeeps hphase)
  | exchanged step reader _ hphase hexchanged =>
      have htaken := takeResponse_weighed (t := t.countRead 1) hkeeps step
        (reader.add [LineReader.byteFeed]).finish
      left
      simp only [← hafter, heed, takeByte, failure?, hphase, if_true]
      exact htaken.of_karma rfl
  | bodyEnded b outcome _ hread hended =>
      obtain ⟨decoder, hphase, hends, hfinish⟩ := hread
      have htaken := endBody_weighed (t := t.countRead 1) hkeeps decoder.finish
      left
      simp only [← hafter, heed, takeByte, failure?, hphase, if_pos hends]
      exact htaken.of_karma rfl
  | opened h _ hphase hbegun => exact absurd hphase hopening
  | openingFailed signal hphase hsignal => exact absurd hphase hopening
  | upgraded h hphase => exact hsame rfl rfl Iff.rfl
  | upgradeFailed signal hphase hsignal =>
      have hfailure : t.failure? service signal = some .handshake := by
        rcases hsignal with rfl | rfl <;> simp [failure?, hphase]
      left
      rw [hfailure]
      refine .refused .handshake ?_ (.inr ?_) id
      · rw [karma_close hkeeps]
        rfl
      · rw [turnedDown_close]
        have hjournal :
            (t.refuse Karma.handshakeFailed 550 "Handshake error").countCommand.journal =
              .replied ⟨550, "Handshake error"⟩ :: t.journal := by
          rw [countCommand_journal, refuse_eq, reply_journal]
          rfl
        rw [turnedDown_iff hjournal]
        decide
  | ended hphase =>
      refine hclosed ?_ rfl
      obtain ⟨-, hhandshake, -⟩ := hphase
      cases hbefore : t.phase with
      | opening => exact absurd hbefore hopening
      | handshake => exact absurd hbefore hhandshake
      | command | response | body | closed => simp only [failure?, hbefore]
  | timedOut hphase =>
      have hfailure : t.failure? service .expired = some .timeout := by
        rcases hphase with ⟨reader, hphase⟩ | ⟨step, reader, hphase⟩ <;> simp [failure?, hphase]
      left
      rw [hfailure]
      refine .refused .timeout ?_ (.inr ?_) id
      · rw [karma_close hkeeps, reply_transaction]
        exact (Int.sub_zero _).symm
      · rw [turnedDown_close, turnedDown_iff (reply_journal t 421 _)]
        decide
  | expired hphase =>
      refine hclosed ?_ rfl
      rcases hphase with hphase | hphase | ⟨decoder, hphase⟩ <;> simp [failure?, hphase]

/-- The beginning of a connection costs nothing. -/
theorem Begun.karma_eq (hbegun : Begun service t after) :
    after.transaction.karma = t.transaction.karma := by
  cases hbegun with
  | refused mid r hrun =>
      have hmid := karma_of_runStage hkeeps hrun
      rw [karma_close hkeeps, replyRefusal_eq, reply_transaction]
      exact hmid
  | greeted mid hrun =>
      have hmid := karma_of_runStage hkeeps hrun
      rw [awaitCommand_transaction, greet, reply_transaction]
      exact hmid

/-- A connection that opens costs nothing, unless its handshake fails. -/
theorem opening_karma (hopening : t.phase = .opening) (signal : Signal) :
    (t.heed service signal).transaction.karma =
      t.transaction.karma - (t.failure? service signal).elim 0 Fault.cost := by
  have hfailed : (t.endHandshake service none).transaction.karma =
      t.transaction.karma - Fault.handshake.cost := by
    simp only [endHandshake, hopening]
    rw [karma_close hkeeps]
    rfl
  cases signal with
  | byte b => simp [heed, takeByte, failure?, hopening]
  | handshake result =>
      cases result with
      | none => simpa only [heed, failure?, hopening, Option.elim] using hfailed
      | some h =>
          have hbegun := (begin_begun service (t.encrypt h)).karma_eq hkeeps
          simp only [heed, endHandshake, hopening, failure?, Option.elim, Int.sub_zero]
          exact hbegun
  | ended => simpa only [heed, endInput, failure?, hopening, Option.elim] using hfailed
  | expired =>
      simp only [heed, expire, failure?, hopening, karma_close hkeeps]
      exact (Int.sub_zero _).symm

end Commands

/-- With `signal`, behind `earlier`, the command that `t` waits for goes one step further: its line
ends, or it was not over yet. -/
inductive CommandAt (service : Service W) (t : Turn W) : List Signal → Signal → Prop
  | line (bytes : List UInt8) (hbytes : LineReader.byteFeed ∉ bytes) :
      CommandAt service t (bytes.map .byte) (.byte LineReader.byteFeed)
  | more (earlier : List Signal) (signal next : Signal)
      (hbefore : CommandAt service t earlier signal)
      (hpending : ((t.heedAll service earlier).heed service signal).phase.Pending) :
      CommandAt service t (earlier ++ [signal]) next

/-- However long a command goes on, it is weighed against the turn with which it began. -/
theorem CommandAt.weighed {reader : LineReader} {earlier : List Signal} {signal : Signal}
    (hkeeps : service.Keeps fun tx _ => tx.karma) (hphase : t.phase = .command reader)
    (hcommand : CommandAt service t earlier signal) :
    Weighed t ((t.heedAll service earlier).heed service signal)
      ((t.heedAll service earlier).failure? service signal) := by
  induction hcommand with
  | line bytes hbytes =>
      obtain ⟨next, hnext, htransaction⟩ := heedAll_unended service hphase bytes hbytes
      exact (feed_weighed hkeeps hnext).of_karma (congrArg Transaction.karma htransaction)
  | more earlier signal next _ hpending ih =>
      have hconcat : t.heedAll service (earlier ++ [signal]) =
          (t.heedAll service earlier).heed service signal := by
        rw [heedAll_append]
        rfl
      rw [hconcat]
      generalize (t.heedAll service earlier).heed service signal = before at hpending ih
      generalize (t.heedAll service earlier).failure? service signal = failure at ih
      have hopening : before.phase ≠ .opening := by
        intro hbefore
        rw [hbefore] at hpending
        exact hpending
      -- Whatever has been paid or told, the command is over then.
      cases ih with
      | refused fault hkarma hreply hover => exact absurd hpending hover
      | rewarded hkarma hreply hover => exact absurd hpending hover
      | spared hkarma hreply =>
          rcases heed_weighed hkeeps hopening next with hweighed | huntold
          · exact hweighed.of_karma hkarma
          · rw [huntold.failure]
            apply Weighed.spared
            · exact huntold.karma.trans hkarma
            · rwa [huntold.turnedDown]

/-- What a signal does to karma: the price of a failure is paid, or one reward earned. -/
theorem heed_karma (hkeeps : service.Keeps fun tx _ => tx.karma) (t : Turn W) (signal : Signal) :
    (t.heed service signal).transaction.karma =
        t.transaction.karma - (t.failure? service signal).elim 0 Fault.cost ∨
      t.failure? service signal = none ∧
        (t.heed service signal).transaction.karma =
          t.transaction.karma + Karma.commandExecuted := by
  by_cases hopening : t.phase = .opening
  · exact .inl (opening_karma hkeeps hopening signal)
  · rcases heed_weighed hkeeps hopening signal with hweighed | huntold
    · generalize t.failure? service signal = failure at hweighed
      cases hweighed with
      | refused fault hkarma hreply hphase => exact .inl hkarma
      | spared hkarma hreply => exact .inl (hkarma.trans (Int.sub_zero _).symm)
      | rewarded hkarma hreply hphase => exact .inr ⟨rfl, hkarma⟩
    · rw [huntold.failure]
      exact .inl (huntold.karma.trans (Int.sub_zero _).symm)

/-- The last thing that the client was told is that something worked. -/
def Satisfied (t : Turn W) : Prop :=
  ∃ reply ∈ lastReply? t.journal, 200 ≤ reply.code.toNat ∧ reply.code.toNat < 300

instance (t : Turn W) : Decidable t.Satisfied :=
  inferInstanceAs (Decidable (∃ _ ∈ _, _))

theorem Satisfied.not_turnedDown (hsatisfied : t.Satisfied) : ¬ t.TurnedDown := by
  rintro ⟨reply, hreply, hlow, -⟩
  obtain ⟨same, hsame, -, hhigh⟩ := hsatisfied
  cases hreply.symm.trans hsame
  omega

namespace Weighed

variable {failure : Option Fault}

theorem karma_eq {fault : Fault} (hweighed : Weighed t after (some fault)) :
    after.transaction.karma = t.transaction.karma - fault.cost := by
  cases hweighed with
  | refused fault hkarma hreply hphase => exact hkarma

/-- Whoever has a fault is turned down, unless somebody else chose the reply. -/
theorem turnedDown {fault : Fault} (hweighed : Weighed t after (some fault))
    (hfixed : fault.chosen = false) : after.TurnedDown := by
  cases hweighed with
  | refused fault hkarma hreply hphase =>
      rw [hfixed] at hreply
      exact hreply.resolve_left Bool.false_ne_true

/-- Nobody earns anything by being turned down. -/
theorem le_of_turnedDown (hweighed : Weighed t after failure) (hdown : after.TurnedDown) :
    after.transaction.karma ≤ t.transaction.karma := by
  cases hweighed with
  | refused fault hkarma hreply hphase =>
      rw [hkarma]
      have hcost := fault.cost_nonneg
      omega
  | spared hkarma hreply => exact absurd hdown hreply
  | rewarded hkarma hreply hphase => exact absurd hdown hreply

/-- Nobody is turned down without a fault. -/
theorem isSome_of_turnedDown (hweighed : Weighed t after failure) (hdown : after.TurnedDown) :
    failure.isSome := by
  cases hweighed with
  | refused fault hkarma hreply hphase => rfl
  | spared hkarma hreply => exact absurd hdown hreply
  | rewarded hkarma hreply hphase => exact absurd hdown hreply

/-- Nobody pays who is satisfied, unless the reply was chosen by a checker of recipients or by the
authenticator, who had refused. -/
theorem le_of_satisfied (hweighed : Weighed t after failure) (hsatisfied : after.Satisfied)
    (hrecipient : failure ≠ some .recipient) (hcredentials : failure ≠ some .credentials) :
    t.transaction.karma ≤ after.transaction.karma := by
  cases hweighed with
  | refused fault hkarma hreply hphase =>
      have hchosen := hreply.resolve_right hsatisfied.not_turnedDown
      cases fault with
      | checker =>
          rw [hkarma]
          exact Int.le_of_eq (Int.sub_zero _).symm
      | recipient => exact absurd rfl hrecipient
      | credentials => exact absurd rfl hcredentials
      | order | parameter | size | recipientLimit | unreadable | verb | encryption | handshake
      | mechanism | cancelled | disabled | timeout => cases hchosen
  | spared hkarma hreply => exact Int.le_of_eq hkarma.symm
  | rewarded hkarma hreply hphase =>
      rw [hkarma]
      exact Int.le_add_of_nonneg_right (by decide)

end Weighed

end Turn
end MailIntake
