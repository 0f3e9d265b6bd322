import MailIntake.Proofs.Session.Check
import MailIntake.Proofs.Session.Fields
/-!
What a line or a body does to a connection does not depend on how it was read: a phase is written
and never looked at on the way to the next one.
-/
namespace MailIntake.Turn

universe u

variable {W : Type u} (service : Service W) (t : Turn W) (phase : Phase)

@[simp]
theorem inPhase_commands : (t.inPhase phase).commands = t.commands := rfl

@[simp]
theorem note_inPhase (e : Event) : (t.inPhase phase).note e = (t.note e).inPhase phase := rfl

@[simp]
theorem mapTransaction_inPhase (f : Transaction → Transaction) :
    (t.inPhase phase).mapTransaction f = (t.mapTransaction f).inPhase phase := rfl

@[simp]
theorem countMessage_inPhase :
    (t.inPhase phase).countMessage = t.countMessage.inPhase phase := rfl

@[simp]
theorem reply_inPhase (code : UInt16) (message : String) :
    (t.inPhase phase).reply code message = (t.reply code message).inPhase phase := rfl

theorem refuse_inPhase (cost : Int) (code : UInt16) (message : String) :
    (t.inPhase phase).refuse cost code message = (t.refuse cost code message).inPhase phase := rfl

theorem garbled_inPhase (e : Sasl.Error) : (t.inPhase phase).garbled e = t.garbled e := rfl

@[simp]
theorem conclude_inPhase : (t.inPhase phase).conclude = t.conclude := rfl

@[simp]
theorem awaitCommand_inPhase : (t.inPhase phase).awaitCommand = t.awaitCommand := rfl

@[simp]
theorem challenge_inPhase (step : AuthStep) :
    (t.inPhase phase).challenge step = t.challenge step := rfl

theorem check_inPhase (stage : Stage) (place : Nat) (checkers : List (Checker W)) :
    check stage place checkers (t.inPhase phase) =
      ((check stage place checkers t).1.inPhase phase, (check stage place checkers t).2) :=
  check_map (f := fun t => t.inPhase phase) (fun _ => ⟨rfl, rfl⟩) (fun _ _ _ _ => rfl) stage place
    checkers t

@[simp]
theorem runStage_inPhase (stage : Stage) :
    (t.inPhase phase).runStage service stage =
      ((t.runStage service stage).1.inPhase phase, (t.runStage service stage).2) :=
  check_inPhase (t.note (.stage stage t.transaction)) phase stage 0 _

/-- The end of a connection behind its last stage. -/
theorem close_eq {after : Turn W} {refusal : Option Refusal}
    (hrun : t.runStage service .close = (after, refusal)) :
    t.close service =
      (after.mapTransaction fun tx => { tx with shared := tx.finish }).inPhase .closed := by
  rw [close, hrun]
  rfl

@[simp]
theorem close_inPhase : (t.inPhase phase).close service = t.close service := by
  simp only [close, runStage_inPhase]
  rfl

@[simp]
theorem greetingText_inPhase (protocol : Protocol) :
    greetingText service protocol (t.inPhase phase) = greetingText service protocol t := by
  cases protocol with
  | smtp => rfl
  | esmtp => rfl

@[simp]
theorem helo_inPhase (protocol : Protocol) (line : CommandLine) :
    (t.inPhase phase).helo service protocol line = t.helo service protocol line := by
  rw [helo, helo]
  split
  · rfl
  · simp only [mapPeer_eq, mapTransaction_inPhase, runStage_inPhase]
    generalize runStage service .helo _ = run
    obtain ⟨after, refusal⟩ := run
    cases refusal with
    | none => simp
    | some r => simp

@[simp]
theorem proposeSender_inPhase (sender : ReversePath) :
    (t.inPhase phase).proposeSender service sender = t.proposeSender service sender := by
  simp only [proposeSender, mapEnvelope_eq, mapTransaction_inPhase, runStage_inPhase]
  generalize runStage service .sender _ = run
  obtain ⟨after, refusal⟩ := run
  cases refusal with
  | none => simp
  | some r => simp

@[simp]
theorem mail_inPhase (line : CommandLine) :
    (t.inPhase phase).mail service line = t.mail service line := by
  simp only [mail, inPhase_transaction, refuse_inPhase, conclude_inPhase, proposeSender_inPhase]

@[simp]
theorem proposeRecipient_inPhase (recipient : ForwardPath) :
    (t.inPhase phase).proposeRecipient service recipient =
      t.proposeRecipient service recipient := by
  simp only [proposeRecipient, runStage_inPhase]
  generalize runStage service (.recipient recipient) _ = run
  obtain ⟨after, refusal⟩ := run
  cases refusal with
  | none =>
      by_cases hfirst : after.transaction.envelope.recipients.isEmpty
      · simp [hfirst]
      · simp [hfirst]
  | some r => simp

@[simp]
theorem rcpt_inPhase (line : CommandLine) :
    (t.inPhase phase).rcpt service line = t.rcpt service line := by
  simp only [rcpt, inPhase_transaction, refuse_inPhase, conclude_inPhase, proposeRecipient_inPhase]

@[simp]
theorem data_inPhase : (t.inPhase phase).data service = t.data service := rfl

@[simp]
theorem startTls_inPhase : (t.inPhase phase).startTls service = t.startTls service := rfl

@[simp]
theorem judge_inPhase (username password : String) :
    (t.inPhase phase).judge service username password = t.judge service username password := by
  simp only [judge]
  cases service.authenticator with
  | none => rfl
  | some authenticator =>
      simp only [inPhase_transaction, inPhase_world]
      cases (authenticator username password t.transaction t.world).refusal with
      | none => rfl
      | some r => rfl

@[simp]
theorem respond_inPhase (step : AuthStep) (response : String) :
    (t.inPhase phase).respond service step response = t.respond service step response := by
  cases step with
  | credentials => simp only [respond, garbled_inPhase, judge_inPhase]
  | username => simp only [respond, garbled_inPhase, challenge_inPhase]
  | password username => simp only [respond, garbled_inPhase, judge_inPhase]

@[simp]
theorem exchange_inPhase (mechanism : Sasl.Mechanism) (initial : Option String) :
    (t.inPhase phase).exchange service mechanism initial =
      t.exchange service mechanism initial := by
  cases mechanism with
  | plain =>
      cases initial with
      | none => rfl
      | some response => simp only [exchange, challenge_inPhase, respond_inPhase]
  | login =>
      cases initial with
      | none => rfl
      | some response => simp only [exchange, respond_inPhase]

@[simp]
theorem auth_inPhase (line : CommandLine) :
    (t.inPhase phase).auth service line = t.auth service line := by
  simp only [auth, inPhase_transaction, refuse_inPhase, reply_inPhase, conclude_inPhase,
    exchange_inPhase]

@[simp]
theorem takeResponse_inPhase (step : AuthStep) (line : Line) :
    (t.inPhase phase).takeResponse service step line = t.takeResponse service step line := by
  cases line with
  | tooLong => rfl
  | text text =>
      simp only [takeResponse, reply_inPhase, conclude_inPhase, respond_inPhase]

@[simp]
theorem proxy_inPhase (line : CommandLine) :
    (t.inPhase phase).proxy service line = t.proxy service line := by
  simp only [proxy, inPhase_commands, reply_inPhase, refuse_inPhase, conclude_inPhase]
  rfl

@[simp]
theorem moveTo_inPhase (attributes : XClientAttributes) :
    (t.inPhase phase).moveTo service attributes = (t.moveTo service attributes).inPhase phase := by
  simp only [moveTo]
  split
  · rfl
  · rfl

@[simp]
theorem xclient_inPhase (line : CommandLine) :
    (t.inPhase phase).xclient service line = t.xclient service line := by
  simp only [xclient, moveTo_inPhase, reply_inPhase, refuse_inPhase, conclude_inPhase]
  rfl

@[simp]
theorem quit_inPhase : (t.inPhase phase).quit service = t.quit service := by
  simp only [quit, inPhase_transaction, inPhase_commands, reply_inPhase]
  generalize t.reply 221 _ = replied
  exact close_inPhase service { replied with commands := replied.commands + 1 } phase

@[simp]
theorem dispatch_inPhase (line : CommandLine) :
    (t.inPhase phase).dispatch service line = t.dispatch service line := by
  simp only [dispatch, note_inPhase, refuse_inPhase, conclude_inPhase]
  cases line.verb? with
  | none => rfl
  | some verb => cases verb <;> simp [execute]

/-- What a line does is the same in every phase. -/
theorem takeLine_inPhase (line : Line) :
    (t.inPhase phase).takeLine service line = t.takeLine service line := by
  cases line with
  | text text =>
      rw [takeLine, takeLine]
      exact dispatch_inPhase service t phase _
  | tooLong => rfl

@[simp]
theorem runStages_inPhase (stages : List Stage) :
    (t.inPhase phase).runStages service stages =
      ((t.runStages service stages).1.inPhase phase, (t.runStages service stages).2) := by
  induction stages generalizing t with
  | nil => rfl
  | cons stage more ih =>
      simp only [runStages, runStage_inPhase]
      generalize runStage service stage t = run
      obtain ⟨after, refusal⟩ := run
      cases refusal with
      | none => exact ih after
      | some r => rfl

@[simp]
theorem takeMessage_inPhase (body : List UInt8) :
    (t.inPhase phase).takeMessage service body = t.takeMessage service body := by
  simp only [takeMessage, mapTransaction_inPhase, runStages_inPhase]
  generalize runStages service [.data, .handler] _ = run
  obtain ⟨after, refusal⟩ := run
  cases refusal with
  | none => simp
  | some r => simp

/-- What a body does is the same in every phase. -/
theorem endBody_inPhase (outcome : BodyOutcome) :
    (t.inPhase phase).endBody service outcome = t.endBody service outcome := by
  cases outcome with
  | complete body => exact takeMessage_inPhase service t phase body
  | tooBig => rfl

end MailIntake.Turn
