import MailIntake.Session.Run
/-!
The steps that commands are made of, field by field.  Most of them change the transaction, write a
reply or wait for a command; the lemmas here reduce the others to these and say what is left alone.
-/
namespace MailIntake.Turn

universe u

variable {W : Type u} (t : Turn W)

def inPhase (t : Turn W) (phase : Phase) : Turn W :=
  { t with phase }

def countCommand (t : Turn W) : Turn W :=
  { t with commands := t.commands + 1 }

@[simp]
theorem mapPeer_eq (f : Peer → Peer) :
    t.mapPeer f = t.mapTransaction fun tx => { tx with peer := f tx.peer } := rfl

@[simp]
theorem mapEnvelope_eq (f : Envelope → Envelope) :
    t.mapEnvelope f = t.mapTransaction fun tx => { tx with envelope := f tx.envelope } := rfl

@[simp]
theorem reward_eq (amount : Int) : t.reward amount = t.mapTransaction (·.reward amount) := rfl

@[simp]
theorem penalize_eq (amount : Int) :
    t.penalize amount = t.mapTransaction (·.penalize amount) := rfl

@[simp]
theorem resetEnvelope_eq : t.resetEnvelope = t.mapTransaction Transaction.resetEnvelope := rfl

@[simp]
theorem replyRefusal_eq (r : Refusal) : t.replyRefusal r = t.reply r.code r.message := rfl

@[simp]
theorem refuse_eq (cost : Int) (code : UInt16) (message : String) :
    t.refuse cost code message = (t.penalize cost).reply code message := rfl

@[simp]
theorem garbled_eq (e : Sasl.Error) :
    t.garbled e = (t.refuse Karma.authenticationFailed 502 e.message).conclude := rfl

@[simp]
theorem note_transaction (e : Event) : (t.note e).transaction = t.transaction := rfl

@[simp]
theorem note_world (e : Event) : (t.note e).world = t.world := rfl

@[simp]
theorem note_phase (e : Event) : (t.note e).phase = t.phase := rfl

@[simp]
theorem note_journal (e : Event) : (t.note e).journal = e :: t.journal := rfl

@[simp]
theorem note_messages (e : Event) : (t.note e).tally.messages = t.tally.messages := rfl

@[simp]
theorem mapTransaction_transaction (f : Transaction → Transaction) :
    (t.mapTransaction f).transaction = f t.transaction := rfl

@[simp]
theorem mapTransaction_world (f : Transaction → Transaction) :
    (t.mapTransaction f).world = t.world := rfl

@[simp]
theorem mapTransaction_phase (f : Transaction → Transaction) :
    (t.mapTransaction f).phase = t.phase := rfl

@[simp]
theorem mapTransaction_journal (f : Transaction → Transaction) :
    (t.mapTransaction f).journal = t.journal := rfl

@[simp]
theorem mapTransaction_messages (f : Transaction → Transaction) :
    (t.mapTransaction f).tally.messages = t.tally.messages := rfl

@[simp]
theorem countRead_transaction (bytes : Nat) : (t.countRead bytes).transaction = t.transaction := rfl

@[simp]
theorem countRead_world (bytes : Nat) : (t.countRead bytes).world = t.world := rfl

@[simp]
theorem countRead_phase (bytes : Nat) : (t.countRead bytes).phase = t.phase := rfl

@[simp]
theorem countRead_journal (bytes : Nat) : (t.countRead bytes).journal = t.journal := rfl

@[simp]
theorem countRead_messages (bytes : Nat) :
    (t.countRead bytes).tally.messages = t.tally.messages := rfl

@[simp]
theorem countMessage_transaction : t.countMessage.transaction = t.transaction := rfl

@[simp]
theorem countMessage_world : t.countMessage.world = t.world := rfl

@[simp]
theorem countMessage_phase : t.countMessage.phase = t.phase := rfl

@[simp]
theorem countMessage_journal : t.countMessage.journal = t.journal := rfl

@[simp]
theorem countMessage_messages : t.countMessage.tally.messages = t.tally.messages + 1 := rfl

@[simp]
theorem reply_transaction (code : UInt16) (message : String) :
    (t.reply code message).transaction = t.transaction := by
  simp only [reply, note]

@[simp]
theorem reply_world (code : UInt16) (message : String) :
    (t.reply code message).world = t.world := by
  simp only [reply, note]

@[simp]
theorem reply_phase (code : UInt16) (message : String) :
    (t.reply code message).phase = t.phase := by
  simp only [reply, note]

@[simp]
theorem reply_journal (code : UInt16) (message : String) :
    (t.reply code message).journal = .replied ⟨code, message⟩ :: t.journal := by
  simp only [reply, note]

@[simp]
theorem reply_messages (code : UInt16) (message : String) :
    (t.reply code message).tally.messages = t.tally.messages := by
  simp only [reply, note]

@[simp]
theorem reply_commands (code : UInt16) (message : String) :
    (t.reply code message).commands = t.commands := by
  simp only [reply, note]

@[simp]
theorem reply_bytesRead (code : UInt16) (message : String) :
    (t.reply code message).tally.bytesRead = t.tally.bytesRead := by
  simp only [reply, note]

@[simp]
theorem conclude_commands : t.conclude.commands = t.commands + 1 := rfl

@[simp]
theorem conclude_bytesRead : t.conclude.tally.bytesRead = t.tally.bytesRead := rfl

@[simp]
theorem awaitCommand_transaction : t.awaitCommand.transaction = t.transaction := rfl

@[simp]
theorem awaitCommand_world : t.awaitCommand.world = t.world := rfl

@[simp]
theorem awaitCommand_phase : t.awaitCommand.phase = .command {} := rfl

@[simp]
theorem awaitCommand_journal : t.awaitCommand.journal = t.journal := rfl

@[simp]
theorem awaitCommand_messages : t.awaitCommand.tally.messages = t.tally.messages := rfl

@[simp]
theorem conclude_transaction : t.conclude.transaction = t.transaction := rfl

@[simp]
theorem conclude_world : t.conclude.world = t.world := rfl

@[simp]
theorem conclude_phase : t.conclude.phase = .command {} := rfl

@[simp]
theorem conclude_journal : t.conclude.journal = t.journal := rfl

@[simp]
theorem conclude_messages : t.conclude.tally.messages = t.tally.messages := rfl

@[simp]
theorem inPhase_transaction (phase : Phase) : (t.inPhase phase).transaction = t.transaction := rfl

@[simp]
theorem inPhase_world (phase : Phase) : (t.inPhase phase).world = t.world := rfl

@[simp]
theorem inPhase_phase (phase : Phase) : (t.inPhase phase).phase = phase := rfl

@[simp]
theorem inPhase_journal (phase : Phase) : (t.inPhase phase).journal = t.journal := rfl

@[simp]
theorem inPhase_messages (phase : Phase) :
    (t.inPhase phase).tally.messages = t.tally.messages := rfl

@[simp]
theorem countCommand_transaction : t.countCommand.transaction = t.transaction := rfl

@[simp]
theorem countCommand_world : t.countCommand.world = t.world := rfl

@[simp]
theorem countCommand_phase : t.countCommand.phase = t.phase := rfl

@[simp]
theorem countCommand_journal : t.countCommand.journal = t.journal := rfl

@[simp]
theorem countCommand_messages : t.countCommand.tally.messages = t.tally.messages := rfl

@[simp]
theorem challenge_transaction (step : AuthStep) :
    (t.challenge step).transaction = t.transaction := by
  simp only [challenge, reply_transaction]

@[simp]
theorem challenge_world (step : AuthStep) : (t.challenge step).world = t.world := by
  simp only [challenge, reply_world]

@[simp]
theorem challenge_phase (step : AuthStep) :
    (t.challenge step).phase = .response step {} := rfl

@[simp]
theorem challenge_messages (step : AuthStep) :
    (t.challenge step).tally.messages = t.tally.messages := by
  simp only [challenge, reply_messages]

def challengeText : AuthStep → String
  | .credentials => ""
  | .username => Sasl.usernameChallenge
  | .password _ => Sasl.passwordChallenge

@[simp]
theorem challenge_journal (step : AuthStep) :
    (t.challenge step).journal = .replied ⟨334, challengeText step⟩ :: t.journal := by
  cases step with
  | credentials | username | password username =>
      simp only [challenge, reply_journal, challengeText]

end MailIntake.Turn
