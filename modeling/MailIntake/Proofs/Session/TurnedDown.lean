import MailIntake.Proofs.Session.Admission
/-!
A command that is turned down leaves no trace.  Whatever it was that a client asked for, and however
far the server went along, a last reply of 4xx or 5xx means that the client is who it was and that
the message at hand is what it was (`run_turnedDown_unchanged`).
-/
namespace MailIntake

universe u

variable {W : Type u}

/-- Everything of a transaction but what it shares. -/
def Transaction.own (tx : Transaction) : Peer × Envelope :=
  (tx.peer, tx.envelope)

@[simp]
theorem Transaction.own_penalize (tx : Transaction) (amount : Int) :
    (tx.penalize amount).own = tx.own := rfl

/-- A phase in which a command that was taken up goes on. -/
def Phase.InCommand : Phase → Prop
  | .response _ _ | .handshake => True
  | .opening | .command _ | .body _ | .closed => False

def lastReply? (journal : List Event) : Option Reply :=
  journal.findSome? Event.reply?

@[simp]
theorem lastReply?_replied (reply : Reply) (older : List Event) :
    lastReply? (.replied reply :: older) = some reply := rfl

namespace Turn

/-- The last thing that the client was told is that something did not work. -/
def TurnedDown (t : Turn W) : Prop :=
  ∃ reply ∈ lastReply? t.journal, Negative reply.code

instance (t : Turn W) : Decidable t.TurnedDown :=
  inferInstanceAs (Decidable (∃ _ ∈ _, _))

/-- What happens from the start of a command line to the end of the command: the line, and whatever
else happens while the command goes on. -/
inductive OneCommand (service : Service W) (t : Turn W) : List Signal → Prop
  | line (bytes : List UInt8) (hbytes : LineReader.byteFeed ∉ bytes) :
      OneCommand service t ((bytes ++ [LineReader.byteFeed]).map .byte)
  | more (signals : List Signal) (signal : Signal) (hbefore : OneCommand service t signals)
      (hwaits : (t.heedAll service signals).phase.InCommand) :
      OneCommand service t (signals ++ [signal])

/-- How far a command may have gone: as long as it goes on nothing has changed, and the client has
not been turned down; and once the client is turned down nothing has changed. -/
structure Traceless (own : Peer × Envelope) (t : Turn W) : Prop where
  pending : t.phase.InCommand → t.transaction.own = own ∧ ¬ t.TurnedDown
  turnedDown : t.TurnedDown → t.transaction.own = own

variable {service : Service W} {t after : Turn W} {own : Peer × Envelope}

theorem turnedDown_iff {reply : Reply} {older : List Event}
    (hjournal : t.journal = .replied reply :: older) : t.TurnedDown ↔ Negative reply.code := by
  simp [TurnedDown, hjournal]

theorem own_of_runStage {stage : Stage} {refusal : Option Refusal}
    (hkeeps : service.Keeps fun tx _ => tx.own)
    (hrun : t.runStage service stage = (after, refusal)) :
    after.transaction.own = t.transaction.own :=
  seen_of_runStage (hkeeps.stages stage) hrun

theorem own_close (hkeeps : service.Keeps fun tx _ => tx.own) (t : Turn W) :
    (t.close service).transaction.own = t.transaction.own := by
  cases hrun : t.runStage service .close with
  | mk after refusal =>
      have hown := own_of_runStage hkeeps hrun
      rw [close_eq service t hrun]
      exact hown

/-- Nothing has changed, and the command is over. -/
theorem Traceless.over (hown : t.transaction.own = own) (hphase : ¬ t.phase.InCommand) :
    Traceless own t where
  pending hpending := absurd hpending hphase
  turnedDown _ := hown

/-- A reply with which a command ends has to be earned only if it turns the client down. -/
theorem Traceless.answered (code : UInt16) (message : String)
    (hown : Negative code → t.transaction.own = own) :
    Traceless own (t.reply code message).conclude := by
  constructor
  · intro hpending
    exact hpending.elim
  · intro hdown
    rw [turnedDown_iff (by rw [conclude_journal, reply_journal])] at hdown
    rw [conclude_transaction, reply_transaction]
    exact hown hdown

/-- The connection ends without a change. -/
theorem Traceless.close (hkeeps : service.Keeps fun tx _ => tx.own)
    (hown : t.transaction.own = own) : Traceless own (t.close service) := by
  refine .over ?_ id
  rw [own_close hkeeps]
  exact hown

theorem Traceless.exchanged (hkeeps : service.Keeps fun tx _ => tx.own)
    (hown : t.transaction.own = own) (hexchanged : Exchanged service t after) :
    Traceless own after := by
  cases hexchanged with
  | refused cost code message hcode => exact .answered (t := t.penalize cost) _ _ fun _ => hown
  | challenged step =>
      have hchallenged : (t.challenge step).transaction.own = own := by
        rw [challenge_transaction]
        exact hown
      have hdown : ¬ (t.challenge step).TurnedDown := by
        have hcode : ¬ Negative 334 := by decide
        rwa [turnedDown_iff (challenge_journal t step)]
      exact ⟨fun _ => ⟨hchallenged, hdown⟩, fun _ => hchallenged⟩
  | rejected authenticator username password r hauthenticator hverdict =>
      have hquestioned := hkeeps.authenticator authenticator hauthenticator username password
        t.transaction t.world
      refine .answered _ _ ?_
      intro _
      rw [penalize_eq, mapTransaction_transaction, Transaction.own_penalize,
        questioned_transaction, hquestioned]
      exact hown
  | accepted authenticator username password hauthenticator hverdict =>
      refine .answered _ _ ?_
      intro hcode
      exact absurd hcode (by decide)

/-- A refused greeting is taken back as a whole. -/
theorem own_restoreGreeting {protocol : Protocol} {name : String}
    (hown : after.transaction.own = (t.introduce protocol name).transaction.own) :
    (after.restoreGreeting t.transaction.peer).transaction.own = t.transaction.own := by
  have hpeer : after.transaction.peer = (t.introduce protocol name).transaction.peer :=
    congrArg Prod.fst hown
  have henvelope : after.transaction.envelope = t.transaction.envelope := congrArg Prod.snd hown
  simp only [restoreGreeting, mapPeer_eq, mapTransaction_transaction, Transaction.own, hpeer,
    henvelope, introduce]

/-- A refused sender is taken back as a whole, for there was none before. -/
theorem own_setSender_none {sender : Option ReversePath}
    (hown : after.transaction.own = (t.setSender sender).transaction.own)
    (hnone : t.transaction.envelope.sender = none) :
    (after.setSender none).transaction.own = t.transaction.own := by
  have hpeer : after.transaction.peer = t.transaction.peer := congrArg Prod.fst hown
  have henvelope : after.transaction.envelope = (t.setSender sender).transaction.envelope :=
    congrArg Prod.snd hown
  simp only [setSender, mapEnvelope_eq, mapTransaction_transaction, Transaction.own, hpeer,
    henvelope, ← hnone]

theorem Traceless.handled {line : CommandLine} (hkeeps : service.Keeps fun tx _ => tx.own)
    (hhandled : Handled service line t after) : Traceless t.transaction.own after := by
  cases hhandled with
  | refused cost code message hcode hverb =>
      exact .answered (t := t.penalize cost) _ _ fun _ => rfl
  | idle hverb => exact .answered _ _ fun _ => rfl
  | greetingRefused protocol name mid r hverb hname hrun =>
      have hmid := own_of_runStage hkeeps hrun
      exact .answered _ _ fun _ => own_restoreGreeting hmid
  | senderRefused path sender mid r hverb hobstacle hpath hparse hrun =>
      obtain ⟨-, -, -, hnone⟩ := senderObstacle_eq_none hobstacle
      have hmid := own_of_runStage hkeeps hrun
      exact .answered _ _ fun _ => own_setSender_none hmid hnone
  | recipientRefused path recipient mid r hverb hsender hpath hparse hrun =>
      have hmid := own_of_runStage hkeeps hrun
      exact .answered (t := mid.penalize Karma.recipientRejected) _ _ fun _ => hmid
  | bodyAwaited hverb hsender hrecipients =>
      refine .over ?_ id
      rw [inPhase_transaction, reply_transaction]
  | quit message hverb =>
      refine .close hkeeps ?_
      rw [countCommand_transaction, reply_transaction]
  | handshakeAwaited hverb hplain hoffers =>
      have hown : ((t.reply 220 "Go ahead").inPhase .handshake).transaction.own =
          t.transaction.own := by
        rw [inPhase_transaction, reply_transaction]
      have hdown : ¬ ((t.reply 220 "Go ahead").inPhase .handshake).TurnedDown := by
        rw [turnedDown_iff (by rw [inPhase_journal, reply_journal])]
        decide
      exact ⟨fun _ => ⟨hown, hdown⟩, fun _ => hown⟩
  | auth _ hverb hobstacle hexchanged => exact .exchanged hkeeps rfl hexchanged
  | reset | greeted | senderAccepted | recipientAccepted | proxied | xclient =>
      -- What these change the client is told with success.
      refine .answered _ _ ?_
      intro hcode
      exact absurd hcode (by decide)

theorem Traceless.takeLine (hkeeps : service.Keeps fun tx _ => tx.own) (line : Line) :
    Traceless t.transaction.own (t.takeLine service line) := by
  cases line with
  | text text =>
      exact .handled (t := t.note (.command (CommandLine.parse text))) hkeeps
        (dispatch_handled service t (CommandLine.parse text))
  | tooLong =>
      refine .over ?_ id
      rw [Turn.takeLine, awaitCommand_transaction, refuse_eq, reply_transaction]
      rfl

variable (service) in
/-- The bytes of a line change nothing before the line ends. -/
theorem heedAll_unended {reader : LineReader} (hphase : t.phase = .command reader)
    (bytes : List UInt8) (hbytes : LineReader.byteFeed ∉ bytes) :
    ∃ next, (t.heedAll service (bytes.map .byte)).phase = .command next ∧
      (t.heedAll service (bytes.map .byte)).transaction = t.transaction := by
  -- Each byte leads to another turn and another reader, and only the transaction stays.
  induction bytes generalizing t reader with
  | nil => exact ⟨reader, hphase, rfl⟩
  | cons b bytes ih =>
      rw [List.mem_cons, not_or] at hbytes
      obtain ⟨hb, hrest⟩ := hbytes
      have hheed : t.heed service (.byte b) = t.passByte (.command (reader.add [b])) := by
        simp only [heed, takeByte, hphase, if_neg (Ne.symm hb)]
        rfl
      obtain ⟨next, hnext, htransaction⟩ :=
        ih (t := t.passByte (.command (reader.add [b]))) rfl hrest
      rw [List.map_cons, heedAll, List.foldl_cons, hheed]
      exact ⟨next, hnext, htransaction⟩

/-- While a command goes on, nothing can happen that leaves a trace of a command turned down. -/
theorem Traceless.move {signal : Signal} (hkeeps : service.Keeps fun tx _ => tx.own)
    (hmove : Move service t signal after) (hwaits : t.phase.InCommand)
    (htraceless : Traceless own t) : Traceless own after := by
  obtain ⟨hown, hdown⟩ := htraceless.pending hwaits
  cases hmove with
  | unheard b hphase => exact htraceless
  | unasked result hphase => exact htraceless
  | finished signal hphase => exact htraceless
  | passed b phase hpasses => exact ⟨fun _ => ⟨hown, hdown⟩, fun _ => hown⟩
  | overlong reader hphase hline | handled reader text _ hphase hline hhandled =>
      rw [hphase] at hwaits
      exact hwaits.elim
  | bodyEnded b outcome _ hread hended =>
      obtain ⟨decoder, hphase, -, -⟩ := hread
      rw [hphase] at hwaits
      exact hwaits.elim
  | opened h _ hphase hbegun | openingFailed signal hphase hsignal =>
      rw [hphase] at hwaits
      exact hwaits.elim
  | exchanged step reader _ hphase hexchanged =>
      exact .exchanged (t := t.countRead 1) hkeeps hown hexchanged
  | upgraded h hphase =>
      -- The client is told nothing about a handshake that worked.
      exact ⟨fun hpending => hpending.elim, fun hmore => absurd hmore hdown⟩
  | upgradeFailed signal hphase hsignal =>
      refine .close hkeeps ?_
      rw [countCommand_transaction, refuse_eq, reply_transaction]
      exact hown
  | ended hphase => exact .close hkeeps hown
  | timedOut hphase =>
      refine .close hkeeps ?_
      rw [reply_transaction]
      exact hown
  | expired hphase => exact .close hkeeps hown

theorem OneCommand.traceless {reader : LineReader} {signals : List Signal}
    (hkeeps : service.Keeps fun tx _ => tx.own) (hphase : t.phase = .command reader)
    (hcommand : OneCommand service t signals) :
    Traceless t.transaction.own (t.heedAll service signals) := by
  induction hcommand with
  | line bytes hbytes =>
      obtain ⟨next, hnext, htransaction⟩ := heedAll_unended service hphase bytes hbytes
      rw [List.map_append, heedAll_append]
      generalize t.heedAll service (bytes.map .byte) = read at hnext htransaction
      have hline : read.heedAll service ([LineReader.byteFeed].map .byte) =
          (read.countRead 1).takeLine service (next.add [LineReader.byteFeed]).finish := by
        simp only [List.map_cons, List.map_nil, heedAll, List.foldl_cons, List.foldl_nil, heed,
          takeByte, hnext, if_true]
      rw [hline, ← htransaction]
      exact .takeLine (t := read.countRead 1) hkeeps _
  | more signals signal _ hwaits ih =>
      rw [heedAll_append]
      exact ih.move hkeeps (heed_move service (t.heedAll service signals) signal) hwaits

/-- A command whose last reply is 4xx or 5xx changes nothing about the client and nothing about the
message at hand: not the line itself, not the lines of an exchange, not a handshake that failed, and
not a checker anywhere among the others.  Every line is answered, so the last reply is one to this
command.  Only metadata and what is counted may differ. -/
theorem run_turnedDown_unchanged (service : Service W) (t : Turn W) {reader : LineReader}
    (hkeeps : service.Keeps fun tx _ => tx.own) (hphase : t.phase = .command reader)
    (inputs : List Input) (hcommand : OneCommand service t (inputs.flatMap Input.signals))
    (hdown : (t.run service inputs).TurnedDown) :
    (t.run service inputs).transaction.peer = t.transaction.peer ∧
      (t.run service inputs).transaction.envelope = t.transaction.envelope := by
  rw [run_eq_heedAll] at hdown ⊢
  have hown := (hcommand.traceless hkeeps hphase).turnedDown hdown
  exact ⟨congrArg Prod.fst hown, congrArg Prod.snd hown⟩

end Turn

namespace Sample

/-- A checker that turns one name away. -/
def nameCheck : Checker Office := fun tx office =>
  { transaction := tx
    world := office
    refusal := if tx.peer.helo = some "x" then some (.reject ⟨550, "no"⟩) else none }

def strict : Service Office :=
  { hostname := "mx", pipelines := { helo := [nameCheck] } }

def otherName : List UInt8 :=
  Text.Utf8.encode "HELO x\r\n"

theorem strict_keeps {A : Type u} (view : Transaction → A) :
    strict.Keeps fun tx _ => view tx where
  stages stage checker hchecker := by
    cases stage with
    | helo =>
        rw [List.mem_singleton.mp hchecker]
        exact fun tx office => rfl
    | connection | sender | recipient candidate | data | handler | close => cases hchecker
  authenticator _ hauthenticator := nomatch hauthenticator

end Sample

namespace Turn

/-- A client with a recipient greets again under a name that is turned away, and is where it was. -/
theorem run_turnedDown_unchanged_greeting :
    ∃ t after : Turn Office,
      t = (start Sample.strict (.start ⟨1⟩ "mx" Sample.place Sample.place) Sample.office).run
        Sample.strict [.bytes Sample.envelope] ∧
      after = t.run Sample.strict [.bytes Sample.otherName] ∧ after.TurnedDown ∧
      after.transaction.peer = t.transaction.peer ∧
      after.transaction.envelope = t.transaction.envelope := by
  obtain ⟨t, ht⟩ : ∃ t, t = (start Sample.strict (.start ⟨1⟩ "mx" Sample.place Sample.place)
      Sample.office).run Sample.strict [.bytes Sample.envelope] := ⟨_, rfl⟩
  have hphase : t.phase = .command {} := by
    rw [ht]
    decide +kernel
  have hdown : (t.run Sample.strict [.bytes Sample.otherName]).TurnedDown := by
    rw [ht]
    decide +kernel
  have hline : [Input.bytes Sample.otherName].flatMap Input.signals =
      (Sample.otherName.dropLast ++ [LineReader.byteFeed]).map .byte := by
    decide +kernel
  have hcommand : OneCommand Sample.strict t
      ([Input.bytes Sample.otherName].flatMap Input.signals) := by
    rw [hline]
    exact .line Sample.otherName.dropLast (by decide +kernel)
  exact ⟨t, _, ht, rfl, hdown, run_turnedDown_unchanged Sample.strict t (Sample.strict_keeps _)
    hphase _ hcommand hdown⟩

end Turn
end MailIntake
