import MailIntake.Proofs.Session.Body
import MailIntake.Proofs.Session.Envelope
import MailIntake.Proofs.Session.Script
/-!
When recipients are asked about and when bodies are looked at.  There is a sender where recipients
are asked about, and there are recipients where bodies are looked at.  If no checker that is asked
before there is a body makes up a sender, and none makes up recipients or takes a sender away, the
message at hand follows from the journal (`Move.progressing`): its MAIL is outstanding, and its
recipients have passed since.
-/
namespace MailIntake

universe u

variable {W : Type u}

/-- A change of an envelope that makes up no sender.  If recipients count, it makes up no recipients
either and takes no sender away. -/
structure Envelope.Honest (counting : Bool) (before after : Envelope) : Prop where
  noSender : before.sender = none → after.sender = none
  sender : counting → before.sender.isSome → after.sender.isSome
  noRecipients : counting → before.recipients = [] → after.recipients = []

theorem Envelope.honest_refl (counting : Bool) (e : Envelope) : e.Honest counting e :=
  ⟨id, fun _ => id, fun _ => id⟩

theorem Envelope.Honest.trans {counting : Bool} {first second third : Envelope}
    (h : first.Honest counting second) (hnext : second.Honest counting third) :
    first.Honest counting third where
  noSender hnone := hnext.noSender (h.noSender hnone)
  sender hcounting hsome := hnext.sender hcounting (h.sender hcounting hsome)
  noRecipients hcounting hnil := hnext.noRecipients hcounting (h.noRecipients hcounting hnil)

/-- A stage that runs before the body of a message is read. -/
def Stage.BeforeBody : Stage → Prop
  | .connection | .helo | .sender | .recipient _ => True
  | .data | .handler | .close => False

/-- The checkers that are asked before there is a body, and the authenticator, are honest about the
envelope. -/
structure Service.Honest (service : Service W) (counting : Bool) : Prop where
  stages : ∀ stage : Stage, stage.BeforeBody → ∀ checker ∈ service.pipelines.checkers stage,
    ∀ (tx : Transaction) world,
      tx.envelope.Honest counting (checker tx world).transaction.envelope
  authenticator : ∀ authenticator, service.authenticator = some authenticator →
    ∀ username password (tx : Transaction) world,
      tx.envelope.Honest counting (authenticator username password tx world).transaction.envelope

/-- A service that leaves the sender and the recipients alone is honest. -/
theorem Service.Keeps.honest {service : Service W} (counting : Bool)
    (hkeeps : service.Keeps fun tx _ => (tx.envelope.sender, tx.envelope.recipients)) :
    service.Honest counting := by
  have hhonest : ∀ {before after : Envelope}, (after.sender, after.recipients) =
      (before.sender, before.recipients) → before.Honest counting after := by
    intro before after hsame
    obtain ⟨hsender, hrecipients⟩ := Prod.mk.inj hsame
    exact ⟨hsender.trans, fun _ hsome => hsender ▸ hsome, fun _ => hrecipients.trans⟩
  constructor
  · intro stage _ checker hchecker tx world
    exact hhonest (hkeeps.stages stage checker hchecker tx world)
  · intro authenticator hauthenticator username password tx world
    exact hhonest (hkeeps.authenticator authenticator hauthenticator username password tx world)

def Transaction.Addressed (tx : Transaction) : Prop :=
  tx.envelope.sender.isSome ∧ tx.envelope.recipients ≠ []

/-- An exchange in which a stage has run and nobody refused. -/
def Exchange.Passes (service : Service W) (stage : Stage) (x : Exchange) : Prop :=
  ∃ tx checks reply, x.events = .stage stage tx :: (checks.reverse ++ [.replied reply]) ∧
    Ran stage (service.pipelines.checkers stage) none checks

/-- A history in which a MAIL is outstanding whose sender passed; the flag says whether a recipient
has passed since then. -/
inductive Outstanding (service : Service W) : Bool → List Exchange → Prop
  | mail {history : List Exchange} (x : Exchange) (hasks : x.asks .mail)
      (hpasses : x.Passes service .sender) : Outstanding service false (x :: history)
  | rcpt {received : Bool} {history : List Exchange} (x : Exchange) (candidate : ForwardPath)
      (hasks : x.asks .rcpt) (hpasses : x.Passes service (.recipient candidate))
      (hearlier : Outstanding service received history) : Outstanding service true (x :: history)
  | spared {received : Bool} {history : List Exchange} (x : Exchange)
      (hspares : x.answered .mail 250 = false ∧ x.Spares)
      (hearlier : Outstanding service received history) :
      Outstanding service received (x :: history)

/-- Behind a MAIL that was answered with success no recipient has passed. -/
theorem Outstanding.false_of_mail {service : Service W} {x : Exchange} {history : List Exchange}
    (hmail : x.answered .mail 250) : ¬ Outstanding service true (x :: history) := by
  intro houtstanding
  cases houtstanding with
  | rcpt _ candidate hasks hpasses hearlier =>
      have hverb := (Bool.and_eq_true_iff.mp hmail).1
      simp only [Exchange.asks, beq_iff_eq] at hasks hverb
      simp [hasks] at hverb
  | spared _ hspares hearlier => simp [hmail] at hspares

/-- An envelope of which there is no sender, and no recipient if they count. -/
def Envelope.Bare (counting : Bool) (e : Envelope) : Prop :=
  e.sender = none ∧ (counting → e.recipients = [])

theorem Envelope.Bare.changed {counting : Bool} {before after : Envelope}
    (hbare : before.Bare counting) (hhonest : before.Honest counting after) :
    after.Bare counting :=
  ⟨hhonest.noSender hbare.1, fun hcounting => hhonest.noRecipients hcounting (hbare.2 hcounting)⟩

/-- What a history has to do with the message at hand: with a sender its MAIL is outstanding, and if
recipients count there are none without a sender, and one has passed if there are any. -/
structure BackedBy (service : Service W) (counting : Bool) (history : List Exchange)
    (e : Envelope) : Prop where
  bare : counting → e.sender = none → e.recipients = []
  outstanding : e.sender.isSome → ∃ received, Outstanding service received history ∧
    (counting → e.recipients ≠ [] → received)

namespace BackedBy

variable {service : Service W} {counting : Bool} {history : List Exchange} {e : Envelope}

theorem of_bare (hbare : e.Bare counting) : BackedBy service counting history e where
  bare hcounting _ := hbare.2 hcounting
  outstanding hsome := by simp [hbare.1] at hsome

theorem bare_of_sender (hbacked : BackedBy service counting history e) (hsender : e.sender = none) :
    e.Bare counting :=
  ⟨hsender, fun hcounting => hbacked.bare hcounting hsender⟩

theorem spared (hbacked : BackedBy service counting history e) {x : Exchange}
    (hspares : x.answered .mail 250 = false ∧ x.Spares) :
    BackedBy service counting (x :: history) e where
  bare := hbacked.bare
  outstanding hsome := by
    obtain ⟨received, houtstanding, hreceived⟩ := hbacked.outstanding hsome
    exact ⟨received, .spared x hspares houtstanding, hreceived⟩

theorem changed (hbacked : BackedBy service counting history e) {after : Envelope}
    (hhonest : e.Honest counting after) : BackedBy service counting history after where
  bare hcounting hnone := by
    by_cases hsender : e.sender = none
    · exact hhonest.noRecipients hcounting (hbacked.bare hcounting hsender)
    · have hafter := hhonest.sender hcounting (Option.isSome_iff_ne_none.mpr hsender)
      simp [hnone] at hafter
  outstanding hsome := by
    have hsender : e.sender.isSome := by
      rw [Option.isSome_iff_ne_none] at hsome ⊢
      exact mt hhonest.noSender hsome
    obtain ⟨received, houtstanding, hreceived⟩ := hbacked.outstanding hsender
    refine ⟨received, houtstanding, fun hcounting hrecipients => hreceived hcounting ?_⟩
    exact mt (hhonest.noRecipients hcounting) hrecipients

end BackedBy

namespace Turn

/-- The journal of a connection on which a body is read, or was: a recipient had passed when it was
asked for. -/
def BehindRecipient (service : Service W) (journal : List Event) : Prop :=
  ∃ settled line message, journal = .replied ⟨354, message⟩ :: .command line :: settled ∧
    line.verb? = some .data ∧ Outstanding service true (exchanges settled)

/-- The journal of a connection on which a recipient is asked about: a MAIL is outstanding. -/
def BehindMail (service : Service W) (journal : List Event) : Prop :=
  ∃ settled line received, journal = .command line :: settled ∧ line.verb? = some .rcpt ∧
    Outstanding service received (exchanges settled)

/-- Nothing is outstanding behind the first command. -/
theorem not_behindMail_of_first {service : Service W} {journal : List Event}
    (hfirst : (exchanges journal).tail = []) : ¬ BehindMail service journal := by
  rintro ⟨settled, line, received, rfl, -, houtstanding⟩
  have hsettled : exchanges settled = [] := hfirst
  rw [hsettled] at houtstanding
  cases houtstanding

/-- No recipient has passed where the command before the last one is a MAIL. -/
theorem not_behindRecipient_of_mail {service : Service W} {journal : List Event}
    (hmail : (exchanges journal).tail.head?.any (·.answered .mail 250)) :
    ¬ BehindRecipient service journal := by
  rintro ⟨settled, line, message, rfl, -, houtstanding⟩
  obtain ⟨x, hhead, hanswered⟩ := (Option.any_eq_true _ _).mp hmail
  obtain ⟨history, hhistory⟩ := List.head?_eq_some_iff.mp hhead
  have hsettled : exchanges settled = x :: history := hhistory
  rw [hsettled] at houtstanding
  exact Outstanding.false_of_mail hanswered houtstanding

/-- How the message at hand follows from the journal, phase by phase. -/
def Progressing (service : Service W) (counting : Bool) (t : Turn W) : Prop :=
  match t.phase with
  | .opening | .response _ _ => t.transaction.envelope.Bare counting
  | .command _ => BackedBy service counting (exchanges t.journal) t.transaction.envelope
  | .body _ => counting → BehindRecipient service t.journal
  | .handshake | .closed => True

variable {service : Service W} {counting : Bool} {t after : Turn W}

theorem progressing_close : Progressing service counting (t.close service) := by
  rw [Progressing, close_phase]
  trivial

theorem progressing_command {reader : LineReader} (hphase : t.phase = .command reader) :
    Progressing service counting t ↔
      BackedBy service counting (exchanges t.journal) t.transaction.envelope := by
  rw [Progressing, hphase]

/-- An answer behind which there is no message at hand. -/
theorem progressing_bare (told : Turn W) (hbare : told.transaction.envelope.Bare counting)
    (code : UInt16) (message : String) :
    Progressing service counting (told.reply code message).conclude := by
  rw [progressing_command (conclude_phase _), conclude_transaction, reply_transaction]
  exact .of_bare hbare

/-- An answer that ends an exchange. -/
theorem progressing_answer {code : UInt16} {message : String} {x : Exchange}
    {history : List Exchange}
    (hexchanges : exchanges (.replied ⟨code, message⟩ :: t.journal) = x :: history)
    (hbacked : BackedBy service counting (x :: history) t.transaction.envelope) :
    Progressing service counting (t.reply code message).conclude := by
  rw [progressing_command (conclude_phase _), conclude_journal, reply_journal, hexchanges,
    conclude_transaction, reply_transaction]
  exact hbacked

/-- A command that is answered behind a stage in which nobody refused. -/
theorem passes_of_runStage {stage : Stage} {line : CommandLine} {settled : List Event}
    (hjournal : t.journal = .command line :: settled)
    (hrun : t.runStage service stage = (after, none)) (code : UInt16) (message : String) :
    ∃ x : Exchange, (∀ verb, x.asks verb = (line.verb? == some verb)) ∧ x.Passes service stage ∧
      exchanges (.replied ⟨code, message⟩ :: after.journal) = x :: exchanges settled := by
  obtain ⟨checks, hran, hafter⟩ := ran_of_runStage hrun
  have hnewer : ∀ e ∈ .replied ⟨code, message⟩ :: (checks ++ [.stage stage t.transaction]),
      e.continues := by
    intro e he
    rcases List.mem_cons.mp he with rfl | he
    · rfl
    · rcases List.mem_append.mp he with hcheck | hstage
      · exact hran.verdicts.continues hcheck
      · rw [List.mem_singleton.mp hstage]
        rfl
  have hexchanges := exchanges_command hnewer line settled
  rw [hafter, hjournal]
  refine ⟨⟨some line, (.replied ⟨code, message⟩ :: (checks ++
    [.stage stage t.transaction])).reverse⟩, fun verb => rfl,
    ⟨t.transaction, checks, ⟨code, message⟩, by simp, hran⟩, ?_⟩
  simpa using hexchanges

theorem honest_of_runStage {stage : Stage} {refusal : Option Refusal}
    (hhonest : service.Honest counting) (hrun : t.runStage service stage = (after, refusal))
    (hstage : stage.BeforeBody) :
    t.transaction.envelope.Honest counting after.transaction.envelope := by
  have hafter : (t.runStage service stage).1 = after := by rw [hrun]
  rw [← hafter]
  refine check_induction stage _
    (motive := fun after => t.transaction.envelope.Honest counting after.transaction.envelope)
    ?_ 0 (Envelope.honest_refl counting _)
  intro checker hchecker place before hbefore
  exact hbefore.trans (hhonest.stages stage hstage checker hchecker before.transaction before.world)

/-- A command that is answered at once and leaves the message at hand alone. -/
theorem progressing_reply {line : CommandLine} {settled : List Event} (told : Turn W)
    (hjournal : t.journal = .command line :: settled)
    (hbacked : BackedBy service counting (exchanges settled) t.transaction.envelope)
    {code : UInt16} (hspares : ∀ x : Exchange, x.Reports line code false →
      x.answered .mail 250 = false ∧ x.Spares)
    (hsame : told.journal = t.journal)
    (henvelope : told.transaction.envelope = t.transaction.envelope) (message : String) :
    Progressing service counting (told.reply code message).conclude := by
  obtain ⟨x, hreports, hexchanges⟩ := exchanges_of_reply hjournal code message
  rw [← hsame] at hexchanges
  refine progressing_answer hexchanges ?_
  rw [henvelope]
  exact hbacked.spared (hspares x hreports)

/-- A command that is refused behind a stage with honest checkers. -/
theorem progressing_refusal {line : CommandLine} {settled : List Event} {stage : Stage}
    {mid : Turn W} {r : Refusal} (before told : Turn W)
    (hjournal : before.journal = .command line :: settled)
    (hbacked : BackedBy service counting (exchanges settled) t.transaction.envelope)
    (hrun : before.runStage service stage = (mid, some r))
    (hspares : ∀ x : Exchange, x.Reports line r.code true →
      x.answered .mail 250 = false ∧ x.Spares)
    (hsame : told.journal = mid.journal)
    (hhonest : t.transaction.envelope.Honest counting told.transaction.envelope) :
    Progressing service counting (told.reply r.code r.message).conclude := by
  obtain ⟨x, hreports, hexchanges⟩ := exchanges_of_runStage hjournal hrun r.code r.message
  rw [← hsame] at hexchanges
  exact progressing_answer hexchanges ((hbacked.spared (hspares x hreports)).changed hhonest)

theorem Exchanged.progressing (hhonest : service.Honest counting)
    (hbare : t.transaction.envelope.Bare counting) (hexchanged : Exchanged service t after) :
    Progressing service counting after := by
  have hasked : ∀ authenticator username password, service.authenticator = some authenticator →
      (t.questioned authenticator username password).transaction.envelope.Bare counting :=
    fun authenticator username password hauthenticator =>
      hbare.changed (hhonest.authenticator authenticator hauthenticator username password
        t.transaction t.world)
  cases hexchanged with
  | refused cost code message hcode =>
      exact progressing_bare (t.penalize cost) hbare code message
  | challenged step =>
      rw [Progressing, challenge_phase]
      simp only [challenge_transaction]
      exact hbare
  | rejected authenticator username password r hauthenticator hverdict =>
      exact progressing_bare ((t.questioned authenticator username password).penalize _)
        (hasked authenticator username password hauthenticator) _ _
  | accepted authenticator username password hauthenticator hverdict =>
      exact progressing_bare
        ((t.questioned authenticator username password).signIn username password)
        (hasked authenticator username password hauthenticator) _ _

theorem envelope_welcome (recipient : ForwardPath) (mid : Turn W) :
    ((if mid.transaction.envelope.recipients.isEmpty then mid.reward Karma.commandExecuted
      else mid).addRecipient recipient).transaction.envelope =
        { mid.transaction.envelope with
          recipients := mid.transaction.envelope.recipients ++ [recipient] } := by
  split
  · rfl
  · rfl

theorem Handled.progressing {line : CommandLine} {settled : List Event}
    (hhonest : service.Honest counting) (hjournal : t.journal = .command line :: settled)
    (hbacked : BackedBy service counting (exchanges settled) t.transaction.envelope)
    (hhandled : Handled service line t after) : Progressing service counting after := by
  cases hhandled with
  | refused cost code message hcode hverb =>
      exact progressing_reply (t.penalize cost) hjournal hbacked
        (fun x hreports => hreports.spares_of_negative hcode (hverb .rset (by simp))) rfl rfl _
  | idle hverb =>
      exact progressing_reply t hjournal hbacked
        (fun x hreports => hreports.spares_of_verb hverb (by simp)) rfl rfl _
  | reset hverb => exact progressing_bare t.resetEnvelope ⟨rfl, fun _ => rfl⟩ _ _
  | greeted protocol name mid hverb hname hrun =>
      exact progressing_bare (mid.resetEnvelope.reward _) ⟨rfl, fun _ => rfl⟩ _ _
  | greetingRefused protocol name mid r hverb hname hrun =>
      have hmid := honest_of_runStage hhonest hrun trivial
      exact progressing_refusal (t.introduce protocol name)
        (mid.restoreGreeting t.transaction.peer) hjournal hbacked hrun
        (fun x hreports => hreports.spares_of_greeting hverb) rfl hmid
  | senderAccepted path sender mid hverb hobstacle hpath hparse hrun =>
      obtain ⟨x, hasks, hpasses, hexchanges⟩ :=
        passes_of_runStage (t := t.setSender (some sender)) hjournal hrun 250 "Go ahead"
      obtain ⟨-, -, -, hnone⟩ := senderObstacle_eq_none hobstacle
      have hmid := honest_of_runStage hhonest hrun trivial
      have hrecipients : counting → mid.transaction.envelope.recipients = [] :=
        fun hcounting => hmid.noRecipients hcounting (hbacked.bare hcounting hnone)
      refine progressing_answer (t := mid.reward Karma.commandExecuted) hexchanges ⟨?_, ?_⟩
      · exact fun hcounting _ => hrecipients hcounting
      · intro _
        refine ⟨false, .mail x (by rw [hasks, hverb]; rfl) hpasses, ?_⟩
        exact fun hcounting hne => absurd (hrecipients hcounting) hne
  | senderRefused path sender mid r hverb hobstacle hpath hparse hrun =>
      obtain ⟨-, -, -, hnone⟩ := senderObstacle_eq_none hobstacle
      have hmid := honest_of_runStage hhonest hrun trivial
      refine progressing_bare (mid.setSender none) ⟨rfl, fun hcounting => ?_⟩ _ _
      exact hmid.noRecipients hcounting (hbacked.bare hcounting hnone)
  | recipientAccepted path recipient mid hverb hsender hroom hpath hparse hrun =>
      obtain ⟨x, hasks, hpasses, hexchanges⟩ :=
        passes_of_runStage hjournal hrun 250 "Go ahead"
      have hmid := honest_of_runStage hhonest hrun trivial
      rw [← journal_welcome recipient mid] at hexchanges
      refine progressing_answer hexchanges ?_
      rw [envelope_welcome]
      constructor
      · intro hcounting hnone
        simp [Option.isSome_iff_ne_none.mp (hmid.sender hcounting hsender)] at hnone
      · intro _
        obtain ⟨received, houtstanding, -⟩ := hbacked.outstanding hsender
        exact ⟨true, .rcpt x recipient (by rw [hasks, hverb]; rfl) hpasses houtstanding,
          fun _ _ => rfl⟩
  | recipientRefused path recipient mid r hverb hsender hpath hparse hrun =>
      have hmid := honest_of_runStage hhonest hrun trivial
      exact progressing_refusal t (mid.penalize _) hjournal hbacked hrun
        (fun x hreports => hreports.spares_of_verb hverb (by simp)) rfl hmid
  | bodyAwaited hverb hsender hrecipients =>
      intro hcounting
      obtain ⟨received, houtstanding, hreceived⟩ := hbacked.outstanding hsender
      rw [hreceived hcounting hrecipients] at houtstanding
      refine ⟨settled, line, "Go ahead. End your data with <CR><LF>.<CR><LF>", ?_, hverb,
        houtstanding⟩
      rw [inPhase_journal, reply_journal, hjournal]
  | quit message hverb => exact progressing_close
  | handshakeAwaited hverb hplain hoffers => exact trivial
  | auth _ hverb hobstacle hexchanged =>
      exact hexchanged.progressing hhonest
        (hbacked.bare_of_sender (sender_of_authObstacle hobstacle))
  | proxied header hverb henabled hfirst hparse =>
      exact progressing_reply (t.relocate service header.source) hjournal hbacked
        (fun x hreports => hreports.spares_of_verb hverb (by simp)) rfl rfl _
  | xclient attributes hverb henabled hparse =>
      refine progressing_reply ((t.moveTo service attributes).mapPeer (withAttributes attributes))
        hjournal hbacked (fun x hreports => hreports.spares_of_verb hverb (by simp)) ?_ ?_ _
      · rw [mapPeer_eq, mapTransaction_journal, moveTo_journal]
      · rw [mapPeer_eq, mapTransaction_transaction, moveTo_envelope]

theorem Begun.progressing (hhonest : service.Honest counting)
    (hbare : t.transaction.envelope.Bare counting) (hbegun : Begun service t after) :
    Progressing service counting after := by
  cases hbegun with
  | refused mid r hrun => exact progressing_close
  | greeted mid hrun =>
      have hmid : t.transaction.envelope.Honest counting mid.transaction.envelope :=
        honest_of_runStage (t := t.lookUpNames service) hhonest hrun trivial
      rw [progressing_command (awaitCommand_phase _), awaitCommand_transaction, greet,
        reply_transaction]
      exact .of_bare (hbare.changed hmid)

/-- Behind a body there is no message at hand. -/
theorem Ended.progressing {outcome : BodyOutcome} (hended : Ended service t outcome after) :
    Progressing service counting after := by
  cases hended with
  | tooBig => exact progressing_bare (t.penalize _).resetEnvelope ⟨rfl, fun _ => rfl⟩ _ _
  | bodyRefused body mid r hdata =>
      exact progressing_bare mid.resetEnvelope ⟨rfl, fun _ => rfl⟩ _ _
  | messageRefused body judged mid r hdata hhandler =>
      exact progressing_bare mid.resetEnvelope ⟨rfl, fun _ => rfl⟩ _ _
  | messageAccepted body judged mid hdata hhandler =>
      exact progressing_bare (mid.countMessage.reward _).resetEnvelope ⟨rfl, fun _ => rfl⟩ _ _

/-- The message at hand goes on to follow from the journal, whatever happens. -/
theorem Move.progressing {signal : Signal} (hhonest : service.Honest counting)
    (hmove : Move service t signal after) (hprogressing : Progressing service counting t) :
    Progressing service counting after := by
  cases hmove with
  | unheard b hphase => exact hprogressing
  | unasked result hphase => exact hprogressing
  | finished signal hphase => exact hprogressing
  | passed b phase hpasses =>
      rw [Progressing] at hprogressing
      generalize t.phase = before at hpasses hprogressing
      cases hpasses with
      | command reader hb => exact hprogressing
      | response step reader hb => exact hprogressing
      | body decoder hb => exact hprogressing
  | overlong reader hphase hline =>
      have hbacked := (progressing_command hphase).mp hprogressing
      have hspares : Exchange.Spares ⟨none, [.replied ⟨500, "5.5.2 Line too long"⟩]⟩ :=
        ⟨fun protocol => rfl, rfl, rfl, rfl⟩
      rw [progressing_command (awaitCommand_phase _)]
      exact hbacked.spared ⟨rfl, hspares⟩
  | handled reader text _ hphase hline hhandled =>
      have hbacked := (progressing_command hphase).mp hprogressing
      exact Handled.progressing (t := (t.countRead 1).note (.command _)) hhonest rfl hbacked
        hhandled
  | exchanged step reader _ hphase hexchanged =>
      rw [Progressing, hphase] at hprogressing
      exact Exchanged.progressing (t := t.countRead 1) hhonest hprogressing hexchanged
  | bodyEnded b outcome _ hread hended => exact hended.progressing
  | opened h _ hphase hbegun =>
      rw [Progressing, hphase] at hprogressing
      exact Begun.progressing (t := t.encrypt h) hhonest hprogressing hbegun
  | upgraded h hphase =>
      have hafter : (t.upgraded h).phase = .command {} := rfl
      rw [progressing_command hafter]
      exact .of_bare ⟨rfl, fun _ => rfl⟩
  | openingFailed | upgradeFailed | ended | timedOut | expired => exact progressing_close

section Recipients

variable {candidate : ForwardPath} {holds : Transaction → List Event → Prop}

/-- No command but RCPT has recipients asked about. -/
theorem Handled.eachRecipient {line : CommandLine} (hhandled : Handled service line t after)
    (hholds : line.verb? = some .rcpt → t.transaction.envelope.sender.isSome →
      holds t.transaction t.journal)
    (heach : EachStart (.recipient candidate) holds t.journal) :
    EachStart (.recipient candidate) holds after.journal := by
  have hother : ∀ {stage : Stage} {before mid : Turn W} {refusal : Option Refusal},
      before.runStage service stage = (mid, refusal) → before.journal = t.journal →
        stage ≠ .recipient candidate → EachStart (.recipient candidate) holds mid.journal := by
    intro stage before mid refusal hrun hsame hne
    rw [← hsame] at heach
    exact (eachStart_of_runStage hne hrun).mpr heach
  cases hhandled with
  | refused cost code message hcode hverb => exact (eachStart_replied _).mpr heach
  | idle hverb => exact (eachStart_replied _).mpr heach
  | reset hverb => exact (eachStart_replied _).mpr heach
  | greeted protocol name mid hverb hname hrun =>
      have hmid := hother hrun rfl nofun
      exact (eachStart_replied _).mpr hmid
  | greetingRefused protocol name mid r hverb hname hrun =>
      have hmid := hother hrun rfl nofun
      exact (eachStart_replied _).mpr hmid
  | senderAccepted path sender mid hverb hobstacle hpath hparse hrun =>
      have hmid := hother hrun rfl nofun
      exact (eachStart_replied _).mpr hmid
  | senderRefused path sender mid r hverb hobstacle hpath hparse hrun =>
      have hmid := hother hrun rfl nofun
      exact (eachStart_replied _).mpr hmid
  | recipientAccepted path recipient mid hverb hsender hroom hpath hparse hrun =>
      have hmid := eachStart_runStage hrun (fun _ => hholds hverb hsender) heach
      rw [conclude_journal, reply_journal, journal_welcome]
      exact (eachStart_replied _).mpr hmid
  | recipientRefused path recipient mid r hverb hsender hpath hparse hrun =>
      have hmid := eachStart_runStage hrun (fun _ => hholds hverb hsender) heach
      exact (eachStart_replied _).mpr hmid
  | bodyAwaited hverb hsender hrecipients => exact (eachStart_replied _).mpr heach
  | quit message hverb =>
      exact eachStart_close nofun ((eachStart_replied ⟨221, message⟩).mpr heach)
  | handshakeAwaited hverb hplain hoffers => exact (eachStart_replied _).mpr heach
  | auth _ hverb hobstacle hexchanged => exact hexchanged.eachStart heach
  | proxied header hverb henabled hfirst hparse => exact (eachStart_replied _).mpr heach
  | xclient attributes hverb henabled hparse =>
      have hmoved : EachStart (.recipient candidate) holds
          (t.moveTo service attributes).journal := by
        rw [moveTo_journal]
        exact heach
      exact (eachStart_replied _).mpr hmoved

theorem Begun.eachRecipient (hbegun : Begun service t after)
    (heach : EachStart (.recipient candidate) holds t.journal) :
    EachStart (.recipient candidate) holds after.journal := by
  have hconnection : ∀ {mid : Turn W} {refusal : Option Refusal},
      (t.lookUpNames service).runStage service .connection = (mid, refusal) →
        EachStart (.recipient candidate) holds mid.journal := by
    intro mid refusal hrun
    have hne : Stage.connection ≠ .recipient candidate := nofun
    exact (eachStart_of_runStage hne hrun).mpr heach
  cases hbegun with
  | refused mid r hrun =>
      exact eachStart_close nofun ((eachStart_replied ⟨r.code, r.message⟩).mpr (hconnection hrun))
  | greeted mid hrun => exact (eachStart_replied _).mpr (hconnection hrun)

theorem Ended.eachRecipient {outcome : BodyOutcome} (hended : Ended service t outcome after)
    (heach : EachStart (.recipient candidate) holds t.journal) :
    EachStart (.recipient candidate) holds after.journal := by
  have hresumes : Resumes.{u, 0} service t outcome after := hended.resumes
  obtain ⟨code, message, newer, hjournal, hevents, -⟩ := hresumes.journal
  have hskipped : ∀ tx, .stage (.recipient candidate) tx ∉ newer := by
    intro tx hmem
    obtain ⟨stage, hmessage, hof⟩ := hevents _ hmem
    have hstage : stage = .recipient candidate := hof.unique (.inl ⟨tx, rfl⟩)
    rw [hstage] at hmessage
    simp [Stage.OfMessage] at hmessage
  rw [hjournal, List.cons_append]
  exact (eachStart_replied _).mpr ((eachStart_append hskipped).mpr heach)

/-- What holds where a client with a sender has sent RCPT holds wherever a recipient is asked
about. -/
theorem Move.eachRecipient {signal : Signal} (hmove : Move service t signal after)
    (hholds : ∀ reader line, t.phase = .command reader → line.verb? = some .rcpt →
      t.transaction.envelope.sender.isSome → holds t.transaction (.command line :: t.journal))
    (heach : EachStart (.recipient candidate) holds t.journal) :
    EachStart (.recipient candidate) holds after.journal := by
  cases hmove with
  | unheard b hphase => exact heach
  | unasked result hphase => exact heach
  | finished signal hphase => exact heach
  | passed b phase hpasses => exact heach
  | overlong reader hphase hline =>
      have hskips := (Reading.eachStart (.recipient candidate) holds).read_overlong t.journal
      exact (eachStart_replied _).mpr (hskips.mpr heach)
  | handled reader text _ hphase hline hhandled =>
      have hskips := (Reading.eachStart (.recipient candidate) holds).read_command t.journal
        (CommandLine.parse text)
      exact hhandled.eachRecipient (hholds reader (CommandLine.parse text) hphase)
        (hskips.mpr heach)
  | exchanged step reader _ hphase hexchanged =>
      exact hexchanged.eachStart (t := t.countRead 1) heach
  | bodyEnded b outcome _ hread hended => exact hended.eachRecipient (t := t.countRead 1) heach
  | opened h _ hphase hbegun => exact hbegun.eachRecipient (t := t.encrypt h) heach
  | upgraded h hphase => exact heach
  | openingFailed signal hphase hsignal => exact eachStart_close nofun heach
  | upgradeFailed signal hphase hsignal =>
      exact eachStart_close nofun
        ((eachStart_replied ⟨550, "Handshake error"⟩).mpr heach)
  | ended hphase => exact eachStart_close nofun heach
  | timedOut hphase =>
      exact eachStart_close nofun ((eachStart_replied ⟨421, "Connection timed out."⟩).mpr heach)
  | expired hphase => exact eachStart_close nofun heach

end Recipients

section Bodies

/-- A body is read for clients with a sender and a recipient. -/
theorem Move.addressed {signal : Signal} {d : DotDecoder} (hmove : Move service t signal after)
    (haddressed : ∀ d, t.phase = .body d → t.transaction.Addressed)
    (hphase : after.phase = .body d) : after.transaction.Addressed := by
  cases hmove with
  | unheard b hbefore => simp [hphase] at hbefore
  | unasked result hbefore => exact haddressed d hphase
  | finished signal hbefore => simp [hphase] at hbefore
  | passed b next hpasses =>
      have hnext : next = .body d := hphase
      subst hnext
      generalize hbefore : t.phase = before at hpasses
      cases hpasses with
      | body decoder hb => exact haddressed decoder hbefore
  | handled reader text _ hbefore hline hhandled =>
      obtain ⟨hsender, hrecipients, rfl⟩ := hhandled.awaited hphase
      rw [inPhase_transaction, reply_transaction]
      exact ⟨hsender, hrecipients⟩
  | exchanged step reader _ hbefore hexchanged => exact absurd hphase (hexchanged.phase_ne d)
  | opened h _ hbefore hbegun => exact absurd hphase (hbegun.phase_ne d)
  | upgraded h hbefore => simp [Turn.upgraded] at hphase
  | overlong => simp at hphase
  | bodyEnded b outcome _ hread hended => exact absurd hphase (hended.phase_ne d)
  | openingFailed | upgradeFailed | ended | timedOut | expired =>
      cases close_phase.symm.trans hphase

/-- What holds where a body is read holds wherever one is looked at. -/
theorem Move.eachBody {signal : Signal} {holds : Transaction × List Event → Prop}
    (hmove : Move service t signal after)
    (hholds : ∀ d body, t.phase = .body d → holds ((t.hold body).transaction, t.journal))
    (heach : ∀ begun ∈ MailIntake.dataStarts t.journal, holds begun) :
    ∀ begun ∈ MailIntake.dataStarts after.journal, holds begun := by
  rcases hmove.dataStarts with hsame | ⟨b, body, -, ⟨d, hphase, -, -⟩, hmore⟩
  · rw [hsame]
    exact heach
  · rw [hmore]
    exact List.forall_mem_cons.mpr ⟨hholds d body hphase, heach⟩

end Bodies

end Turn
end MailIntake
