import MailIntake.Proofs.Session.Body
import MailIntake.Proofs.Session.Envelope
import MailIntake.Proofs.Session.Pushes
/-!
Whose aliases a message is handed on with.  Those that were pushed for its sender and its recipients
are there, but so are those that were pushed before a refusal: a refused command takes back its
sender or its greeting and not its aliases (`run_handler_aliases`).
-/
namespace MailIntake

universe u

variable {W : Type u}

/-- Checkers push aliases and take none away, and the authenticator does neither. -/
structure Service.Pushes (service : Service W) : Prop where
  stages : ∀ stage, ∀ checker ∈ service.pipelines.checkers stage, ∀ tx world,
    tx.envelope.aliases <+: (checker tx world).transaction.envelope.aliases
  authenticator : service.AuthenticatorKeeps fun tx _ => tx.envelope.aliases

/-- The checkers of the connection push no aliases. -/
def Service.Quiet (service : Service W) : Prop :=
  service.KeepsAt (fun tx _ => tx.envelope.aliases) .connection

/-- An envelope and the account of its aliases. -/
structure Account (quiet : Prop) (envelope : Envelope) (history : List Exchange) : Prop where
  ledger : Ledger quiet envelope.aliases history
  joined : Joined envelope.sender.isSome history

/-- A command is being carried out, and no stage has run for it. -/
def Underway (line : CommandLine) (settled journal : List Event) : Prop :=
  ∃ newer, journal = newer ++ .command line :: settled ∧
    ∀ e ∈ newer, e.continues ∧ e.aliases? = none

theorem Underway.cons {line : CommandLine} {settled journal : List Event} {e : Event}
    (hunderway : Underway line settled journal) (hcontinues : e.continues)
    (haliases : e.aliases? = none) : Underway line settled (e :: journal) := by
  obtain ⟨newer, rfl, hnewer⟩ := hunderway
  exact ⟨e :: newer, rfl, List.forall_mem_cons.mpr ⟨⟨hcontinues, haliases⟩, hnewer⟩⟩

theorem Underway.exchanges {line : CommandLine} {settled journal : List Event}
    (hunderway : Underway line settled journal) :
    ∃ x : Exchange, x.line = some line ∧ (∀ now, x.found now = now) ∧
      MailIntake.exchanges journal = x :: MailIntake.exchanges settled := by
  obtain ⟨newer, rfl, hnewer⟩ := hunderway
  refine ⟨⟨some line, newer.reverse⟩, rfl, ?_, ?_⟩
  · refine Exchange.found_of_none ?_
    intro e he
    exact (hnewer e (List.mem_reverse.mp he)).2
  · exact exchanges_command (fun e he => (hnewer e he).1) line settled

section Account

variable {quiet : Prop} {before after : Envelope} {history : List Exchange} {x : Exchange}

/-- What leaves the envelope empty begins a new account. -/
theorem Account.empty (hempties : x.empties) : Account quiet {} (x :: history) where
  ledger := .empty hempties
  joined := .empty hempties

/-- An exchange in which nobody joins the message. -/
theorem Account.stay (haccount : Account quiet before history) (hspares : x.empties = false)
    (hjoins : x.joins = false) (hmail : before.sender.isSome → x.answered .mail 250 = false)
    (hsender : after.sender = before.sender) (hfound : x.found after.aliases = before.aliases)
    (hextends : before.aliases <+: after.aliases)
    (htold : x.refused ∨ ∀ now, x.found now = now) : Account quiet after (x :: history) where
  ledger := haccount.ledger.cons hspares hfound hextends (.inr htold)
  joined := by
    rw [hsender]
    exact haccount.joined.stay hspares hjoins hmail

/-- An exchange in which nothing is pushed. -/
theorem Account.keep (haccount : Account quiet before history) (hspares : x.empties = false)
    (hjoins : x.joins = false) (hmail : x.answered .mail 250 = false)
    (hfound : ∀ now, x.found now = now) (hsender : after.sender = before.sender)
    (haliases : after.aliases = before.aliases) : Account quiet after (x :: history) := by
  refine haccount.stay hspares hjoins (fun _ => hmail) hsender ?_ ?_ (.inr hfound)
  · rw [hfound, haliases]
  · rw [haliases]

end Account

namespace Exchange.Reports

variable {x : Exchange} {line : CommandLine} {code : UInt16} {refused : Bool}

theorem joins_eq (hreports : x.Reports line code refused) :
    x.joins = ((line.verb? == some .mail || line.verb? == some .rcpt) && code == 250 &&
      !refused) := by
  rw [joins, hreports.accepted_eq, hreports.accepted_eq, Bool.and_assoc, Bool.and_assoc,
    Bool.and_assoc, Bool.and_or_distrib_right]

theorem empties_eq (hreports : x.Reports line code refused) :
    x.empties = ((line.verb? == some .helo || line.verb? == some .ehlo) && code == 250 &&
        !refused || line.verb? == some .rset || line.verb? == some .startTls && code == 220 ||
      line.verb? == some .data && code == 354) := by
  rw [empties, hreports.accepted_eq, hreports.accepted_eq, hreports.asks_eq,
    hreports.answered_eq, hreports.answered_eq, Bool.and_assoc, Bool.and_assoc, Bool.and_assoc,
    Bool.and_or_distrib_right]

/-- A command that is turned down leaves the message at hand alone. -/
theorem stays_of_negative (hreports : x.Reports line code refused) (hcode : Turn.Negative code)
    (hverb : line.verb? ≠ some .rset) :
    x.answered .mail 250 = false ∧ x.Spares ∧ x.joins = false := by
  have hspares := hreports.spares_of_negative hcode hverb
  have hne : (code == 250) = false := by
    rw [beq_eq_false_iff_ne]
    rintro rfl
    exact absurd hcode (by decide)
  refine ⟨hspares.1, hspares.2, ?_⟩
  rw [hreports.joins_eq, hne, Bool.and_false, Bool.false_and]

/-- Some commands leave the message at hand alone whatever becomes of them. -/
theorem stays_of_verb {verb : CommandLine.Verb} (hreports : x.Reports line code refused)
    (hverb : line.verb? = some verb) (hother : verb = .noop ∨ verb = .proxy ∨ verb = .xclient) :
    x.answered .mail 250 = false ∧ x.Spares ∧ x.joins = false := by
  have hspares := hreports.spares_of_verb hverb (by rcases hother with h | h | h <;> simp [h])
  refine ⟨hspares.1, hspares.2, ?_⟩
  rw [hreports.joins_eq, hverb]
  rcases hother with rfl | rfl | rfl <;> rfl

end Exchange.Reports

namespace Turn

variable {service : Service W} {t after : Turn W}

/-- The account of the aliases, phase by phase. -/
def Accounted (service : Service W) (t : Turn W) : Prop :=
  match t.phase with
  | .opening => t.journal = [] ∧ t.transaction.envelope.sender = none ∧
      t.transaction.envelope.aliases = []
  | .command _ => Account service.Quiet t.transaction.envelope (exchanges t.journal)
  | .response _ _ => ∃ line settled, Underway line settled t.journal ∧ line.verb? = some .auth ∧
      t.transaction.envelope.sender = none ∧
      Account service.Quiet t.transaction.envelope (exchanges settled)
  | .handshake => ∃ x history, exchanges t.journal = x :: history ∧ x.empties
  | .body _ => ∃ line settled message,
      t.journal = .replied ⟨354, message⟩ :: .command line :: settled ∧
        line.verb? = some .data ∧ t.transaction.envelope.sender.isSome ∧
        Account service.Quiet t.transaction.envelope (exchanges settled)
  | .closed => True

theorem accounted_close : Accounted service (t.close service) := by
  rw [Accounted, close_phase]
  trivial

theorem accounted_command {reader : LineReader} (hphase : t.phase = .command reader) :
    Accounted service t ↔ Account service.Quiet t.transaction.envelope (exchanges t.journal) := by
  rw [Accounted, hphase]

/-- A reply with which a command ends. -/
theorem accounted_answer {code : UInt16} {message : String} {x : Exchange}
    {history : List Exchange}
    (hexchanges : exchanges (.replied ⟨code, message⟩ :: t.journal) = x :: history)
    (haccount : Account service.Quiet t.transaction.envelope (x :: history)) :
    Accounted service (t.reply code message).conclude := by
  rw [accounted_command (conclude_phase _), conclude_journal, reply_journal, hexchanges,
    conclude_transaction, reply_transaction]
  exact haccount

theorem aliases_of_runStage {stage : Stage} {refusal : Option Refusal} (hpushes : service.Pushes)
    (hrun : t.runStage service stage = (after, refusal)) :
    t.transaction.envelope.aliases <+: after.transaction.envelope.aliases := by
  have hafter : (t.runStage service stage).1 = after := by rw [hrun]
  rw [← hafter]
  refine check_induction stage _
    (motive := fun mid => t.transaction.envelope.aliases <+: mid.transaction.envelope.aliases)
    ?_ 0 (List.prefix_refl _)
  intro checker hchecker place mid hmid
  exact hmid.trans (hpushes.stages stage checker hchecker mid.transaction mid.world)

theorem aliases_welcome (recipient : ForwardPath) (mid : Turn W) :
    ((if mid.transaction.envelope.recipients.isEmpty then mid.reward Karma.commandExecuted
      else mid).addRecipient recipient).transaction.envelope.aliases =
        mid.transaction.envelope.aliases := by
  split
  · rfl
  · rfl

/-- An exchange about credentials ends.  Nobody joined, and nothing was pushed. -/
theorem accounted_credentials {line : CommandLine} {settled : List Event} (told : Turn W)
    (hunderway : Underway line settled told.journal) (hverb : line.verb? = some .auth)
    (haccount : Account service.Quiet t.transaction.envelope (exchanges settled))
    (hsender : told.transaction.envelope.sender = t.transaction.envelope.sender)
    (haliases : told.transaction.envelope.aliases = t.transaction.envelope.aliases)
    (code : UInt16) (message : String) : Accounted service (told.reply code message).conclude := by
  obtain ⟨x, hline, hfound, hexchanges⟩ :=
    (hunderway.cons (e := .replied ⟨code, message⟩) rfl rfl).exchanges
  have hasks : ∀ verb, x.asks verb = (some CommandLine.Verb.auth == some verb) := by
    intro verb
    rw [Exchange.asks, hline, Option.bind_some, hverb]
  have hempties : x.empties = false := by
    simp [Exchange.empties, Exchange.accepted, Exchange.answered, hasks]
  have hjoins : x.joins = false := by
    simp [Exchange.joins, Exchange.accepted, Exchange.answered, hasks]
  have hmail : x.answered .mail 250 = false := by
    simp [Exchange.answered, hasks]
  exact accounted_answer hexchanges
    (haccount.keep hempties hjoins hmail hfound hsender haliases)

/-- An exchange about credentials goes on, or ends and has pushed nothing. -/
theorem Exchanged.accounted {line : CommandLine} {settled : List Event}
    (hkeeps : service.Keeps fun tx _ => tx.standing) (hpushes : service.Pushes)
    (hunderway : Underway line settled t.journal) (hverb : line.verb? = some .auth)
    (hsender : t.transaction.envelope.sender = none)
    (haccount : Account service.Quiet t.transaction.envelope (exchanges settled))
    (hexchanged : Exchanged service t after) : Accounted service after := by
  have hquestioned : ∀ authenticator username password,
      service.authenticator = some authenticator →
      Underway line settled (t.questioned authenticator username password).journal ∧
      (t.questioned authenticator username password).transaction.envelope.sender =
        t.transaction.envelope.sender ∧
      (t.questioned authenticator username password).transaction.envelope.aliases =
        t.transaction.envelope.aliases := by
    intro authenticator username password hauthenticator
    have hstanding := hkeeps.authenticator authenticator hauthenticator username password
      t.transaction t.world
    have haliases := hpushes.authenticator authenticator hauthenticator username password
      t.transaction t.world
    refine ⟨?_, congrArg Standing.sender hstanding, haliases⟩
    rw [questioned_journal]
    exact hunderway.cons rfl rfl
  -- A further response is no command, so the exchange is still that of the line that began it.
  cases hexchanged with
  | refused cost code message hcode =>
      exact accounted_credentials (t.penalize cost) hunderway hverb haccount rfl rfl code message
  | challenged step =>
      refine ⟨line, settled, ?_, hverb, ?_⟩
      · rw [challenge_journal]
        exact hunderway.cons rfl rfl
      · rw [challenge_transaction]
        exact ⟨hsender, haccount⟩
  | rejected authenticator username password r hauthenticator hverdict =>
      obtain ⟨hstill, hkept, haliases⟩ := hquestioned authenticator username password
        hauthenticator
      exact accounted_credentials ((t.questioned authenticator username password).penalize _)
        hstill hverb haccount hkept haliases _ _
  | accepted authenticator username password hauthenticator hverdict =>
      obtain ⟨hstill, hkept, haliases⟩ := hquestioned authenticator username password
        hauthenticator
      exact accounted_credentials
        ((t.questioned authenticator username password).signIn username password) hstill hverb
        haccount hkept haliases _ _

/-- A command that is answered at once and changes nothing about the message at hand. -/
theorem accounted_reply {line : CommandLine} {settled : List Event} (told : Turn W)
    (hjournal : t.journal = .command line :: settled)
    (haccount : Account service.Quiet t.transaction.envelope (exchanges settled)) {code : UInt16}
    (hspares : ∀ x : Exchange, x.Reports line code false →
      x.answered .mail 250 = false ∧ x.Spares ∧ x.joins = false)
    (hsame : told.journal = t.journal)
    (henvelope : told.transaction.envelope = t.transaction.envelope) (message : String) :
    Accounted service (told.reply code message).conclude := by
  obtain ⟨x, hreports, hexchanges⟩ := exchanges_of_reply hjournal code message
  obtain ⟨hmail, hspared, hjoins⟩ := hspares x hreports
  have hfound := found_of_reply hjournal hexchanges
  rw [← hsame] at hexchanges
  refine accounted_answer hexchanges ?_
  rw [henvelope]
  exact haccount.keep (Exchange.empties_of_spares hspared) hjoins hmail hfound rfl rfl

/-- A command that is refused behind a stage.  What the stage pushed stays. -/
theorem accounted_refusal {line : CommandLine} {settled : List Event} {stage : Stage}
    {mid : Turn W} {r : Refusal} (before told : Turn W) (hpushes : service.Pushes)
    (hjournal : before.journal = .command line :: settled)
    (haccount : Account service.Quiet t.transaction.envelope (exchanges settled))
    (haliases : before.transaction.envelope.aliases = t.transaction.envelope.aliases)
    (hrun : before.runStage service stage = (mid, some r))
    (hspares : ∀ x : Exchange, x.Reports line r.code true → x.empties = false ∧
      (t.transaction.envelope.sender.isSome → x.answered .mail 250 = false))
    (hsame : told.journal = mid.journal)
    (hsender : told.transaction.envelope.sender = t.transaction.envelope.sender)
    (hpushed : told.transaction.envelope.aliases = mid.transaction.envelope.aliases) :
    Accounted service (told.reply r.code r.message).conclude := by
  obtain ⟨x, hreports, hexchanges⟩ := exchanges_of_runStage hjournal hrun r.code r.message
  obtain ⟨hempties, hmail⟩ := hspares x hreports
  have hfound := found_of_runStage hjournal hrun hexchanges
  have hextends := aliases_of_runStage hpushes hrun
  have hjoins : x.joins = false := by
    rw [hreports.joins_eq, Option.isSome_some, Bool.not_true, Bool.and_false]
  have hrefused : x.refused = true := hreports.refuses_eq
  rw [← hsame] at hexchanges
  -- The refusal takes back none of what the checkers before it pushed.
  refine accounted_answer hexchanges
    (haccount.stay hempties hjoins hmail hsender ?_ ?_ (.inl hrefused))
  · rw [hfound, haliases]
  · rw [hpushed, ← haliases]
    exact hextends

/-- A command with which somebody joins behind a stage. -/
theorem accounted_acceptance {line : CommandLine} {settled : List Event} {stage : Stage}
    {mid : Turn W} {message : String} (before told : Turn W) (hpushes : service.Pushes)
    (hjournal : before.journal = .command line :: settled)
    (haccount : Account service.Quiet t.transaction.envelope (exchanges settled))
    (haliases : before.transaction.envelope.aliases = t.transaction.envelope.aliases)
    (hrun : before.runStage service stage = (mid, none))
    (hjoins : ∀ x : Exchange, x.Reports line 250 false → x.empties = false ∧ x.joins ∧
      Joined told.transaction.envelope.sender.isSome (x :: exchanges settled))
    (hsame : told.journal = mid.journal)
    (hpushed : told.transaction.envelope.aliases = mid.transaction.envelope.aliases) :
    Accounted service (told.reply 250 message).conclude := by
  obtain ⟨x, hreports, hexchanges⟩ := exchanges_of_runStage hjournal hrun 250 message
  obtain ⟨hempties, hjoin, hjoined⟩ := hjoins x hreports
  have hfound := found_of_runStage hjournal hrun hexchanges
  have hextends := aliases_of_runStage hpushes hrun
  rw [← hsame] at hexchanges
  refine accounted_answer hexchanges
    ⟨haccount.ledger.cons hempties ?_ ?_ (.inl hjoin), hjoined⟩
  · rw [hfound, haliases]
  · rw [hpushed, ← haliases]
    exact hextends

theorem Handled.accounted {line : CommandLine} {settled : List Event}
    (hkeeps : service.Keeps fun tx _ => tx.standing) (hpushes : service.Pushes)
    (hjournal : t.journal = .command line :: settled)
    (haccount : Account service.Quiet t.transaction.envelope (exchanges settled))
    (hhandled : Handled service line t after) : Accounted service after := by
  cases hhandled with
  | refused cost code message hcode hverb =>
      refine accounted_reply (t.penalize cost) hjournal haccount ?_ rfl rfl message
      intro x hreports
      exact hreports.stays_of_negative hcode (hverb .rset (by simp))
  | idle hverb =>
      refine accounted_reply t hjournal haccount ?_ rfl rfl _
      intro x hreports
      exact hreports.stays_of_verb hverb (by simp)
  | reset hverb =>
      obtain ⟨x, hreports, hexchanges⟩ := exchanges_of_reply hjournal 250 "Go ahead."
      refine accounted_answer (t := t.resetEnvelope) hexchanges (.empty ?_)
      rw [hreports.empties_eq, hverb]
      rfl
  | greeted protocol name mid hverb hname hrun =>
      obtain ⟨x, hreports, hexchanges⟩ := exchanges_of_runStage (t := t.introduce protocol name)
        hjournal hrun 250 (greetingText service protocol
          (mid.resetEnvelope.reward Karma.commandExecuted))
      refine accounted_answer (t := mid.resetEnvelope.reward Karma.commandExecuted) hexchanges
        (.empty ?_)
      rw [hreports.empties_eq, hverb]
      cases protocol <;> rfl
  | greetingRefused protocol name mid r hverb hname hrun =>
      have hsender := sender_of_runStage hkeeps hrun
      refine accounted_refusal (t.introduce protocol name)
        (mid.restoreGreeting t.transaction.peer) hpushes hjournal haccount rfl hrun ?_ rfl hsender
        rfl
      intro x hreports
      have hspares := hreports.spares_of_greeting hverb
      exact ⟨Exchange.empties_of_spares hspares.2, fun _ => hspares.1⟩
  | senderAccepted path sender mid hverb hobstacle hpath hparse hrun =>
      obtain ⟨-, -, -, hnone⟩ := senderObstacle_eq_none hobstacle
      have hsome : mid.transaction.envelope.sender = some sender :=
        sender_of_runStage hkeeps hrun
      have hbegun : (mid.reward Karma.commandExecuted).transaction.envelope.sender.isSome :=
        Option.isSome_iff_exists.mpr ⟨sender, hsome⟩
      have hjoined := haccount.joined
      rw [hnone, Option.isSome_none] at hjoined
      refine accounted_acceptance (t.setSender (some sender)) (mid.reward Karma.commandExecuted)
        hpushes hjournal haccount rfl hrun ?_ rfl rfl
      intro x hreports
      have hempties : x.empties = false := by
        rw [hreports.empties_eq, hverb]
        rfl
      have haccepted : x.accepted .mail := by
        rw [hreports.accepted_eq, hverb]
        rfl
      refine ⟨hempties, by simp [Exchange.joins, haccepted], ?_⟩
      rw [hbegun]
      exact hjoined.mail hempties haccepted
  | senderRefused path sender mid r hverb hobstacle hpath hparse hrun =>
      obtain ⟨-, -, -, hnone⟩ := senderObstacle_eq_none hobstacle
      refine accounted_refusal (t.setSender (some sender)) (mid.setSender none) hpushes hjournal
        haccount rfl hrun ?_ rfl hnone.symm rfl
      intro x hreports
      refine ⟨?_, ?_⟩
      · rw [hreports.empties_eq, hverb]
        rfl
      · intro hsome
        rw [hnone] at hsome
        cases hsome
  | recipientAccepted path recipient mid hverb hsender hroom hpath hparse hrun =>
      have hstanding := standing_welcome recipient (standing_of_runStage hkeeps hrun)
      have hkept := congrArg Standing.sender hstanding
      have hjoined := haccount.joined
      rw [hsender] at hjoined
      refine accounted_acceptance t _ hpushes hjournal haccount rfl hrun ?_
        (journal_welcome recipient mid) (aliases_welcome recipient mid)
      intro x hreports
      have hspares := hreports.spares_of_verb hverb (by simp)
      have hempties := Exchange.empties_of_spares hspares.2
      have haccepted : x.accepted .rcpt := by
        rw [hreports.accepted_eq, hverb]
        rfl
      refine ⟨hempties, by simp [Exchange.joins, haccepted], ?_⟩
      simp only [Transaction.standing] at hkept
      rw [hkept, hsender]
      exact hjoined.rcpt hempties haccepted hspares.1
  | recipientRefused path recipient mid r hverb hsender hpath hparse hrun =>
      have hkept := sender_of_runStage hkeeps hrun
      refine accounted_refusal t (mid.penalize Karma.recipientRejected) hpushes hjournal haccount
        rfl hrun ?_ rfl hkept rfl
      intro x hreports
      have hspares := hreports.spares_of_verb hverb (by simp)
      exact ⟨Exchange.empties_of_spares hspares.2, fun _ => hspares.1⟩
  | bodyAwaited hverb hsender hrecipients =>
      refine ⟨line, settled, "Go ahead. End your data with <CR><LF>.<CR><LF>", ?_, hverb, ?_⟩
      · rw [inPhase_journal, reply_journal, hjournal]
      · rw [inPhase_transaction, reply_transaction]
        exact ⟨hsender, haccount⟩
  | quit message hverb => exact accounted_close
  | handshakeAwaited hverb hplain hoffers =>
      obtain ⟨x, hreports, hexchanges⟩ := exchanges_of_reply hjournal 220 "Go ahead"
      refine ⟨x, exchanges settled, ?_, ?_⟩
      · rw [inPhase_journal, reply_journal]
        exact hexchanges
      · rw [hreports.empties_eq, hverb]
        rfl
  | auth _ hverb hobstacle hexchanged =>
      have hunderway : Underway line settled t.journal := ⟨[], hjournal, List.forall_mem_nil _⟩
      exact hexchanged.accounted hkeeps hpushes hunderway hverb
        (sender_of_authObstacle hobstacle) haccount
  | proxied header hverb henabled hfirst hparse =>
      refine accounted_reply (t.relocate service header.source) hjournal haccount ?_ rfl rfl _
      intro x hreports
      exact hreports.stays_of_verb hverb (by simp)
  | xclient attributes hverb henabled hparse =>
      refine accounted_reply ((t.moveTo service attributes).mapPeer (withAttributes attributes))
        hjournal haccount ?_ ?_ ?_ _
      · intro x hreports
        exact hreports.stays_of_verb hverb (by simp)
      · rw [mapPeer_eq, mapTransaction_journal, moveTo_journal]
      · rw [mapPeer_eq, mapTransaction_transaction, moveTo_envelope]

/-- Before the first command there is nothing to account for. -/
theorem Begun.accounted (hkeeps : service.Keeps fun tx _ => tx.standing)
    (hjournal : t.journal = []) (hsender : t.transaction.envelope.sender = none)
    (haliases : t.transaction.envelope.aliases = []) (hbegun : Begun service t after) :
    Accounted service after := by
  cases hbegun with
  | refused mid r hrun => exact accounted_close
  | greeted mid hrun =>
      obtain ⟨newer, hmid, hevents⟩ := newer_of_runStage hrun
      have hlooked : (t.lookUpNames service).journal = [] := hjournal
      have hnone : mid.transaction.envelope.sender = none :=
        (sender_of_runStage hkeeps hrun).trans hsender
      have hhistory : exchanges (mid.greet service).awaitCommand.journal = [] := by
        rw [awaitCommand_journal, greet, reply_journal, hmid, hlooked, List.append_nil]
        exact exchanges_of_continues
          (List.forall_mem_cons.mpr ⟨rfl, fun e he => (hevents e he).continues⟩)
      rw [accounted_command (awaitCommand_phase _), hhistory, awaitCommand_transaction, greet,
        reply_transaction]
      refine ⟨.nil ?_, ?_⟩
      · intro hquiet
        exact (seen_of_runStage hquiet hrun).trans haliases
      · rw [hnone]
        exact .nil

theorem Ended.envelope {outcome : BodyOutcome} (hended : Ended service t outcome after) :
    after.transaction.envelope = {} := by
  cases hended with
  | tooBig | bodyRefused | messageRefused | messageAccepted => simp [Transaction.resetEnvelope]

/-- A body that has been read leaves the envelope empty. -/
theorem Ended.accounted {line : CommandLine} {settled : List Event} {message : String}
    {outcome : BodyOutcome}
    (hjournal : t.journal = .replied ⟨354, message⟩ :: .command line :: settled)
    (hverb : line.verb? = some .data) (hended : Ended service t outcome after) :
    Accounted service after := by
  have hresumes : Resumes.{u, 0} service t outcome after := hended.resumes
  obtain ⟨code, text, newer, hafter, hevents, -⟩ := hresumes.journal
  have hnewer : ∀ e ∈ .replied ⟨code, text⟩ :: (newer ++ [.replied ⟨354, message⟩]),
      e.continues := by
    intro e he
    rcases List.mem_cons.mp he with rfl | he
    · rfl
    · rcases List.mem_append.mp he with hstage | hasked
      · obtain ⟨stage, -, hof⟩ := hevents e hstage
        exact hof.continues
      · rw [List.mem_singleton.mp hasked]
        rfl
  have hshape := exchanges_command hnewer line settled
  rw [accounted_command hresumes.phase, hended.envelope, hafter, hjournal]
  simp only [List.cons_append, List.append_assoc, List.nil_append] at hshape ⊢
  rw [hshape]
  refine .empty ?_
  simp [Exchange.empties, Exchange.answered, Exchange.asks, hverb, Event.answers]

theorem Move.accounted {signal : Signal} (hkeeps : service.Keeps fun tx _ => tx.standing)
    (hpushes : service.Pushes) (hmove : Move service t signal after)
    (haccounted : Accounted service t) : Accounted service after := by
  cases hmove with
  | unheard b hphase => exact haccounted
  | unasked result hphase => exact haccounted
  | finished signal hphase => exact haccounted
  | passed b phase hpasses =>
      generalize hbefore : t.phase = before at hpasses
      rw [Accounted, hbefore] at haccounted
      cases hpasses with
      | command reader hb => exact haccounted
      | response step reader hb => exact haccounted
      | body decoder hb => exact haccounted
  | overlong reader hphase hline =>
      have haccount := (accounted_command hphase).mp haccounted
      rw [accounted_command (awaitCommand_phase _)]
      exact haccount.keep (x := ⟨none, [.replied ⟨500, "5.5.2 Line too long"⟩]⟩) rfl rfl rfl
        (fun now => rfl) rfl rfl
  | handled reader text _ hphase hline hhandled =>
      exact hhandled.accounted (t := (t.countRead 1).note (.command (CommandLine.parse text)))
        hkeeps hpushes rfl ((accounted_command hphase).mp haccounted)
  | exchanged step reader _ hphase hexchanged =>
      rw [Accounted, hphase] at haccounted
      obtain ⟨line, settled, hunderway, hverb, hsender, haccount⟩ := haccounted
      exact hexchanged.accounted (t := t.countRead 1) hkeeps hpushes hunderway hverb hsender
        haccount
  | bodyEnded b outcome _ hread hended =>
      obtain ⟨decoder, hphase, -, -⟩ := hread
      rw [Accounted, hphase] at haccounted
      obtain ⟨line, settled, message, hjournal, hverb, -, -⟩ := haccounted
      exact hended.accounted (t := t.countRead 1) hjournal hverb
  | opened h _ hphase hbegun =>
      rw [Accounted, hphase] at haccounted
      obtain ⟨hjournal, hsender, haliases⟩ := haccounted
      exact hbegun.accounted (t := t.encrypt h) hkeeps hjournal hsender haliases
  | upgraded h hphase =>
      rw [Accounted, hphase] at haccounted
      obtain ⟨x, history, hexchanges, hempties⟩ := haccounted
      have hcommand : (t.upgraded h).phase = .command {} := rfl
      rw [accounted_command hcommand]
      change Account service.Quiet {} (exchanges t.journal)
      rw [hexchanges]
      exact .empty hempties
  | openingFailed | upgradeFailed | ended | timedOut | expired => exact accounted_close

/-- A message passed the checkers that look at it.  Their stage began with `held` behind the reply
that asks for a body, and what had been written down before the command for it is `settled`. -/
def Passed (held : Transaction) (settled older : List Event) : Prop :=
  ∃ checked asked line,
    older = checked ++ .stage .data held :: .replied asked :: .command line :: settled ∧
      (∀ e ∈ checked, ∃ place answer, e = .checked .data place answer) ∧ asked.code = 354 ∧
      line.verb? = some .data

/-- A message is handed on.  The aliases with which it was looked at are attributed to the commands
before, and any others were pushed by the checkers that looked at it. -/
def HandedOn (service : Service W) (tx : Transaction) (older : List Event) : Prop :=
  ∃ held settled, Passed held settled older ∧ held.envelope.aliases <+: tx.envelope.aliases ∧
    Attributed service.Quiet held.envelope.aliases (exchanges settled)

/-- What a handler gets when a message passed the checkers that look at it. -/
theorem handedOn_of_hold {line : CommandLine} {settled : List Event} {message : String}
    {body : List UInt8} {judged : Turn W} (hpushes : service.Pushes)
    (hjournal : t.journal = .replied ⟨354, message⟩ :: .command line :: settled)
    (hverb : line.verb? = some .data) (hsender : t.transaction.envelope.sender.isSome)
    (haccount : Account service.Quiet t.transaction.envelope (exchanges settled))
    (hdata : (t.hold body).runStage service .data = (judged, none)) :
    HandedOn service judged.transaction judged.journal := by
  obtain ⟨checks, hchecks, hjudged⟩ := journal_of_runStage hdata
  have hjoined := haccount.joined
  rw [hsender] at hjoined
  refine ⟨(t.hold body).transaction, settled, ⟨checks, ⟨354, message⟩, line, ?_, ?_, rfl, hverb⟩,
    aliases_of_runStage hpushes hdata, haccount.ledger.attributed hjoined⟩
  · have hheld : (t.hold body).journal = t.journal := rfl
    rw [hjudged, hheld, hjournal]
  · intro e he
    exact hchecks.eq_checked he

theorem Move.handedOn {signal : Signal} (hpushes : service.Pushes)
    (haccounted : Accounted service t) (hmove : Move service t signal after)
    (heach : EachStart .handler (HandedOn service) t.journal) :
    EachStart .handler (HandedOn service) after.journal := by
  refine hmove.eachHandler ?_ heach
  intro d body judged hphase hdata
  rw [Accounted, hphase] at haccounted
  obtain ⟨line, settled, message, hjournal, hverb, hsender, haccount⟩ := haccounted
  exact handedOn_of_hold (t := t.countRead 1) hpushes hjournal hverb hsender haccount hdata

variable (service) (id : TransactionId) (serverHostname : String)
  (localAddr remoteAddr : Address.Endpoint) (world : W)

theorem start_accounted (hkeeps : service.Keeps fun tx _ => tx.standing) :
    Accounted service (start service (.start id serverHostname localAddr remoteAddr) world) := by
  rw [start]
  split
  · exact ⟨rfl, rfl, rfl⟩
  · exact (begin_begun service _).accounted hkeeps rfl rfl rfl

theorem start_handedOn :
    EachStart .handler (HandedOn service)
      (start service (.start id serverHostname localAddr remoteAddr) world).journal :=
  start_eachStart service (.inr rfl) _ _ world

/-- Wherever a message is handed on, its aliases are attributed. -/
theorem run_handedOn (hkeeps : service.Keeps fun tx _ => tx.standing) (hpushes : service.Pushes)
    (inputs : List Input) :
    EachStart .handler (HandedOn service) ((start service
      (.start id serverHostname localAddr remoteAddr) world).run service inputs).journal := by
  have hinvariant := run_induction
    (motive := fun t => Accounted service t ∧ EachStart .handler (HandedOn service) t.journal)
    (fun before signal after hmove h =>
      ⟨hmove.accounted hkeeps hpushes h.1, hmove.handedOn hpushes h.1 h.2⟩) inputs
    ⟨start_accounted service id serverHostname localAddr remoteAddr world hkeeps,
      start_handedOn service id serverHostname localAddr remoteAddr world⟩
  exact hinvariant.2

/-- Whenever a message is handed on, its aliases are those that were pushed since the envelope was
last empty, command by command, and then by the checkers that looked at it.  They are those of the
MAIL and the RCPT commands that were accepted for it, and nothing else, exactly if no command that
was refused since then had pushed any and no checker of the connection had. -/
theorem run_handler_aliases (hkeeps : service.Keeps fun tx _ => tx.standing)
    (hpushes : service.Pushes) (inputs : List Input) {newer older : List Event} {tx : Transaction}
    (hjournal : ((start service (.start id serverHostname localAddr remoteAddr) world).run service
      inputs).journal = newer ++ .stage .handler tx :: older) :
    HandedOn service tx older := by
  have heach := run_handedOn service id serverHostname localAddr remoteAddr world hkeeps hpushes
    inputs
  rw [hjournal] at heach
  exact heach.at_start

end Turn

namespace Sample

/-- A checker that pushes every recipient as an alias, and then turns one of them away. -/
def redirect : RecipientChecker Office := fun candidate tx office =>
  { transaction := { tx with
      envelope := { tx.envelope with aliases := tx.envelope.aliases ++ [candidate.render] } }
    world := office
    refusal := if candidate.render = "b@c" then some (.reject ⟨550, "no"⟩) else none }

def redirecting : Service Office :=
  { hostname := "mx", pipelines := { recipient := [redirect], handlers := [Office.deliver] } }

def redirected : Turn Office :=
  Turn.start redirecting (.start ⟨1⟩ "mx" place place) office

/-- The lines with which a client names a recipient who passes and comes as far as the body. -/
def oneRecipient : List UInt8 :=
  Text.Utf8.encode "HELO c\r\nMAIL FROM:<>\r\nRCPT TO:<d@e>\r\nDATA\r\n"

theorem redirecting_keeps : redirecting.Keeps fun tx _ => tx.standing where
  stages stage checker hchecker := by
    cases stage with
    | recipient candidate =>
        rw [List.mem_singleton.mp hchecker]
        exact fun tx office => rfl
    | handler =>
        rw [List.mem_singleton.mp hchecker]
        exact deliver_keeps Transaction.standing
    | connection | helo | sender | data | close => cases hchecker
  authenticator _ hauthenticator := nomatch hauthenticator

theorem redirecting_pushes : redirecting.Pushes where
  stages stage checker hchecker tx office := by
    cases stage with
    | recipient candidate =>
        rw [List.mem_singleton.mp hchecker]
        exact List.prefix_append _ _
    | handler =>
        rw [List.mem_singleton.mp hchecker, Office.deliver_transaction]
    | connection | helo | sender | data | close => cases hchecker
  authenticator _ hauthenticator := nomatch hauthenticator

end Sample

namespace Turn

/-- The alias that was pushed for a recipient who was refused is there when the message of another
recipient is handed on. -/
theorem refused_alias_stays :
    let t := Sample.redirected.run Sample.redirecting
      [.bytes (Sample.twoRecipients ++ Sample.letter)]
    ∃ newer tx older held settled, t.journal = newer ++ .stage .handler tx :: older ∧
      Passed held settled older ∧ held.envelope.aliases <+: tx.envelope.aliases ∧
      held.envelope.aliases ≠
        ownAliases held.envelope.aliases (sinceEmptied (exchanges settled)) := by
  intro t
  have hany : t.journal.any (Event.starts .handler) := by decide +kernel
  obtain ⟨newer, tx, older, hjournal⟩ := exists_eq_append_of_starts hany
  have heach := run_handedOn Sample.redirecting ⟨1⟩ "mx" Sample.place Sample.place Sample.office
    Sample.redirecting_keeps Sample.redirecting_pushes
    [.bytes (Sample.twoRecipients ++ Sample.letter)]
  have hhanded : HandedOn Sample.redirecting tx older := by
    have hhere : EachStart .handler (HandedOn Sample.redirecting) t.journal := heach
    rw [hjournal] at hhere
    exact hhere.at_start
  obtain ⟨held, settled, hpassed, hextends, -⟩ := hhanded
  refine ⟨newer, tx, older, held, settled, hjournal, hpassed, hextends, ?_⟩
  obtain ⟨checked, asked, line, holder, -, -, -⟩ := hpassed
  have hvalues : (dataStarts t.journal).map (fun begun => (begun.1.envelope.aliases,
      ownAliases begun.1.envelope.aliases (sinceEmptied (exchanges (begun.2.drop 2))))) =
        [(["b@c", "d@e"], ["d@e"])] := by
    decide +kernel
  have hbegun : (held, .replied asked :: .command line :: settled) ∈ dataStarts t.journal := by
    refine mem_dataStarts_iff.mpr ⟨newer ++ .stage .handler tx :: checked, ?_⟩
    rw [hjournal, holder, List.append_assoc, List.cons_append]
  have hmem := List.mem_map_of_mem hbegun (f := fun begun : Transaction × List Event =>
    (begun.1.envelope.aliases,
      ownAliases begun.1.envelope.aliases (sinceEmptied (exchanges (begun.2.drop 2)))))
  rw [hvalues, List.mem_singleton, Prod.mk.injEq] at hmem
  obtain ⟨haliases, hown⟩ := hmem
  intro hequal
  have hsame : ["b@c", "d@e"] = ["d@e"] := haliases.symm.trans (hequal.trans hown)
  exact absurd hsame (by decide)

theorem run_handler_aliases_letter : ∃ newer tx older,
    (Sample.redirected.run Sample.redirecting
      [.bytes (Sample.oneRecipient ++ Sample.letter)]).journal =
        newer ++ .stage .handler tx :: older ∧
      HandedOn Sample.redirecting tx older := by
  have hany : (Sample.redirected.run Sample.redirecting
      [.bytes (Sample.oneRecipient ++ Sample.letter)]).journal.any (Event.starts .handler) := by
    decide +kernel
  obtain ⟨newer, tx, older, hjournal⟩ := exists_eq_append_of_starts hany
  exact ⟨newer, tx, older, hjournal, run_handler_aliases Sample.redirecting ⟨1⟩ "mx" Sample.place
    Sample.place Sample.office Sample.redirecting_keeps Sample.redirecting_pushes _ hjournal⟩

end Turn
end MailIntake
