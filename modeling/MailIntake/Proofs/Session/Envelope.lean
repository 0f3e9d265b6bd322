import MailIntake.Proofs.Session.Admission
import MailIntake.Proofs.Session.Exchange
import Mathlib.Data.List.Induction
/-!
Where the envelope of a message comes from.  When its body is looked at, the sender is the one of
the latest MAIL that was answered with success, the recipients are those of the RCPT commands that
were accepted since, and the body is what the bytes behind the last reply say (`run_data_origin`).
-/
namespace MailIntake

universe u

variable {W : Type u}

namespace Turn

/-- A message that has been begun is made of a history. -/
def Tracks (history : List Exchange) (envelope : Envelope) : Prop :=
  envelope.sender.isSome → Composed (Exchange.accepted .rcpt) history envelope

/-- A journal that ends with the reply that asks for a body, and what it says about the envelope. -/
def Asked (counts : Exchange → Bool) (journal : List Event) (envelope : Envelope) : Prop :=
  ∃ settled line message,
    journal = .replied ⟨354, message⟩ :: .command line :: settled ∧ line.verb? = some .data ∧
      Composed counts (exchanges settled) envelope

/-- How the envelope follows from the journal, phase by phase. -/
structure Follows (t : Turn W) : Prop where
  opening : t.phase = .opening → t.transaction.envelope.sender = none
  command : ∀ reader, t.phase = .command reader →
    Tracks (exchanges t.journal) t.transaction.envelope
  response : ∀ step reader, t.phase = .response step reader →
    t.transaction.envelope.sender = none
  body : ∀ d, t.phase = .body d →
    Asked (Exchange.accepted .rcpt) t.journal t.transaction.envelope

variable {service : Service W} {t after : Turn W}

theorem tracks_of_none {history : List Exchange} {envelope : Envelope}
    (hsender : envelope.sender = none) : Tracks history envelope := by
  intro hsome
  rw [hsender] at hsome
  cases hsome

theorem Follows.of_none (hsender : t.transaction.envelope.sender = none)
    (hphase : ∀ d, t.phase ≠ .body d) : Follows t where
  opening _ := hsender
  command _ _ := tracks_of_none hsender
  response _ _ _ := hsender
  body d hd := absurd hd (hphase d)

theorem Follows.of_command (reader : LineReader) (hphase : t.phase = .command reader)
    (htracks : Tracks (exchanges t.journal) t.transaction.envelope) : Follows t where
  opening hopening := by
    rw [hphase] at hopening
    cases hopening
  command _ _ := htracks
  response _ _ hresponse := by
    rw [hphase] at hresponse
    cases hresponse
  body _ hbody := by
    rw [hphase] at hbody
    cases hbody

/-- A turn in which nothing more is read, or only a handshake. -/
theorem Follows.of_deaf (hphase : t.phase = .handshake ∨ t.phase = .closed) : Follows t := by
  constructor
  · intro h
    simp [h] at hphase
  · intro reader h
    simp [h] at hphase
  · intro step reader h
    simp [h] at hphase
  · intro d h
    simp [h] at hphase

/-- A turn in which a body is read. -/
theorem Follows.of_body {d : DotDecoder} (hphase : t.phase = .body d)
    (hasked : Asked (Exchange.accepted .rcpt) t.journal t.transaction.envelope) : Follows t where
  opening hopening := by
    rw [hphase] at hopening
    cases hopening
  command _ hcommand := by
    rw [hphase] at hcommand
    cases hcommand
  response _ _ hresponse := by
    rw [hphase] at hresponse
    cases hresponse
  body _ _ := hasked

theorem Follows.close : Follows (t.close service) := by
  cases hrun : t.runStage service .close with
  | mk after refusal =>
      rw [close_eq service t hrun]
      exact .of_deaf (.inr rfl)

/-- Behind a body the envelope is empty. -/
theorem Follows.emptied (t : Turn W) (code : UInt16) (message : String) :
    Follows (t.resetEnvelope.reply code message).conclude := by
  refine .of_none ?_ (by simp)
  rw [conclude_transaction, reply_transaction]
  rfl

theorem sender_of_runStage {stage : Stage} {refusal : Option Refusal}
    (hkeeps : service.Keeps fun tx _ => tx.standing)
    (hrun : t.runStage service stage = (after, refusal)) :
    after.transaction.envelope.sender = t.transaction.envelope.sender :=
  congrArg Standing.sender (standing_of_runStage hkeeps hrun)

theorem recipients_of_runStage {stage : Stage} {refusal : Option Refusal}
    (hkeeps : service.Keeps fun tx _ => tx.standing)
    (hrun : t.runStage service stage = (after, refusal)) :
    after.transaction.envelope.recipients = t.transaction.envelope.recipients :=
  congrArg Standing.recipients (standing_of_runStage hkeeps hrun)

/-- An answer behind which the message at hand is what it was. -/
theorem Follows.spared {history : List Exchange} {x : Exchange} {code : UInt16} {message : String}
    {before : Envelope} (htracks : Tracks history before)
    (hexchanges : exchanges (.replied ⟨code, message⟩ :: t.journal) = x :: history)
    (hspares : x.answered .mail 250 = false ∧ x.Spares) (hcounts : x.accepted .rcpt = false)
    (hsender : t.transaction.envelope.sender = before.sender)
    (hrecipients : t.transaction.envelope.recipients = before.recipients) :
    Follows (t.reply code message).conclude := by
  refine .of_command {} (by simp) ?_
  rw [conclude_journal, reply_journal, conclude_transaction, reply_transaction, hexchanges]
  intro hsome
  rw [hsender] at hsome
  refine (htracks hsome).cons hspares.1 hspares.2 hsender ?_
  rw [hrecipients, hcounts]
  simp

/-- An answer behind which there is no message at hand. -/
theorem Follows.answered_none {code : UInt16} {message : String}
    (hsender : t.transaction.envelope.sender = none) :
    Follows (t.reply code message).conclude := by
  refine .of_none ?_ (by simp)
  rwa [conclude_transaction, reply_transaction]

theorem Follows.exchanged (hkeeps : service.Keeps fun tx _ => tx.standing)
    (hsender : t.transaction.envelope.sender = none) (hexchanged : Exchanged service t after) :
    Follows after := by
  have hquestioned : ∀ authenticator, service.authenticator = some authenticator →
      ∀ username password, (t.questioned authenticator username
        password).transaction.envelope.sender = none := by
    intro authenticator hauthenticator username password
    have hstanding := hkeeps.authenticator authenticator hauthenticator username password
      t.transaction t.world
    exact (congrArg Standing.sender hstanding).trans hsender
  cases hexchanged with
  | refused cost code message hcode => exact .answered_none (t := t.penalize cost) hsender
  | challenged step =>
      refine .of_none ?_ (by simp)
      rwa [challenge_transaction]
  | rejected authenticator username password r hauthenticator hverdict =>
      exact .answered_none (t := (t.questioned authenticator username password).penalize _)
        (hquestioned authenticator hauthenticator username password)
  | accepted authenticator username password hauthenticator hverdict =>
      exact .answered_none (t := (t.questioned authenticator username password).signIn _ _)
        (hquestioned authenticator hauthenticator username password)

theorem sender_of_authObstacle {tx : Transaction} (hobstacle : authObstacle tx = none) :
    tx.envelope.sender = none := by
  rw [authObstacle] at hobstacle
  split at hobstacle
  · cases hobstacle
  · split at hobstacle
    · cases hobstacle
    · split at hobstacle
      · cases hobstacle
      · split at hobstacle
        · cases hobstacle
        · next hsender => simpa using hsender

/-- A recipient that passed leaves no trace in the journal but what its checkers said. -/
theorem journal_welcome (recipient : ForwardPath) (mid : Turn W) :
    ((if mid.transaction.envelope.recipients.isEmpty then mid.reward Karma.commandExecuted
      else mid).addRecipient recipient).journal = mid.journal := by
  split
  · rfl
  · rfl

theorem Follows.handled {line : CommandLine} {settled : List Event}
    (hkeeps : service.Keeps fun tx _ => tx.standing)
    (horderly : t.transaction.standing.Orderly service)
    (hjournal : t.journal = .command line :: settled)
    (htracks : Tracks (exchanges settled) t.transaction.envelope)
    (hhandled : Handled service line t after) : Follows after := by
  cases hhandled with
  | refused cost code message hcode hverb =>
      obtain ⟨x, hreports, hexchanges⟩ := exchanges_of_reply hjournal code message
      have hspares := hreports.spares_of_negative hcode (hverb .rset (by simp))
      refine .spared (t := t.penalize cost) htracks hexchanges hspares ?_ rfl rfl
      have hne : (code == 250) = false := by
        rw [beq_eq_false_iff_ne]
        rintro rfl
        exact absurd hcode (by decide)
      rw [hreports.accepted_eq, hne, Bool.and_false, Bool.false_and]
  | idle hverb =>
      obtain ⟨x, hreports, hexchanges⟩ := exchanges_of_reply hjournal 250 "Go ahead."
      refine .spared htracks hexchanges (hreports.spares_of_verb hverb (by simp)) ?_ rfl rfl
      rw [hreports.accepted_eq, hverb]
      rfl
  | reset hverb => exact .emptied t _ _
  | greeted protocol name mid hverb hname hrun =>
      exact .answered_none (t := mid.resetEnvelope.reward Karma.commandExecuted) rfl
  | greetingRefused protocol name mid r hverb hname hrun =>
      obtain ⟨x, hreports, hexchanges⟩ :=
        exchanges_of_runStage (t := t.introduce protocol name) hjournal hrun r.code r.message
      have hsender := sender_of_runStage hkeeps hrun
      have hrecipients := recipients_of_runStage hkeeps hrun
      refine .spared (t := mid.restoreGreeting t.transaction.peer) htracks hexchanges
        (hreports.spares_of_greeting hverb) ?_ ?_ ?_
      · rw [hreports.accepted_eq, Option.isSome_some, Bool.not_true, Bool.and_false]
      · exact hsender
      · exact hrecipients
  | senderAccepted path sender mid hverb hobstacle hpath hparse hrun =>
      obtain ⟨x, hreports, hexchanges⟩ :=
        exchanges_of_runStage (t := t.setSender (some sender)) hjournal hrun 250 "Go ahead"
      have hsender : mid.transaction.envelope.sender = some sender :=
        sender_of_runStage hkeeps hrun
      have hrecipients := recipients_of_runStage hkeeps hrun
      obtain ⟨-, -, -, hnone⟩ := senderObstacle_eq_none hobstacle
      refine .of_command {} (by simp) ?_
      intro hsome
      rw [conclude_journal, reply_journal, conclude_transaction, reply_transaction]
      change Composed _ (exchanges (.replied ⟨250, "Go ahead"⟩ :: mid.journal))
        mid.transaction.envelope
      rw [hexchanges]
      refine .mail ?_ ?_ ?_ ?_
      · rw [hreports.accepted_eq, hverb]
        rfl
      · rw [hreports.sender?_eq, hpath, Option.bind_some, hparse, hsender]
      · rw [hsender, Option.isSome_some]
      · rw [hrecipients]
        exact horderly.bare hnone
  | senderRefused path sender mid r hverb hobstacle hpath hparse hrun =>
      exact .answered_none (t := mid.setSender none) rfl
  | recipientAccepted path recipient mid hverb hsender hroom hpath hparse hrun =>
      obtain ⟨x, hreports, hexchanges⟩ := exchanges_of_runStage hjournal hrun 250 "Go ahead"
      have hspares := hreports.spares_of_verb hverb (by simp)
      have hstanding := standing_welcome recipient (standing_of_runStage hkeeps hrun)
      refine .of_command {} (by simp) ?_
      intro _
      rw [conclude_journal, reply_journal, conclude_transaction, reply_transaction,
        journal_welcome, hexchanges]
      refine (htracks hsender).cons hspares.1 hspares.2 (congrArg Standing.sender hstanding) ?_
      have hrecipients := congrArg Standing.recipients hstanding
      have hcounts : x.accepted .rcpt := by
        rw [hreports.accepted_eq, hverb]
        rfl
      rw [hcounts, hreports.recipient?_eq, hpath, Option.bind_some, hparse]
      exact (congrArg (List.map some) hrecipients).trans List.map_append
  | recipientRefused path recipient mid r hverb hsender hpath hparse hrun =>
      obtain ⟨x, hreports, hexchanges⟩ := exchanges_of_runStage hjournal hrun r.code r.message
      have hkept := sender_of_runStage hkeeps hrun
      have hrecipients := recipients_of_runStage hkeeps hrun
      refine .spared (t := mid.penalize Karma.recipientRejected) htracks hexchanges
        (hreports.spares_of_verb hverb (by simp)) ?_ ?_ ?_
      · rw [hreports.accepted_eq, Option.isSome_some, Bool.not_true, Bool.and_false]
      · exact hkept
      · exact hrecipients
  | bodyAwaited hverb hsender hrecipients =>
      have hasked : Asked (Exchange.accepted .rcpt)
          (.replied ⟨354, "Go ahead. End your data with <CR><LF>.<CR><LF>"⟩ :: t.journal)
          t.transaction.envelope :=
        ⟨settled, line, _, by rw [hjournal], hverb, htracks hsender⟩
      refine .of_body rfl ?_
      rw [inPhase_journal, reply_journal, inPhase_transaction, reply_transaction]
      exact hasked
  | quit message hverb => exact .close
  | handshakeAwaited hverb hplain hoffers => exact .of_deaf (.inl rfl)
  | auth _ hverb hobstacle hexchanged =>
      exact .exchanged hkeeps (sender_of_authObstacle hobstacle) hexchanged
  | proxied header hverb henabled hfirst hparse =>
      obtain ⟨x, hreports, hexchanges⟩ := exchanges_of_reply hjournal 220
        (service.hostname ++ " " ++ service.settings.banner)
      refine .spared (t := t.relocate service header.source) htracks hexchanges
        (hreports.spares_of_verb hverb (by simp)) ?_ rfl rfl
      rw [hreports.accepted_eq, hverb]
      rfl
  | xclient attributes hverb henabled hparse =>
      obtain ⟨x, hreports, hexchanges⟩ := exchanges_of_reply hjournal 220
        (service.hostname ++ " " ++ service.settings.banner)
      refine .spared (t := (t.moveTo service attributes).mapPeer (withAttributes attributes))
        htracks ?_ (hreports.spares_of_verb hverb (by simp)) ?_ ?_ ?_
      · rw [mapPeer_eq, mapTransaction_journal, moveTo_journal]
        exact hexchanges
      · rw [hreports.accepted_eq, hverb]
        rfl
      · rw [mapPeer_eq, mapTransaction_transaction, moveTo_envelope]
      · rw [mapPeer_eq, mapTransaction_transaction, moveTo_envelope]

theorem Follows.begun (hkeeps : service.Keeps fun tx _ => tx.standing)
    (hsender : t.transaction.envelope.sender = none) (hbegun : Begun service t after) :
    Follows after := by
  cases hbegun with
  | refused mid r hrun => exact .close
  | greeted mid hrun =>
      have hmid := sender_of_runStage (t := t.lookUpNames service) hkeeps hrun
      refine .of_none ?_ (by simp)
      rw [awaitCommand_transaction, greet, reply_transaction, hmid]
      exact hsender

theorem Follows.ended {outcome : BodyOutcome} (hended : Ended service t outcome after) :
    Follows after := by
  cases hended with
  | tooBig => exact .emptied (t.penalize Karma.messageTooBig) _ _
  | bodyRefused body mid r hdata => exact .emptied mid _ _
  | messageRefused body judged mid r hdata hhandler => exact .emptied mid _ _
  | messageAccepted body judged mid hdata hhandler =>
      exact .emptied (mid.countMessage.reward Karma.commandExecuted) _ _

/-- The envelope goes on to follow from the journal, whatever happens. -/
theorem Follows.move {signal : Signal} (hkeeps : service.Keeps fun tx _ => tx.standing)
    (hsound : Sound service t) (hmove : Move service t signal after) (hfollows : Follows t) :
    Follows after := by
  cases hmove with
  | unheard b hphase => exact hfollows
  | unasked result hphase => exact hfollows
  | finished signal hphase => exact hfollows
  | passed b phase hpasses =>
      generalize hbefore : t.phase = before at hpasses
      cases hpasses with
      | command reader hb => exact .of_command _ rfl (hfollows.command reader hbefore)
      | response step reader hb =>
          exact .of_none (hfollows.response step reader hbefore) (by simp [passByte])
      | body decoder hb =>
          have hasked := hfollows.body decoder hbefore
          exact .of_body rfl hasked
  | overlong reader hphase hline =>
      refine .of_command {} (by simp) ?_
      intro hsome
      have hcomposed := hfollows.command reader hphase hsome
      refine hcomposed.cons (x := ⟨none, [.replied ⟨500, "5.5.2 Line too long"⟩]⟩) rfl
        ⟨fun protocol => rfl, rfl, rfl, rfl⟩ rfl ?_
      exact (List.append_nil _).symm
  | handled reader text _ hphase hline hhandled =>
      exact .handled (t := (t.countRead 1).note (.command _)) hkeeps hsound.orderly rfl
        (hfollows.command reader hphase) hhandled
  | exchanged step reader _ hphase hexchanged =>
      exact .exchanged (t := t.countRead 1) hkeeps (hfollows.response step reader hphase)
        hexchanged
  | bodyEnded b outcome _ hread hended => exact .ended hended
  | opened h _ hphase hbegun =>
      exact .begun (t := t.encrypt h) hkeeps (hfollows.opening hphase) hbegun
  | upgraded h hphase => exact .of_none rfl (by simp [upgraded])
  | openingFailed | upgradeFailed | ended | timedOut | expired => exact .close

/-- Some bytes arrived since the connection was in a phase, with a journal. -/
def Arrived (service : Service W) (start : Turn W) (signals : List Signal) (phase : Phase)
    (older : List Event) (wire : List UInt8) : Prop :=
  ∃ front mid, signals = front ++ mid ∧ (start.heedAll service front).journal = older ∧
    (start.heedAll service front).phase = phase ∧ received mid = wire

theorem Arrived.nil {start : Turn W} {signals : List Signal} {phase : Phase}
    (hphase : (start.heedAll service signals).phase = phase) :
    Arrived service start signals phase (start.heedAll service signals).journal [] :=
  ⟨signals, [], (List.append_nil _).symm, rfl, hphase, rfl⟩

theorem Arrived.concat {start : Turn W} {signals : List Signal} {phase : Phase}
    {older : List Event} {wire : List UInt8}
    (harrived : Arrived service start signals phase older wire) (signal : Signal) :
    Arrived service start (signals ++ [signal]) phase older (wire ++ signal.byte?.toList) := by
  obtain ⟨front, mid, rfl, hjournal, hphase, rfl⟩ := harrived
  refine ⟨front, mid ++ [signal], List.append_assoc _ _ _, hjournal, hphase, ?_⟩
  rw [received_append]
  cases signal with
  | byte b => rfl
  | handshake result => rfl
  | ended => rfl
  | expired => rfl

/-- Some bytes arrived behind a journal that ended with the reply that asks for a body. -/
def Followed (service : Service W) (start : Turn W) (signals : List Signal) (older : List Event)
    (wire : List UInt8) : Prop :=
  ∃ front mid, signals = front ++ mid ∧ (start.heedAll service front).journal = older ∧
    (start.heedAll service front).phase =
      .body { limit := service.settings.maxMessageSize.toNat } ∧ received mid = wire

theorem Followed.concat {start : Turn W} {signals : List Signal} {older : List Event}
    {wire : List UInt8} (hfollowed : Followed service start signals older wire)
    (signal : Signal) :
    Followed service start (signals ++ [signal]) older (wire ++ signal.byte?.toList) :=
  Arrived.concat hfollowed signal

/-- A body that is being read is what arrived since the journal ended. -/
def Gathers (service : Service W) (start : Turn W) (signals : List Signal) (t : Turn W) : Prop :=
  ∀ d, t.phase = .body d → ∃ wire, Followed service start signals t.journal wire ∧
    OpenBody wire ∧
      ({ limit := service.settings.maxMessageSize.toNat } : DotDecoder).feed wire = (none, d)

theorem heedAll_concat (start : Turn W) (signals : List Signal) (signal : Signal) :
    start.heedAll service (signals ++ [signal]) =
      (start.heedAll service signals).heed service signal :=
  heedAll_append service start signals [signal]

theorem Gathers.heed {start : Turn W} {signals : List Signal}
    (hgathers : Gathers service start signals (start.heedAll service signals))
    (signal : Signal) :
    Gathers service start (signals ++ [signal])
      (start.heedAll service (signals ++ [signal])) := by
  intro d hphase
  have hmove := heed_move service (start.heedAll service signals) signal
  rw [← heedAll_concat] at hmove
  generalize hafter : start.heedAll service (signals ++ [signal]) = after at hphase hmove
  cases hmove.reads hphase with
  | first =>
      refine ⟨[], ⟨signals ++ [signal], [], (List.append_nil _).symm, ?_, ?_, rfl⟩, openBody_nil,
        rfl⟩
      · rw [hafter]
      · rw [hafter, hphase]
  | still result _ hbefore =>
      obtain ⟨wire, hfollowed, hopen, hfeed⟩ := hgathers d hbefore
      refine ⟨wire, ?_, hopen, hfeed⟩
      have hmore := hfollowed.concat (.handshake result)
      rwa [Signal.byte?, Option.toList_none, List.append_nil] at hmore
  | more b decoder hbefore hb =>
      obtain ⟨wire, hfollowed, hopen, hfeed⟩ := hgathers decoder hbefore
      refine ⟨wire ++ [b], hfollowed.concat (.byte b), hopen.concat ?_,
        DotDecoder.feed_concat hfeed hb⟩
      rw [← DotDecoder.endsWith_iff_of_feed hopen hfeed b]
      exact hb

/-- What a body that was looked at is made of. -/
structure Origin (service : Service W) (start : Turn W) (signals : List Signal)
    (tx : Transaction) (older : List Event) : Prop where
  asked : Asked (Exchange.accepted .rcpt) older tx.envelope
  body : ∃ wire front, front <+: signals ∧ Followed service start front older wire ∧
    WholeBody wire ∧ tx.envelope.body = bodyText wire

theorem Origin.concat {start : Turn W} {signals : List Signal} {tx : Transaction}
    {older : List Event} (horigin : Origin service start signals tx older) (signal : Signal) :
    Origin service start (signals ++ [signal]) tx older := by
  obtain ⟨wire, front, hfront, hbody⟩ := horigin.body
  exact ⟨horigin.asked, wire, front, hfront.trans (List.prefix_append _ _), hbody⟩

/-- A body that has been read to its end is made of what it should be made of. -/
theorem Gathers.origin {start : Turn W} {signals : List Signal} {b : UInt8} {body : List UInt8}
    (hgathers : Gathers service start signals t) (hfollows : Follows t)
    (hread : t.BodyRead b (.complete body)) :
    Origin service start (signals ++ [.byte b]) (t.hold body).transaction t.journal := by
  obtain ⟨d, hphase, hends, hfinish⟩ := hread
  obtain ⟨wire, hfollowed, hopen, hfeed⟩ := hgathers d hphase
  obtain ⟨settled, line, message, hjournal, hverb, hcomposed⟩ := hfollows.body d hphase
  refine ⟨⟨settled, line, message, hjournal, hverb, ?_⟩, wire ++ [b], signals ++ [.byte b],
    List.prefix_refl _, hfollowed.concat (.byte b), ?_, ?_⟩
  · exact ⟨hcomposed.sender_isSome, hcomposed.sender, hcomposed.unrefused, hcomposed.recipients,
      hcomposed.spared⟩
  · exact hopen.wholeBody ((DotDecoder.endsWith_iff_of_feed hopen hfeed b).mp hends)
  · have houtcome := DotDecoder.finish_of_feed hopen hfeed hends
    rw [hfinish, BodyOutcome.ofText] at houtcome
    split at houtcome
    · cases houtcome
      rfl
    · cases houtcome

variable (service) (id : TransactionId) (serverHostname : String)
  (localAddr remoteAddr : Address.Endpoint) (world : W)

theorem start_follows (hkeeps : service.Keeps fun tx _ => tx.standing) :
    Follows (start service (.start id serverHostname localAddr remoteAddr) world) := by
  rw [start]
  split
  · exact .of_none rfl (by simp)
  · exact .begun hkeeps rfl (begin_begun service _)

theorem start_gathers (start : Turn W) (hphase : ∀ d, start.phase ≠ .body d) :
    Gathers service start [] start :=
  fun d hd => absurd hd (hphase d)

theorem start_phase_ne (tx : Transaction) (d : DotDecoder) :
    (start service tx world).phase ≠ .body d := by
  rw [start]
  split
  · simp
  · exact (begin_begun service _).phase_ne d

/-- What is kept along a run about what envelopes are made of. -/
structure Composing (service : Service W) (start : Turn W) (signals : List Signal) (t : Turn W) :
    Prop where
  sound : Sound service t
  follows : Follows t
  gathers : Gathers service start signals t
  origin : ∀ begun ∈ dataStarts t.journal, Origin service start signals begun.1 begun.2

theorem Composing.heed {start : Turn W} {signals : List Signal}
    (hkeeps : service.Keeps fun tx _ => tx.standing)
    (hcomposing : Composing service start signals (start.heedAll service signals))
    (signal : Signal) :
    Composing service start (signals ++ [signal])
      (start.heedAll service (signals ++ [signal])) := by
  have hmove := heed_move service (start.heedAll service signals) signal
  have hgathers := hcomposing.gathers.heed signal
  rw [heedAll_concat] at hgathers ⊢
  refine ⟨hcomposing.sound.move hkeeps hmove,
    hcomposing.follows.move hkeeps hcomposing.sound hmove, hgathers, ?_⟩
  intro begun hbegun
  rcases hmove.dataStarts with hsame | ⟨b, body, rfl, hread, hmore⟩
  · rw [hsame] at hbegun
    exact (hcomposing.origin begun hbegun).concat signal
  · rw [hmore] at hbegun
    rcases List.mem_cons.mp hbegun with rfl | hold
    · exact hcomposing.gathers.origin hcomposing.follows hread
    · exact (hcomposing.origin begun hold).concat (.byte b)

theorem heedAll_composing {start : Turn W} (hkeeps : service.Keeps fun tx _ => tx.standing)
    (hstart : Composing service start [] start) (signals : List Signal) :
    Composing service start signals (start.heedAll service signals) := by
  -- Bodies are told by prefixes of the signals, so the last signal is split off.
  induction signals using List.reverseRecOn with
  | nil => exact hstart
  | append_singleton signals signal ih => exact ih.heed service hkeeps signal

/-- Wherever the checkers look at a body, the client was last asked for one.  The sender is the one
of the latest MAIL that was answered with 250, and no checker refused it; the recipients are, in
order and with repetitions, those of the RCPT commands since then that were answered with 250 and
that no checker refused; no greeting was accepted and no reset, handshake or body came in between;
and the body is what the bytes say that arrived since the client was asked for it. -/
theorem run_data_origin (hkeeps : service.Keeps fun tx _ => tx.standing) (inputs : List Input)
    {newer older : List Event} {tx : Transaction} :
    let t0 := start service (.start id serverHostname localAddr remoteAddr) world
    (t0.run service inputs).journal = newer ++ .stage .data tx :: older →
      Origin service t0 (inputs.flatMap Input.signals) tx older := by
  intro t0 hjournal
  have hstart : Composing service t0 [] t0 := by
    refine ⟨start_sound service id serverHostname localAddr remoteAddr world hkeeps,
      start_follows service id serverHostname localAddr remoteAddr world hkeeps,
      start_gathers service t0 (start_phase_ne service world _), ?_⟩
    rw [dataStarts_start]
    exact List.forall_mem_nil _
  have hcomposing := heedAll_composing service hkeeps hstart (inputs.flatMap Input.signals)
  rw [← run_eq_heedAll] at hcomposing
  exact hcomposing.origin (tx, older) (mem_dataStarts_iff.mpr ⟨newer, hjournal⟩)

end Turn

namespace Sample

/-- A checker that turns one recipient away with the code of success. -/
def turnAway : RecipientChecker Office := fun candidate tx office =>
  { transaction := tx
    world := office
    refusal := if candidate.render = "b@c" then some (.reject ⟨250, "Go ahead"⟩) else none }

def polite : Service Office :=
  { hostname := "mx", pipelines := { recipient := [turnAway] } }

/-- The lines with which a client names two recipients and comes as far as the body. -/
def twoRecipients : List UInt8 :=
  Text.Utf8.encode "HELO c\r\nMAIL FROM:<>\r\nRCPT TO:<b@c>\r\nRCPT TO:<d@e>\r\nDATA\r\n"

theorem polite_keeps {A : Type u} (view : Transaction → A) :
    polite.Keeps fun tx _ => view tx where
  stages stage checker hchecker := by
    cases stage with
    | recipient candidate =>
        rw [List.mem_singleton.mp hchecker]
        exact fun tx office => rfl
    | connection | helo | sender | data | handler | close => cases hchecker
  authenticator _ hauthenticator := nomatch hauthenticator

end Sample

namespace Turn

/-- The recipients are not those of all RCPT commands that were answered with 250: a checker may
refuse with this code, and its code is what the client hears. -/
theorem answered_recipient_missing :
    let t := (start Sample.polite (.start ⟨1⟩ "mx" Sample.place Sample.place)
      Sample.office).run Sample.polite [.bytes (Sample.twoRecipients ++ Sample.letter)]
    (Sample.polite.Keeps fun tx _ => tx.standing) ∧
      ∃ newer tx older, t.journal = newer ++ .stage .data tx :: older ∧
        ¬ Asked (Exchange.answered .rcpt 250) older tx.envelope := by
  intro t
  have hcount : (dataStarts t.journal).map (fun begun => (begun.1.envelope.recipients.length,
      ((sinceMail (exchanges (begun.2.drop 2))).filter
        (Exchange.answered .rcpt 250)).length)) = [(1, 2)] := by
    decide +kernel
  obtain ⟨⟨tx, older⟩, hstarts, hpair⟩ := List.map_eq_singleton_iff.mp hcount
  obtain ⟨newer, hjournal⟩ := mem_dataStarts_iff.mp (hstarts ▸ List.mem_singleton_self (tx, older))
  refine ⟨Sample.polite_keeps _, newer, tx, older, hjournal, ?_⟩
  rintro ⟨settled, line, message, rfl, -, hcomposed⟩
  have hlength := congrArg List.length hcomposed.recipients
  simp only [Prod.mk.injEq, List.drop_succ_cons, List.drop_zero] at hpair
  rw [List.length_map, List.length_map, List.filter_reverse, List.length_reverse, hpair.1,
    hpair.2] at hlength
  cases hlength

theorem run_data_origin_letter : ∃ newer tx older,
    (Sample.start.run Sample.service [.bytes (Sample.opening ++ Sample.letter)]).journal =
        newer ++ .stage .data tx :: older ∧
      Origin Sample.service Sample.start
        ([Input.bytes (Sample.opening ++ Sample.letter)].flatMap Input.signals) tx older := by
  have hone : (dataStarts (Sample.start.run Sample.service
      [.bytes (Sample.opening ++ Sample.letter)]).journal).length = 1 := by
    decide +kernel
  obtain ⟨⟨tx, older⟩, hstart⟩ := List.length_eq_one_iff.mp hone
  obtain ⟨newer, hjournal⟩ := mem_dataStarts_iff.mp (hstart ▸ List.mem_singleton_self (tx, older))
  exact ⟨newer, tx, older, hjournal, run_data_origin Sample.service ⟨1⟩ "mx" Sample.place
    Sample.place Sample.office (Sample.service_keeps _) _ hjournal⟩

end Turn
end MailIntake
