import Mathlib.Algebra.Ring.Nat
import MailIntake.Proofs.Session.Lines
/-!
What is counted on a connection, beside what happens on it.  A byte that arrives is read as part of
a command line, of a response or of a body, or it is dropped; every byte that is read is counted as
it is taken up, every reply as it is written, and every message as both of its stages let it pass
(`heedAll_accounts`).
-/
namespace MailIntake

universe u

variable {W : Type u}

def Reply.size (r : Reply) : Nat :=
  (Text.Utf8.encode r.render).length

def sizes (replies : List Reply) : Nat :=
  (replies.map Reply.size).sum

@[simp]
theorem sizes_append (front back : List Reply) :
    sizes (front ++ back) = sizes front + sizes back := by
  rw [sizes, List.map_append, List.sum_append, sizes, sizes]

/-- What a byte that is read is part of. -/
inductive Use
  /-- A command line, be it too long or never ended. -/
  | commandLine
  /-- A response in an AUTH exchange. -/
  | response
  /-- The body of a message. -/
  | body
deriving DecidableEq, Repr

/-- What the next byte is part of, if it is read. -/
def Phase.use? : Phase → Option Use
  | .command _ => some .commandLine
  | .response _ _ => some .response
  | .body _ => some .body
  | .opening | .handshake | .closed => none

namespace Event

def refusesAt (stage : Stage) : Event → Bool
  | .checked other _ (some _) => other = stage
  | _ => false

/-- An event that is not about a message that is looked at. -/
def Aside (e : Event) : Prop :=
  ∀ stage : Stage, stage.OfMessage → ¬ e.OfStage stage

theorem starts_of_not {e : Event} {stage : Stage} (he : ¬ e.OfStage stage) :
    e.starts stage = false := by
  cases e with
  | stage other tx =>
      have hother : other ≠ stage := by
        rintro rfl
        exact he (.inl ⟨tx, rfl⟩)
      simp [Event.starts, hother]
  | command | overlong | checked | authenticated | replied => rfl

theorem refusesAt_of_not {e : Event} {stage : Stage} (he : ¬ e.OfStage stage) :
    e.refusesAt stage = false := by
  cases e with
  | checked other place answer =>
      have hother : other ≠ stage := by
        rintro rfl
        exact he (.inr ⟨place, answer, rfl⟩)
      cases answer with
      | none => rfl
      | some r => simp [Event.refusesAt, hother]
  | command | overlong | stage | authenticated | replied => rfl

theorem OfStage.aside {e : Event} {stage : Stage} (hof : e.OfStage stage)
    (hother : ¬ stage.OfMessage) : e.Aside := by
  intro other hstage hofOther
  exact hother (hof.unique hofOther ▸ hstage)

theorem aside_replied (r : Reply) : (Event.replied r).Aside := by
  simp [Aside, OfStage]

end Event

/-- Whether a stage has run and none of its checkers has refused. -/
def succeeds (stage : Stage) (events : List Event) : Bool :=
  events.any (Event.starts stage) && !events.any (Event.refusesAt stage)

/-- Whether an exchange is a DATA command whose message passed both of its stages. -/
def Exchange.accepts (x : Exchange) : Bool :=
  x.asks .data && succeeds .data x.events && succeeds .handler x.events

section Succeeds

variable {stage : Stage} {events later : List Event}

/-- What is not about a stage makes no difference to its success. -/
theorem succeeds_append_left (hlater : ∀ e ∈ later, ¬ e.OfStage stage) :
    succeeds stage (events ++ later) = succeeds stage events := by
  have hstarts : later.any (Event.starts stage) = false :=
    List.any_eq_false.mpr fun e he => by simp [Event.starts_of_not (hlater e he)]
  have hrefuses : later.any (Event.refusesAt stage) = false :=
    List.any_eq_false.mpr fun e he => by simp [Event.refusesAt_of_not (hlater e he)]
  rw [succeeds, List.any_append, List.any_append, hstarts, hrefuses, Bool.or_false, Bool.or_false,
    succeeds]

@[inherit_doc succeeds_append_left]
theorem succeeds_append_right (hevents : ∀ e ∈ events, ¬ e.OfStage stage) :
    succeeds stage (events ++ later) = succeeds stage later := by
  have hstarts : events.any (Event.starts stage) = false :=
    List.any_eq_false.mpr fun e he => by simp [Event.starts_of_not (hevents e he)]
  have hrefuses : events.any (Event.refusesAt stage) = false :=
    List.any_eq_false.mpr fun e he => by simp [Event.refusesAt_of_not (hevents e he)]
  rw [succeeds, List.any_append, List.any_append, hstarts, hrefuses, Bool.false_or, Bool.false_or,
    succeeds]

/-- A message is looked at by one stage and taken over by the other. -/
theorem succeeds_both {looks hands : List Event} (hlooks : ∀ e ∈ looks, e.OfStage .data)
    (hhands : ∀ e ∈ hands, e.OfStage .handler) :
    succeeds .data (hands ++ looks) = succeeds .data looks ∧
      succeeds .handler (hands ++ looks) = succeeds .handler hands := by
  constructor
  · refine succeeds_append_right fun e he hof => ?_
    cases (hhands e he).unique hof
  · refine succeeds_append_left fun e he hof => ?_
    cases (hlooks e he).unique hof

theorem succeeds_reverse : succeeds stage events.reverse = succeeds stage events := by
  rw [succeeds, List.any_reverse, List.any_reverse, succeeds]

/-- What a stage writes down says whether it has succeeded. -/
theorem Verdicts.succeeds {refusal : Option Refusal} {checks : List Event}
    (hverdicts : Verdicts stage refusal checks) (tx : Transaction) :
    succeeds stage (checks ++ [.stage stage tx]) = refusal.isNone := by
  have hrefuses : checks.any (Event.refusesAt stage) = refusal.isSome := by
    induction hverdicts with
    | nil => rfl
    | pass _ ih => simpa [Event.refusesAt] using ih
    | refuse _ _ _ => simp [Event.refusesAt]
  have hlast : Event.refusesAt stage (.stage stage tx) = false := rfl
  rw [MailIntake.succeeds, List.any_append, List.any_append, hrefuses]
  cases refusal with
  | none => simp [Event.starts, hlast]
  | some r => simp [Event.starts]

end Succeeds

namespace Exchange

variable {x : Exchange} {later : List Event}

theorem asks_extend (verb : CommandLine.Verb) : (x.extend later).asks verb = x.asks verb := rfl

/-- An exchange goes on without a message being looked at. -/
theorem accepts_extend_of_aside (hlater : ∀ e ∈ later, e.Aside) :
    (x.extend later).accepts = x.accepts := by
  rw [accepts, asks_extend, extend, succeeds_append_left fun e he => hlater e he .data (.inl rfl),
    succeeds_append_left fun e he => hlater e he .handler (.inr rfl), accepts]

/-- A DATA command goes on for which no message has been looked at. -/
theorem accepts_extend_of_data (hdata : x.asks .data) (hevents : ∀ e ∈ x.events, e.Aside) :
    (x.extend later).accepts = (succeeds .data later && succeeds .handler later) := by
  rw [accepts, asks_extend, extend,
    succeeds_append_right fun e he => hevents e he .data (.inl rfl),
    succeeds_append_right fun e he => hevents e he .handler (.inr rfl), hdata, Bool.true_and]

theorem accepts_of_aside (hevents : ∀ e ∈ x.events, e.Aside) : x.accepts = false := by
  have hnone : succeeds .data x.events = false := by
    rw [← List.append_nil x.events,
      succeeds_append_right fun e he => hevents e he .data (.inl rfl)]
    rfl
  rw [accepts, hnone, Bool.and_false, Bool.false_and]

end Exchange

namespace Session

/-- The number of bytes in the replies of a connection. -/
def written (s : Session) : Nat :=
  sizes s.replies

def acceptances (s : Session) : Nat :=
  (exchanges s.journal).countP Exchange.accepts

/-- The latest command asks for a body, and none has been looked at. -/
def AwaitsBody (s : Session) : Prop :=
  ∃ x earlier, exchanges s.journal = x :: earlier ∧ x.asks .data ∧ ∀ e ∈ x.events, e.Aside

/-- What has been counted as written and as accepted is what was written and accepted. -/
structure Accounted (s : Session) : Prop where
  bytesWritten : s.tally.bytesWritten = s.written
  messages : s.tally.messages = s.acceptances
  body : ∀ d, s.phase = .body d → s.AwaitsBody

end Session

namespace Turn

/-- What a signal is read as, if it is a byte and is read. -/
def read? (t : Turn W) : Signal → Option (Use × UInt8)
  | .byte b => t.phase.use?.map fun use => (use, b)
  | .handshake _ | .ended | .expired => none

/-- The bytes among signals that are read, in order, with what they are read as. -/
def readFrom (service : Service W) (t : Turn W) : List Signal → List (Use × UInt8)
  | [] => []
  | signal :: more => (t.read? signal).toList ++ (t.heed service signal).readFrom service more

/-- What was written down between two turns: it goes on with an exchange, and its replies are
counted as written. -/
structure Logs (newer : List Event) (before after : Turn W) : Prop where
  journal : after.journal = newer ++ before.journal
  continues : ∀ e ∈ newer, e.continues
  bytesRead : after.tally.bytesRead = before.tally.bytesRead
  bytesWritten : after.tally.bytesWritten =
    before.tally.bytesWritten + sizes (newer.filterMap Event.reply?)

section Logs

variable {service : Service W} {before mid after : Turn W} {older newer : List Event}

theorem Logs.refl (t : Turn W) : Logs [] t t :=
  ⟨rfl, List.forall_mem_nil _, rfl, rfl⟩

theorem Logs.trans (holder : Logs older before mid) (hnewer : Logs newer mid after) :
    Logs (newer ++ older) before after := by
  refine ⟨?_, List.forall_mem_append.mpr ⟨hnewer.continues, holder.continues⟩, ?_, ?_⟩
  · rw [hnewer.journal, holder.journal, List.append_assoc]
  · rw [hnewer.bytesRead, holder.bytesRead]
  · rw [hnewer.bytesWritten, holder.bytesWritten, List.filterMap_append, sizes_append]
    omega

/-- What is neither written down nor counted is of no account. -/
theorem Logs.of_same (hlogs : Logs newer before mid) (hjournal : after.journal = mid.journal)
    (hread : after.tally.bytesRead = mid.tally.bytesRead)
    (hwritten : after.tally.bytesWritten = mid.tally.bytesWritten) : Logs newer before after :=
  ⟨hjournal.trans hlogs.journal, hlogs.continues, hread.trans hlogs.bytesRead,
    hwritten.trans hlogs.bytesWritten⟩

theorem Logs.reply (hlogs : Logs newer before mid) (code : UInt16) (message : String) :
    Logs (.replied ⟨code, message⟩ :: newer) before (mid.reply code message) := by
  have hreply : Logs [.replied ⟨code, message⟩] mid (mid.reply code message) := by
    refine ⟨?_, List.forall_mem_cons.mpr ⟨rfl, List.forall_mem_nil _⟩, ?_, ?_⟩
    · rw [reply_journal]
      rfl
    · rw [reply_bytesRead]
    · simp [Turn.reply, note, sizes, Reply.size, Event.reply?]
  exact hlogs.trans hreply

/-- A stage tells a client nothing, and what it writes down says whether it has succeeded. -/
theorem logs_of_runStage {stage : Stage} {refusal : Option Refusal} {t : Turn W}
    (hrun : t.runStage service stage = (after, refusal)) :
    ∃ looks, Logs looks t after ∧ (∀ e ∈ looks, e.OfStage stage) ∧
      succeeds stage looks = refusal.isNone := by
  obtain ⟨checks, hchecks, hafter⟩ := journal_of_runStage hrun
  have htally := (leaves_of_runStage hrun).tally
  have hevents : ∀ e ∈ checks ++ [Event.stage stage t.transaction], e.OfStage stage := by
    refine List.forall_mem_append.mpr ⟨fun e he => .inr (hchecks.eq_checked he), ?_⟩
    exact List.forall_mem_cons.mpr ⟨.inl ⟨t.transaction, rfl⟩, List.forall_mem_nil _⟩
  have hsilent : (checks ++ [Event.stage stage t.transaction]).filterMap Event.reply? = [] := by
    rw [List.filterMap_eq_nil_iff]
    intro e he
    rcases hevents e he with ⟨tx, rfl⟩ | ⟨place, answer, rfl⟩
    · rfl
    · rfl
  refine ⟨checks ++ [.stage stage t.transaction],
    ⟨?_, fun e he => (hevents e he).continues, by rw [htally], ?_⟩, hevents,
    hchecks.succeeds t.transaction⟩
  · rw [hafter, List.append_assoc, List.singleton_append]
  · rw [hsilent, htally]
    rfl

/-- The latest exchange goes on with what was written down. -/
theorem Logs.exchanges (hlogs : Logs newer before after) :
    exchanges after.journal =
      (exchanges before.journal).modifyHead (Exchange.extend newer.reverse) := by
  rw [hlogs.journal, MailIntake.exchanges, exchangesWith_append hlogs.continues, List.append_nil,
    exchangesWith_eq]

theorem Logs.written (hlogs : Logs newer before after) :
    after.toSession.written = before.toSession.written + sizes (newer.filterMap Event.reply?) := by
  have hreverse : ∀ replies : List Reply, sizes replies.reverse = sizes replies := by
    intro replies
    rw [sizes, List.map_reverse, List.sum_reverse, sizes]
  have hreplies : ∀ s : Session, s.written = sizes (s.journal.filterMap Event.reply?) := by
    intro s
    rw [Session.written, Session.replies, List.filterMap_reverse, hreverse]
  rw [hreplies, hreplies, hlogs.journal, List.filterMap_append, sizes_append, Nat.add_comm]

end Logs

/-- Between two turns a client was told something, and no message was looked at. -/
structure Tells (before after : Turn W) : Prop where
  logs : ∃ newer, Logs newer before after ∧ ∀ e ∈ newer, e.Aside
  messages : after.tally.messages = before.tally.messages

section Tells

variable {service : Service W} {before mid t after : Turn W}

theorem Tells.refl (t : Turn W) : Tells t t :=
  ⟨⟨[], .refl t, List.forall_mem_nil _⟩, rfl⟩

theorem Tells.trans (hfirst : Tells before mid) (hsecond : Tells mid after) :
    Tells before after := by
  obtain ⟨older, holder, hbefore⟩ := hfirst.logs
  obtain ⟨newer, hnewer, hafter⟩ := hsecond.logs
  exact ⟨⟨newer ++ older, holder.trans hnewer, List.forall_mem_append.mpr ⟨hafter, hbefore⟩⟩,
    hsecond.messages.trans hfirst.messages⟩

theorem Tells.of_same (htells : Tells before mid) (hjournal : after.journal = mid.journal)
    (htally : after.tally = mid.tally) : Tells before after := by
  obtain ⟨newer, hlogs, haside⟩ := htells.logs
  refine ⟨⟨newer, hlogs.of_same hjournal ?_ ?_, haside⟩, ?_⟩
  · rw [htally]
  · rw [htally]
  · rw [htally, htells.messages]

theorem Tells.reply (htells : Tells before mid) (code : UInt16) (message : String) :
    Tells before (mid.reply code message) := by
  obtain ⟨newer, hlogs, haside⟩ := htells.logs
  refine ⟨⟨_, hlogs.reply code message, ?_⟩, ?_⟩
  · exact List.forall_mem_cons.mpr ⟨Event.aside_replied _, haside⟩
  · rw [reply_messages, htells.messages]

/-- A reply is written, whatever else becomes of the turn. -/
theorem Tells.answered (htells : Tells before mid) (told : Turn W)
    (hjournal : told.journal = mid.journal) (htally : told.tally = mid.tally) (code : UInt16)
    (message : String) : Tells before (told.reply code message).conclude :=
  ((htells.of_same hjournal htally).reply code message).of_same rfl rfl

theorem Tells.runStage {stage : Stage} {refusal : Option Refusal} (hother : ¬ stage.OfMessage)
    (hrun : t.runStage service stage = (after, refusal)) : Tells t after := by
  obtain ⟨looks, hlogs, hevents, -⟩ := logs_of_runStage hrun
  refine ⟨⟨looks, hlogs, fun e he => (hevents e he).aside hother⟩, ?_⟩
  rw [(leaves_of_runStage hrun).tally]

theorem Tells.close (htells : Tells before t) : Tells before (t.close service) := by
  cases hrun : t.runStage service .close with
  | mk closed refusal =>
      rw [close_eq service t hrun]
      have hclosed : Tells t closed := .runStage (by simp [Stage.OfMessage]) hrun
      exact (htells.trans hclosed).of_same rfl rfl

theorem Exchanged.tells (hexchanged : Exchanged service t after) : Tells t after := by
  have hasked : ∀ authenticator username password,
      Tells t (t.questioned authenticator username password) := by
    intro authenticator username password
    refine ⟨⟨[.authenticated username password
      (authenticator username password t.transaction t.world).refusal], ⟨rfl, ?_, rfl, rfl⟩, ?_⟩,
      rfl⟩
    · exact List.forall_mem_cons.mpr ⟨rfl, List.forall_mem_nil _⟩
    · exact List.forall_mem_cons.mpr ⟨by simp [Event.Aside, Event.OfStage], List.forall_mem_nil _⟩
  cases hexchanged with
  | refused cost code message hcode =>
      exact (Tells.refl t).answered (t.penalize cost) rfl rfl code message
  | challenged step =>
      have htold : Tells t (t.reply 334 (challengeText step)) := (Tells.refl t).reply _ _
      cases step with
      | credentials | username | password => exact htold.of_same rfl rfl
  | rejected authenticator username password r hauthenticator hverdict =>
      exact (hasked authenticator username password).answered
        ((t.questioned authenticator username password).penalize _) rfl rfl r.code r.message
  | accepted authenticator username password hauthenticator hverdict =>
      exact (hasked authenticator username password).answered
        ((t.questioned authenticator username password).signIn username password) rfl rfl _ _

/-- With a command a client is told something, and no message is looked at. -/
theorem Handled.tells {line : CommandLine} (hhandled : Handled service line t after) :
    Tells t after := by
  have hran : ∀ {stage : Stage} {opened mid : Turn W} {refusal : Option Refusal},
      opened.runStage service stage = (mid, refusal) → ¬ stage.OfMessage →
        opened.journal = t.journal → opened.tally = t.tally → Tells t mid := by
    intro stage opened mid refusal hrun hother hjournal htally
    exact ((Tells.refl t).of_same hjournal htally).trans (.runStage hother hrun)
  have hself : Tells t t := .refl t
  cases hhandled with
  | refused cost code message hcode hverb =>
      exact hself.answered (t.penalize cost) rfl rfl code message
  | idle hverb => exact hself.answered t rfl rfl _ _
  | reset hverb => exact hself.answered t.resetEnvelope rfl rfl _ _
  | greeted protocol name mid hverb hname hrun =>
      have hmid := hran hrun (by simp [Stage.OfMessage]) rfl rfl
      exact hmid.answered (mid.resetEnvelope.reward _) rfl rfl _ _
  | greetingRefused protocol name mid r hverb hname hrun =>
      have hmid := hran hrun (by simp [Stage.OfMessage]) rfl rfl
      exact hmid.answered (mid.restoreGreeting t.transaction.peer) rfl rfl r.code r.message
  | senderAccepted path sender mid hverb hobstacle hpath hparse hrun =>
      have hmid := hran hrun (by simp [Stage.OfMessage]) rfl rfl
      exact hmid.answered (mid.reward _) rfl rfl _ _
  | senderRefused path sender mid r hverb hobstacle hpath hparse hrun =>
      have hmid := hran hrun (by simp [Stage.OfMessage]) rfl rfl
      exact hmid.answered (mid.setSender none) rfl rfl r.code r.message
  | recipientAccepted path recipient mid hverb hsender hroom hpath hparse hrun =>
      have hmid := hran hrun (by simp [Stage.OfMessage]) rfl rfl
      refine hmid.answered _ (journal_welcome recipient mid) ?_ _ _
      split
      · rfl
      · rfl
  | recipientRefused path recipient mid r hverb hsender hpath hparse hrun =>
      have hmid := hran hrun (by simp [Stage.OfMessage]) rfl rfl
      exact hmid.answered (mid.penalize _) rfl rfl r.code r.message
  | bodyAwaited hverb hsender hrecipients =>
      exact (hself.reply 354 "Go ahead. End your data with <CR><LF>.<CR><LF>").of_same rfl rfl
  | quit message hverb =>
      have hbye : Tells t (t.reply 221 message).countCommand :=
        (hself.reply 221 message).of_same rfl rfl
      exact hbye.close
  | handshakeAwaited hverb hplain hoffers => exact (hself.reply 220 "Go ahead").of_same rfl rfl
  | auth _ hverb hobstacle hexchanged => exact hexchanged.tells
  | proxied header hverb henabled hfirst hparse =>
      exact hself.answered (t.relocate service header.source) rfl rfl _ _
  | xclient attributes hverb henabled hparse =>
      have htally : (t.moveTo service attributes).tally = t.tally := by
        rw [moveTo]
        split
        · rfl
        · rfl
      exact hself.answered ((t.moveTo service attributes).mapPeer (withAttributes attributes))
        (moveTo_journal service attributes t) htally _ _

theorem Begun.tells (hbegun : Begun service t after) : Tells t after := by
  have hlooked : Tells t (t.lookUpNames service) := (Tells.refl t).of_same rfl rfl
  have hother : ¬ Stage.connection.OfMessage := by simp [Stage.OfMessage]
  cases hbegun with
  | refused mid r hrun =>
      exact ((hlooked.trans (.runStage hother hrun)).reply r.code r.message).close
  | greeted mid hrun =>
      have hgreeted := (hlooked.trans (.runStage hother hrun)).reply 220
        (service.hostname ++ " " ++ service.settings.banner)
      exact hgreeted.of_same rfl rfl

/-- Behind a body a message is counted if it has passed both stages. -/
theorem Ended.logs {outcome : BodyOutcome} (hended : Ended service t outcome after) :
    ∃ newer, Logs newer t after ∧ after.tally.messages =
      t.tally.messages + (succeeds .data newer && succeeds .handler newer).toNat := by
  have hlooked : ∀ {body : List UInt8} {judged : Turn W} {refusal : Option Refusal},
      (t.hold body).runStage service .data = (judged, refusal) → ∃ looks,
        Logs looks t judged ∧ (∀ e ∈ looks, e.OfStage .data) ∧
          succeeds .data looks = refusal.isNone ∧ judged.tally = t.tally := by
    intro body judged refusal hdata
    obtain ⟨looks, hlogs, hevents, hsucceeds⟩ := logs_of_runStage hdata
    have hheld : Logs [] t (t.hold body) := (Logs.refl t).of_same rfl rfl rfl
    refine ⟨looks, ?_, hevents, hsucceeds, (leaves_of_runStage hdata).tally⟩
    rw [← List.append_nil looks]
    exact hheld.trans hlogs
  cases hended with
  | tooBig =>
      have hreset : Logs [] t (t.penalize Karma.messageTooBig).resetEnvelope :=
        (Logs.refl t).of_same rfl rfl rfl
      exact ⟨_, (hreset.reply 552 (tooBigText service)).of_same rfl rfl rfl, rfl⟩
  | bodyRefused body mid r hdata =>
      obtain ⟨looks, hlogs, -, hdenied, htally⟩ := hlooked hdata
      have hreset : Logs looks t mid.resetEnvelope := hlogs.of_same rfl rfl rfl
      refine ⟨_, (hreset.reply r.code r.message).of_same rfl rfl rfl, ?_⟩
      have hnone : succeeds .data (.replied ⟨r.code, r.message⟩ :: looks) = false := hdenied
      rw [hnone, ← htally]
      rfl
  | messageRefused body judged mid r hdata hhandler =>
      obtain ⟨looks, hlogs, hlooks, -, htally⟩ := hlooked hdata
      obtain ⟨hands, hmore, hhands, hdenied⟩ := logs_of_runStage hhandler
      have hreset : Logs (hands ++ looks) t mid.resetEnvelope :=
        (hlogs.trans hmore).of_same rfl rfl rfl
      refine ⟨_, (hreset.reply r.code r.message).of_same rfl rfl rfl, ?_⟩
      have hnone : succeeds .handler (.replied ⟨r.code, r.message⟩ :: (hands ++ looks)) = false :=
        (succeeds_both hlooks hhands).2.trans hdenied
      rw [hnone, Bool.and_false, ← htally, ← (leaves_of_runStage hhandler).tally]
      rfl
  | messageAccepted body judged mid hdata hhandler =>
      obtain ⟨looks, hlogs, hlooks, hpassed, htally⟩ := hlooked hdata
      obtain ⟨hands, hmore, hhands, htaken⟩ := logs_of_runStage hhandler
      have hreset : Logs (hands ++ looks) t
          (mid.countMessage.reward Karma.commandExecuted).resetEnvelope :=
        (hlogs.trans hmore).of_same rfl rfl rfl
      refine ⟨_, (hreset.reply 250 "Thank you.").of_same rfl rfl rfl, ?_⟩
      obtain ⟨hdata, hhandler'⟩ := succeeds_both hlooks hhands
      have hboth : (succeeds .data (.replied ⟨250, "Thank you."⟩ :: (hands ++ looks)) &&
          succeeds .handler (.replied ⟨250, "Thank you."⟩ :: (hands ++ looks))) = true :=
        Bool.and_eq_true_iff.mpr ⟨hdata.trans hpassed, hhandler'.trans htaken⟩
      rw [hboth, ← htally, ← (leaves_of_runStage hhandler).tally]
      rfl

end Tells

/-- What is counted between two turns, `read` being what was read in between. -/
structure Accounts (read : List (Use × UInt8)) (before after : Turn W) : Prop where
  accounted : after.toSession.Accounted
  bytesRead : after.tally.bytesRead = before.tally.bytesRead + read.length
  bytesWritten : before.tally.bytesWritten ≤ after.tally.bytesWritten
  messages : before.tally.messages ≤ after.tally.messages
  /-- Every line that is taken up has its end in what was read. -/
  lines : (exchanges after.journal).length =
    (exchanges before.journal).length + read.count (.commandLine, LineReader.byteFeed)

section Accounts

variable {service : Service W} {before mid t after : Turn W} {signal : Signal}
  {read more : List (Use × UInt8)} {newer : List Event}

theorem Accounts.refl (haccounted : t.toSession.Accounted) : Accounts [] t t :=
  ⟨haccounted, rfl, Nat.le_refl _, Nat.le_refl _, rfl⟩

theorem Accounts.trans (hfirst : Accounts read before mid) (hsecond : Accounts more mid after) :
    Accounts (read ++ more) before after := by
  refine ⟨hsecond.accounted, ?_, hfirst.bytesWritten.trans hsecond.bytesWritten,
    hfirst.messages.trans hsecond.messages, ?_⟩
  · rw [hsecond.bytesRead, hfirst.bytesRead, List.length_append, Nat.add_assoc]
  · rw [hsecond.lines, hfirst.lines, List.count_append, Nat.add_assoc]

/-- What is written down is counted, if the latest exchange accepts as many messages more as are
counted. -/
theorem Accounts.logs (haccounts : Accounts read before mid) (hlogs : Logs newer mid after)
    (accepted : Nat) (hmessages : after.tally.messages = mid.tally.messages + accepted)
    (hacceptances : after.toSession.acceptances = mid.toSession.acceptances + accepted)
    (hbody : ∀ d, after.phase = .body d → after.toSession.AwaitsBody) :
    Accounts read before after := by
  refine ⟨⟨?_, ?_, hbody⟩, ?_, ?_, ?_, ?_⟩
  · rw [hlogs.bytesWritten, hlogs.written, haccounts.accounted.bytesWritten]
  · rw [hmessages, hacceptances, haccounts.accounted.messages]
  · rw [hlogs.bytesRead, haccounts.bytesRead]
  · rw [hlogs.bytesWritten]
    exact haccounts.bytesWritten.trans (Nat.le_add_right _ _)
  · rw [hmessages]
    exact haccounts.messages.trans (Nat.le_add_right _ _)
  · rw [hlogs.exchanges, List.length_modifyHead, haccounts.lines]

theorem Accounts.tells (haccounts : Accounts read before mid) (htells : Tells mid after)
    (hbody : ∀ d, after.phase = .body d → after.toSession.AwaitsBody) :
    Accounts read before after := by
  obtain ⟨newer, hlogs, haside⟩ := htells.logs
  refine haccounts.logs hlogs 0 htells.messages ?_ hbody
  have hreverse : ∀ e ∈ newer.reverse, e.Aside := fun e he => haside e (List.mem_reverse.mp he)
  rw [Nat.add_zero, Session.acceptances, hlogs.exchanges, Session.acceptances]
  cases exchanges mid.journal with
  | nil => rfl
  | cons x earlier =>
      rw [List.modifyHead_cons, List.countP_cons, List.countP_cons,
        Exchange.accepts_extend_of_aside hreverse]

/-- Behind what a client is told no body is awaited. -/
theorem Accounts.told (haccounts : Accounts read before mid) (htells : Tells mid after)
    (hphase : ∀ d, after.phase ≠ .body d) : Accounts read before after :=
  haccounts.tells htells fun d hbody => absurd hbody (hphase d)

/-- A byte is read that does not end a command line. -/
theorem Accounts.countRead (haccounted : t.toSession.Accounted) (use : Use) (b : UInt8)
    (hends : (use, b) ≠ (.commandLine, LineReader.byteFeed)) :
    Accounts [(use, b)] t (t.countRead 1) := by
  refine ⟨⟨haccounted.bytesWritten, haccounted.messages, haccounted.body⟩, rfl, Nat.le_refl _,
    Nat.le_refl _, ?_⟩
  rw [List.count_singleton, if_neg (by simpa using hends)]
  rfl

/-- The last byte of a command line is read. -/
theorem Accounts.take (haccounted : t.toSession.Accounted) {line : Option CommandLine} (e : Event)
    (hexchanges : exchanges (e :: t.journal) = ⟨line, []⟩ :: exchanges t.journal)
    (hsilent : e.reply? = none) {reader : LineReader} (hphase : t.phase = .command reader) :
    Accounts [(.commandLine, LineReader.byteFeed)] t ((t.countRead 1).note e) := by
  have hwritten : ((t.countRead 1).note e).toSession.written = t.toSession.written := by
    simp [Session.written, Session.replies, hsilent]
  refine ⟨⟨?_, ?_, ?_⟩, rfl, Nat.le_refl _, Nat.le_refl _, ?_⟩
  · rw [hwritten]
    exact haccounted.bytesWritten
  · have hnone : Exchange.accepts ⟨line, []⟩ = false :=
      Exchange.accepts_of_aside (List.forall_mem_nil _)
    rw [Session.acceptances, note_journal, countRead_journal, hexchanges, List.countP_cons, hnone]
    exact haccounted.messages
  · intro d hbody
    rw [note_phase, countRead_phase, hphase] at hbody
    cases hbody
  · rw [note_journal, countRead_journal, hexchanges, List.length_cons, List.count_singleton_self]

/-- Only DATA has a body awaited. -/
theorem Handled.verb_of_body {line : CommandLine} {d : DotDecoder}
    (hhandled : Handled service line t after) (hphase : after.phase = .body d) :
    line.verb? = some .data := by
  cases hhandled with
  | bodyAwaited hverb hsender hrecipients => exact hverb
  | auth _ hverb hobstacle hexchanged => exact absurd hphase (hexchanged.phase_ne d)
  | quit message hverb => cases close_phase.symm.trans hphase
  | refused | idle | reset | greeted | greetingRefused | senderAccepted | senderRefused
  | recipientAccepted | recipientRefused | handshakeAwaited | proxied | xclient =>
      simp [greet] at hphase

theorem Accounts.handled {line : CommandLine} {opened : Turn W} {earlier : List Exchange}
    (haccounts : Accounts read before opened)
    (hexchanges : exchanges opened.journal = ⟨some line, []⟩ :: earlier)
    (hhandled : Handled service line opened after) : Accounts read before after := by
  refine haccounts.tells hhandled.tells fun d hphase => ?_
  obtain ⟨newer, hlogs, haside⟩ := hhandled.tells.logs
  refine ⟨Exchange.extend newer.reverse ⟨some line, []⟩, earlier, ?_, ?_, ?_⟩
  · show exchanges after.journal = _
    rw [hlogs.exchanges, hexchanges, List.modifyHead_cons]
  · rw [Exchange.asks_extend, Exchange.asks, Option.bind_some, hhandled.verb_of_body hphase,
      beq_self_eq_true]
  · intro e he
    exact haside e (List.mem_reverse.mp he)

theorem Accounts.ended {outcome : BodyOutcome} (haccounts : Accounts read before mid)
    (hawaits : mid.toSession.AwaitsBody) (hended : Ended service mid outcome after) :
    Accounts read before after := by
  obtain ⟨newer, hlogs, hmessages⟩ := hended.logs
  obtain ⟨x, earlier, hexchanges, hdata, haside⟩ := hawaits
  refine haccounts.logs hlogs _ hmessages ?_ fun d hphase => absurd hphase (hended.phase_ne d)
  have hbefore : exchanges mid.journal = x :: earlier := hexchanges
  rw [Session.acceptances, hlogs.exchanges, Session.acceptances, hbefore, List.modifyHead_cons,
    List.countP_cons, List.countP_cons, Exchange.accepts_extend_of_data hdata haside,
    succeeds_reverse, succeeds_reverse, Exchange.accepts_of_aside haside]
  cases succeeds .data newer && succeeds .handler newer with
  | false => rfl
  | true => rfl

theorem read?_byte {use : Use} (huse : t.phase.use? = some use) (b : UInt8) :
    t.read? (.byte b) = some (use, b) := by
  rw [read?, huse, Option.map_some]

theorem read?_of_deaf (huse : t.phase.use? = none) (signal : Signal) : t.read? signal = none := by
  cases signal with
  | byte b => rw [read?, huse, Option.map_none]
  | handshake | ended | expired => rfl

/-- A byte that ends neither a line nor a body is read. -/
theorem Accounts.passed (haccounted : t.toSession.Accounted) {b : UInt8} {phase : Phase}
    (hpasses : Passes b t.phase phase) :
    Accounts (t.read? (.byte b)).toList t (t.passByte phase) := by
  have hread : ∀ use, t.phase.use? = some use → (use, b) ≠ (.commandLine, LineReader.byteFeed) →
      (∀ d, phase = .body d → ∃ decoder, t.phase = .body decoder) →
        Accounts (t.read? (.byte b)).toList t (t.passByte phase) := by
    intro use huse hends hbody
    rw [read?_byte huse, Option.toList_some]
    have hpassed : Tells (t.countRead 1) (t.passByte phase) := (Tells.refl _).of_same rfl rfl
    refine (Accounts.countRead haccounted use b hends).tells hpassed fun d hnext => ?_
    obtain ⟨decoder, hbefore⟩ := hbody d hnext
    exact haccounted.body decoder hbefore
  generalize hbefore : t.phase = before at hpasses hread
  cases hpasses with
  | command reader hb => exact hread .commandLine rfl (by simpa using hb) nofun
  | response step reader hb => exact hread .response rfl nofun nofun
  | body decoder hb => exact hread .body rfl nofun fun d _ => ⟨decoder, rfl⟩

/-- What is counted with a signal. -/
theorem Move.accounts (hmove : Move service t signal after)
    (haccounted : t.toSession.Accounted) : Accounts (t.read? signal).toList t after := by
  have hself : Tells t t := .refl t
  have hkept : Accounts [] t t := .refl haccounted
  cases hmove with
  | unheard b hphase =>
      have hdeaf : t.phase.use? = none := by
        rcases hphase with h | h | h
        · rw [h, Phase.use?]
        · rw [h, Phase.use?]
        · rw [h, Phase.use?]
      rw [read?_of_deaf hdeaf]
      exact hkept
  | unasked result hphase => exact hkept
  | finished signal hphase =>
      rw [read?_of_deaf (by rw [hphase, Phase.use?])]
      exact hkept
  | passed b phase hpasses => exact .passed haccounted hpasses
  | overlong reader hphase hline =>
      rw [read?_byte (by rw [hphase, Phase.use?])]
      have htaken := Accounts.take haccounted .overlong rfl rfl hphase
      have htold : Tells ((t.countRead 1).note .overlong) (((t.countRead 1).note .overlong).refuse
          Karma.badParameter 500 "5.5.2 Line too long").awaitCommand := by
        have hpenalized : Tells ((t.countRead 1).note .overlong)
            (((t.countRead 1).note .overlong).penalize Karma.badParameter) :=
          (Tells.refl _).of_same rfl rfl
        exact (hpenalized.reply 500 "5.5.2 Line too long").of_same rfl rfl
      exact htaken.told htold (by simp)
  | handled reader text _ hphase hline hhandled =>
      rw [read?_byte (by rw [hphase, Phase.use?])]
      have htaken := Accounts.take haccounted (.command (CommandLine.parse text)) rfl rfl hphase
      exact htaken.handled rfl hhandled
  | exchanged step reader _ hphase hexchanged =>
      rw [read?_byte (by rw [hphase, Phase.use?])]
      have hbyte := Accounts.countRead haccounted .response LineReader.byteFeed nofun
      exact hbyte.told hexchanged.tells hexchanged.phase_ne
  | bodyEnded b outcome _ hread hended =>
      obtain ⟨decoder, hphase, -, -⟩ := hread
      rw [read?_byte (by rw [hphase, Phase.use?])]
      have hbyte := Accounts.countRead haccounted .body b nofun
      exact hbyte.ended (haccounted.body decoder hphase) hended
  | opened h _ hphase hbegun =>
      have hopened : Tells t (t.encrypt h) := hself.of_same rfl rfl
      exact hkept.told (hopened.trans hbegun.tells) hbegun.phase_ne
  | openingFailed signal hphase hsignal =>
      rw [read?_of_deaf (by rw [hphase, Phase.use?])]
      have hpenalized : Tells t (t.penalize Karma.handshakeFailed) := hself.of_same rfl rfl
      exact hkept.told hpenalized.close (by simp [close_phase])
  | upgraded h hphase =>
      exact hkept.told (hself.of_same rfl rfl) (by simp [Turn.upgraded])
  | upgradeFailed signal hphase hsignal =>
      rw [read?_of_deaf (by rw [hphase, Phase.use?])]
      have hpenalized : Tells t (t.penalize Karma.handshakeFailed) := hself.of_same rfl rfl
      have htold : Tells t (t.refuse Karma.handshakeFailed 550 "Handshake error").countCommand :=
        (hpenalized.reply 550 "Handshake error").of_same rfl rfl
      exact hkept.told htold.close (by simp [close_phase])
  | ended hphase => exact hkept.told hself.close (by simp [close_phase])
  | timedOut hphase =>
      exact hkept.told (hself.reply 421 "Connection timed out.").close (by simp [close_phase])
  | expired hphase => exact hkept.told hself.close (by simp [close_phase])

/-- What is counted with signals is what they are read as. -/
theorem heedAll_accounts (service : Service W) (signals : List Signal)
    (haccounted : t.toSession.Accounted) :
    Accounts (t.readFrom service signals) t (t.heedAll service signals) := by
  induction signals generalizing t with
  | nil => exact .refl haccounted
  | cons signal signals ih =>
      have hfirst := (heed_move service t signal).accounts haccounted
      exact hfirst.trans (ih hfirst.accounted)

/-- Nothing is read before the first signal. -/
theorem start_accounts (service : Service W) (tx : Transaction) (world : W) :
    Accounts [] { transaction := tx, phase := .opening, world } (start service tx world) := by
  have hfresh : Accounts [] ({ transaction := tx, phase := .opening, world } : Turn W)
      { transaction := tx, phase := .opening, world } := by
    refine .refl ⟨rfl, rfl, fun d hphase => ?_⟩
    cases hphase
  rw [start]
  split
  · exact hfresh
  · have hbegun := begin_begun service { transaction := tx, phase := .opening, world }
    exact hfresh.told hbegun.tells hbegun.phase_ne

end Accounts

section Dropped

variable {service : Service W} {t : Turn W}

theorem heed_of_closed (hphase : t.phase = .closed) (signal : Signal) :
    t.heed service signal = t := by
  cases signal with
  | byte b => rw [heed, takeByte, hphase]
  | handshake result => simp only [heed, endHandshake, hphase]
  | ended => rw [heed, endInput, hphase]
  | expired => rw [heed, expire, hphase]

/-- Nothing becomes of a connection that has ended. -/
theorem step_of_closed (hphase : t.phase = .closed) (input : Input) : t.step service input = t := by
  rw [step_eq_heedAll]
  induction input.signals with
  | nil => rfl
  | cons signal signals ih => exact (congrArg (heedAll service · signals)
      (heed_of_closed hphase signal)).trans ih

/-- Nothing is read of a client whose connection has ended. -/
theorem readFrom_of_closed (hphase : t.phase = .closed) (signals : List Signal) :
    t.readFrom service signals = [] := by
  induction signals with
  | nil => rfl
  | cons signal signals ih =>
      rw [readFrom, read?_of_deaf (by rw [hphase, Phase.use?]), heed_of_closed hphase, ih]
      rfl

/-- Bytes are dropped where a handshake is awaited. -/
theorem readFrom_of_handshake (hphase : t.phase = .handshake) (bytes : List UInt8) :
    t.readFrom service (bytes.map .byte) = [] := by
  induction bytes with
  | nil => rfl
  | cons b bytes ih =>
      have hstill : t.heed service (.byte b) = t := by rw [heed, takeByte, hphase]
      rw [List.map_cons, readFrom, read?_of_deaf (by rw [hphase, Phase.use?]), hstill, ih]
      rfl

/-- A command line that ends is carried out. -/
theorem handled_of_lineEnded? {signal : Signal} {line : CommandLine}
    (hline : t.lineEnded? signal = some (some line)) :
    Handled service line ((t.countRead 1).note (.command line)) (t.heed service signal) := by
  have hnone : (∀ reader, t.phase ≠ .command reader) → False := fun hphase => by
    cases (lineEnded?_of_phase hphase).symm.trans hline
  by_cases hends : signal = .byte LineReader.byteFeed
  · subst hends
    cases hphase : t.phase with
    | command reader =>
        simp only [lineEnded?, hphase, if_true, Option.some.injEq] at hline
        simp only [heed, takeByte, hphase, if_true]
        cases hfinish : (reader.add [LineReader.byteFeed]).finish with
        | tooLong =>
            rw [hfinish] at hline
            cases hline
        | text text =>
            obtain rfl : CommandLine.parse text = line := by
              simpa only [hfinish, Line.command?, Option.some.injEq] using hline
            exact dispatch_handled service (t.countRead 1) (CommandLine.parse text)
    | opening | response | body | handshake | closed =>
        exact (hnone (by simp [hphase])).elim
  · cases (lineEnded?_of_signal hends).symm.trans hline

/-- QUIT ends a connection. -/
theorem Handled.closed {line : CommandLine} {after : Turn W}
    (hhandled : Handled service line t after) (hquit : line.verb? = some .quit) :
    after.phase = .closed := by
  cases hhandled with
  | quit message hverb => exact close_phase
  | refused cost code message hcode hverb => exact absurd hquit (hverb .quit (by simp))
  | greeted protocol name mid hverb | greetingRefused protocol name mid r hverb =>
      rw [hquit] at hverb
      cases protocol with
      | smtp => cases hverb
      | esmtp => cases hverb
  | idle hverb | reset hverb | senderAccepted _ _ _ hverb | senderRefused _ _ _ _ hverb
  | recipientAccepted _ _ _ hverb | recipientRefused _ _ _ _ hverb | bodyAwaited hverb
  | handshakeAwaited hverb | auth _ hverb | proxied _ hverb | xclient _ hverb =>
      cases hquit.symm.trans hverb

/-- A client that is told to go ahead with STARTTLS is waited for with a handshake. -/
theorem Handled.handshake {line : CommandLine} {after : Turn W}
    (hhandled : Handled service line t after) (hstartTls : line.verb? = some .startTls)
    (htold : after.journal.head? = some (.replied ⟨220, "Go ahead"⟩)) :
    after.phase = .handshake := by
  cases hhandled with
  | handshakeAwaited hverb hplain hoffers => rfl
  | refused cost code message hcode hverb =>
      have hgo : code = 220 := by
        simp at htold
        exact htold.1
      rw [hgo] at hcode
      exact absurd hcode (by decide)
  | greeted protocol name mid hverb | greetingRefused protocol name mid r hverb =>
      rw [hstartTls] at hverb
      cases protocol with
      | smtp => cases hverb
      | esmtp => cases hverb
  | idle hverb | reset hverb | senderAccepted _ _ _ hverb | senderRefused _ _ _ _ hverb
  | recipientAccepted _ _ _ hverb | recipientRefused _ _ _ _ hverb | bodyAwaited hverb
  | quit _ hverb | auth _ hverb | proxied _ hverb | xclient _ hverb =>
      cases hstartTls.symm.trans hverb

/-- What arrives behind QUIT is not read, and what arrives behind STARTTLS before the handshake
is not read either, whatever other connections do to the world meanwhile. -/
theorem readFrom_behind {signal : Signal} {line : CommandLine}
    (hline : t.lineEnded? signal = some (some line)) (world : W) :
    let after : Turn W := { t.heed service signal with world }
    (line.verb? = some .quit → ∀ later, after.readFrom service later = []) ∧
      (line.verb? = some .startTls → after.journal.head? = some (.replied ⟨220, "Go ahead"⟩) →
        ∀ bytes : List UInt8, after.readFrom service (bytes.map .byte) = []) := by
  intro after
  have hhandled : Handled service line _ (t.heed service signal) := handled_of_lineEnded? hline
  constructor
  · intro hquit later
    have hphase : after.phase = .closed := hhandled.closed hquit
    exact readFrom_of_closed hphase later
  · intro hstartTls htold bytes
    have hphase : after.phase = .handshake := hhandled.handshake hstartTls htold
    exact readFrom_of_handshake hphase bytes

end Dropped

end Turn
end MailIntake
