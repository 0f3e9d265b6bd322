import MailIntake.Proofs.Session.Journal
/-!
What a journal looks like between the first and the last stage of a connection: stages follow one
another, and each of them has run to its end (`Script`).  With every command and every body such a
stretch is written down, and the client stays who it is but for what the command is about
(`Handled.carried`, `Ended.stays`); only an exchange of credentials is left to be looked at by
itself.
-/
namespace MailIntake

universe u v

variable {W : Type u} {A : Type v}

/-- A stage that has run: its checkers have answered in the order in which they are registered, and
unless one of them has refused, all of them have. -/
structure Ran (stage : Stage) (registered : List (Checker W)) (refusal : Option Refusal)
    (checks : List Event) : Prop where
  verdicts : Verdicts stage refusal checks
  answers : ∀ place answer, .checked stage place answer ∈ checks →
    ∃ checker tx world, registered[place]? = some checker ∧ (checker tx world).refusal = answer
  complete : refusal = none → checks.length = registered.length

/-- A stage at which the client has been let in and is still there. -/
def Stage.Inner (stage : Stage) : Prop :=
  stage ≠ .connection ∧ stage ≠ .close

/-- A stretch of a journal, the latest first, in which every stage has run to its end before
anything else was written down, and in which only what is allowed to begin or to happen has. -/
inductive Script (service : Service W) (allowed : Event → Prop) : List Event → Prop
  | nil : Script service allowed []
  | other {newer : List Event} (e : Event) (hother : ∀ stage, ¬ e.OfStage stage) (he : allowed e)
      (hrest : Script service allowed newer) : Script service allowed (e :: newer)
  | run {checks newer : List Event} (stage : Stage) (tx : Transaction)
      (refusal : Option Refusal) (hstart : allowed (.stage stage tx))
      (hran : Ran stage (service.pipelines.checkers stage) refusal checks)
      (hrest : Script service allowed newer) :
      Script service allowed (checks ++ .stage stage tx :: newer)

namespace Script

variable {service : Service W} {allowed : Event → Prop} {newer older : List Event}

theorem append (hnewer : Script service allowed newer) (holder : Script service allowed older) :
    Script service allowed (newer ++ older) := by
  induction hnewer with
  | nil => exact holder
  | other e hother he _ ih => exact .other e hother he ih
  | run stage tx refusal hstart hran _ ih =>
      rw [List.append_assoc, List.cons_append]
      exact .run stage tx refusal hstart hran ih

theorem mono {wider : Event → Prop} (hwider : ∀ e, allowed e → wider e)
    (hnewer : Script service allowed newer) : Script service wider newer := by
  induction hnewer with
  | nil => exact .nil
  | other e hother he _ ih => exact .other e hother (hwider e he) ih
  | run stage tx refusal hstart hran _ ih =>
      exact .run stage tx refusal (hwider _ hstart) hran ih

theorem replied (reply : Reply) (he : allowed (.replied reply))
    (hnewer : Script service allowed newer) : Script service allowed (.replied reply :: newer) :=
  .other _ (by simp [Event.OfStage]) he hnewer

end Script

/-- Of what a connection writes down, what leaves the client looking as it does and judges nobody's
credentials. -/
def Event.Quiet (see : Peer → A) (look : A) : Event → Prop
  | .stage place tx => place.Inner ∧ see tx.peer = look
  | .authenticated _ _ _ => False
  | .command _ | .overlong | .checked _ _ _ | .replied _ => True

/-- What the authenticator is not asked without. -/
structure Transaction.MayAuthenticate (tx : Transaction) : Prop where
  greeted : tx.peer.helo.isSome
  encrypted : tx.peer.encrypted = true
  stranger : tx.peer.username = none
  unsent : tx.envelope.sender = none

/-- A look at a client that a greeting does not change, nor anything that a proxy or a trusted
client may say if they may speak. -/
structure Service.Sees (service : Service W) (see : Peer → A) : Prop where
  greeting : ∀ p helo protocol, see { p with helo := helo, protocol := protocol } = see p
  address : service.settings.enableProxyProtocol = true ∨ service.settings.enableXclient = true →
    ∀ p address ptrs, see { p with remoteAddr := address, ptrs := ptrs } = see p
  attributes : service.settings.enableXclient = true →
    ∀ p attributes, see (Turn.withAttributes attributes p) = see p
  stages : ∀ stage, service.KeepsAt (fun tx _ => see tx.peer) stage

namespace Turn

section Check

theorem mayAuthenticate_of_authObstacle {tx : Transaction} (hobstacle : authObstacle tx = none) :
    tx.MayAuthenticate := by
  rw [authObstacle] at hobstacle
  split at hobstacle
  · cases hobstacle
  · next hgreeted =>
      split at hobstacle
      · cases hobstacle
      · next hencrypted =>
          split at hobstacle
          · cases hobstacle
          · next hstranger =>
              split at hobstacle
              · cases hobstacle
              · next hunsent =>
                  constructor
                  · simpa [Option.isSome_iff_ne_none] using hgreeted
                  · simpa using hencrypted
                  · simpa [Transaction.isAuthenticated] using hstranger
                  · simpa using hunsent

/-- Checkers that are asked one after another, `before` being those that have been asked. -/
theorem check_ran (stage : Stage) {registered : List (Checker W)}
    (before checkers : List (Checker W)) {t : Turn W} (earlier : List Event) {older : List Event}
    (hregistered : registered = before ++ checkers) (hlength : earlier.length = before.length)
    (hearlier : Verdicts stage none earlier)
    (hanswers : ∀ place answer, .checked stage place answer ∈ earlier →
      ∃ checker tx world, registered[place]? = some checker ∧
        (checker tx world).refusal = answer)
    (hjournal : t.journal = earlier ++ older) :
    ∃ checks, Ran stage registered (check stage earlier.length checkers t).2 checks ∧
      (check stage earlier.length checkers t).1.journal = checks ++ older := by
  induction checkers generalizing before t earlier with
  | nil =>
      refine ⟨earlier, ⟨hearlier, hanswers, fun _ => ?_⟩, hjournal⟩
      rw [hregistered, List.append_nil, hlength]
  | cons checker more ih =>
      have hchecker : registered[earlier.length]? = some checker := by
        rw [hregistered, hlength, List.getElem?_append_right (Nat.le_refl _), Nat.sub_self]
        rfl
      have hmore : ∀ place answer, .checked stage place answer ∈ Event.checked stage earlier.length
          (checker t.transaction t.world).refusal :: earlier →
            ∃ checker tx world, registered[place]? = some checker ∧
              (checker tx world).refusal = answer := by
        intro place answer hmem
        rcases List.mem_cons.mp hmem with hlast | hbefore
        · cases hlast
          exact ⟨checker, t.transaction, t.world, hchecker, rfl⟩
        · exact hanswers place answer hbefore
      cases hrefusal : (checker t.transaction t.world).refusal with
      | none =>
          rw [check_cons_none stage earlier.length more hrefusal]
          rw [hrefusal] at hmore
          refine ih (before ++ [checker]) (_ :: earlier) ?_ ?_ hearlier.pass hmore ?_
          · rw [hregistered, List.append_assoc, List.singleton_append]
          · rw [List.length_cons, List.length_append, hlength, List.length_singleton]
          · simp [asked, hrefusal, hjournal]
      | some r =>
          rw [check_cons_some stage earlier.length more hrefusal]
          rw [hrefusal] at hmore
          refine ⟨_, ⟨hearlier.refuse r, hmore, fun h => by cases h⟩, ?_⟩
          simp [asked, hrefusal, hjournal]

/-- What a stage writes down: that it began, and how it ran. -/
theorem ran_of_runStage {service : Service W} {stage : Stage} {t after : Turn W}
    {refusal : Option Refusal} (hrun : t.runStage service stage = (after, refusal)) :
    ∃ checks, Ran stage (service.pipelines.checkers stage) refusal checks ∧
      after.journal = checks ++ .stage stage t.transaction :: t.journal := by
  have hran := check_ran stage [] (service.pipelines.checkers stage)
    (t := t.note (.stage stage t.transaction)) [] rfl rfl .nil (by simp) rfl
  have hcheck : check stage 0 (service.pipelines.checkers stage)
      (t.note (.stage stage t.transaction)) = (after, refusal) := hrun
  rw [List.length_nil, hcheck] at hran
  exact hran

end Check

/-- Between two turns a script has been written down in which credentials were not judged, and the
client looks the same. -/
structure Stays (service : Service W) (see : Peer → A) (before after : Turn W) : Prop where
  peer : see after.transaction.peer = see before.transaction.peer
  journal : ∃ newer, after.journal = newer ++ before.journal ∧
    Script service (Event.Quiet see (see before.transaction.peer)) newer

section Stays

variable {service : Service W} {see : Peer → A} {before t after : Turn W}

theorem Stays.refl (t : Turn W) : Stays service see t t :=
  ⟨rfl, [], rfl, .nil⟩

theorem Stays.trans (hfirst : Stays service see before t) (hsecond : Stays service see t after) :
    Stays service see before after := by
  obtain ⟨older, holder, hscript⟩ := hfirst.journal
  obtain ⟨newer, hnewer, hmore⟩ := hsecond.journal
  rw [hfirst.peer] at hmore
  refine ⟨hsecond.peer.trans hfirst.peer, newer ++ older, ?_, hmore.append hscript⟩
  rw [hnewer, holder, List.append_assoc]

/-- What is not written down and does not change the look of the client. -/
theorem Stays.of_same (hpeer : see after.transaction.peer = see t.transaction.peer)
    (hjournal : after.journal = t.journal) : Stays service see t after :=
  ⟨hpeer, [], hjournal, .nil⟩

theorem Stays.reply (hstays : Stays service see before t) (code : UInt16) (message : String) :
    Stays service see before (t.reply code message) := by
  have hreply : Script service (Event.Quiet see (see t.transaction.peer))
      [.replied ⟨code, message⟩] := .replied _ (by simp [Event.Quiet]) .nil
  exact hstays.trans ⟨by rw [reply_transaction], _, by rw [reply_journal]; rfl, hreply⟩

theorem Stays.refuse (hstays : Stays service see before t) (cost : Int) (code : UInt16)
    (message : String) : Stays service see before (t.refuse cost code message) := by
  have hpenalized : Stays service see before (t.penalize cost) := ⟨hstays.peer, hstays.journal⟩
  exact hpenalized.reply code message

theorem Stays.inPhase (hstays : Stays service see before t) (phase : Phase) :
    Stays service see before (t.inPhase phase) :=
  ⟨hstays.peer, hstays.journal⟩

theorem Stays.countCommand (hstays : Stays service see before t) :
    Stays service see before t.countCommand :=
  ⟨hstays.peer, hstays.journal⟩

theorem Stays.conclude (hstays : Stays service see before t) :
    Stays service see before t.conclude :=
  ⟨hstays.peer, hstays.journal⟩

/-- A reply is written, whatever else becomes of the turn. -/
theorem Stays.answered (hstays : Stays service see before t) (told : Turn W)
    (hpeer : see told.transaction.peer = see t.transaction.peer)
    (hjournal : told.journal = t.journal) (code : UInt16) (message : String) :
    Stays service see before (told.reply code message).conclude := by
  have htold : Stays service see before told := hstays.trans (.of_same hpeer hjournal)
  exact (htold.reply code message).conclude

variable (hsees : service.Sees see)

include hsees

theorem Stays.runStage {stage : Stage} {refusal : Option Refusal}
    (hrun : t.runStage service stage = (after, refusal)) (hinner : stage.Inner) :
    Stays service see t after := by
  obtain ⟨checks, hran, hjournal⟩ := ran_of_runStage hrun
  refine ⟨seen_of_runStage (hsees.stages stage) hrun, checks ++ [.stage stage t.transaction], ?_,
    .run stage t.transaction refusal ⟨hinner, rfl⟩ hran .nil⟩
  rw [hjournal, List.append_assoc, List.singleton_append]

theorem Stays.introduce (protocol : Protocol) (name : String) :
    Stays service see t (t.introduce protocol name) :=
  .of_same (hsees.greeting t.transaction.peer (some name) protocol) rfl

theorem Stays.restoreGreeting (peer : Peer) : Stays service see t (t.restoreGreeting peer) :=
  .of_same (hsees.greeting t.transaction.peer peer.helo peer.protocol) rfl

theorem Stays.relocate
    (henabled : service.settings.enableProxyProtocol = true ∨ service.settings.enableXclient = true)
    (address : Address.Endpoint) : Stays service see t (t.relocate service address) :=
  .of_same (hsees.address henabled t.transaction.peer address (namesOf service address.ip)) rfl

theorem Stays.moveTo (henabled : service.settings.enableXclient = true)
    (attributes : XClientAttributes) : Stays service see t (t.moveTo service attributes) := by
  rw [Turn.moveTo]
  split
  · exact .relocate hsees (.inr henabled) _
  · exact .refl t

/-- What becomes of a command: the connection goes on, a told client is left, or an exchange of
credentials has begun. -/
inductive Carried (service : Service W) (see : Peer → A) (line : CommandLine) (t : Turn W) :
    Turn W → Prop
  | on {after : Turn W} (hstays : Stays service see t after)
      (hphase : after.phase = .command {} ∨ (∃ d, after.phase = .body d) ∨
        after.phase = .handshake ∧ t.transaction.peer.encrypted = false) :
      Carried service see line t after
  | left {told : Turn W} (hstays : Stays service see t told) :
      Carried service see line t (told.close service)
  | exchanged {after : Turn W} (hverb : line.verb? = some .auth)
      (hobstacle : authObstacle t.transaction = none) (hexchanged : Exchanged service t after) :
      Carried service see line t after

omit hsees in
theorem Carried.answered {line : CommandLine} (hstays : Stays service see t after)
    (told : Turn W) (hpeer : see told.transaction.peer = see after.transaction.peer)
    (hjournal : told.journal = after.journal) (code : UInt16) (message : String) :
    Carried service see line t (told.reply code message).conclude :=
  .on (hstays.answered told hpeer hjournal code message) (.inl rfl)

/-- With every command a script is written down. -/
theorem Handled.carried {line : CommandLine} (hhandled : Handled service line t after) :
    Carried service see line t after := by
  have hproposed : ∀ {sender : ReversePath} {mid : Turn W} {refusal : Option Refusal},
      (t.setSender (some sender)).runStage service .sender = (mid, refusal) →
        Stays service see t mid := by
    intro sender mid refusal hrun
    have hmid : Stays service see (t.setSender (some sender)) mid :=
      .runStage hsees hrun ⟨nofun, nofun⟩
    exact ⟨hmid.peer, hmid.journal⟩
  cases hhandled with
  | refused cost code message hcode hverb =>
      exact .answered (.refl t) (t.penalize cost) rfl rfl code message
  | idle hverb => exact .answered (.refl t) t rfl rfl _ _
  | reset hverb => exact .answered (.refl t) t.resetEnvelope rfl rfl _ _
  | greeted protocol name mid hverb hname hrun =>
      have hmid := (Stays.introduce hsees protocol name).trans
        (.runStage hsees hrun ⟨nofun, nofun⟩)
      exact .answered hmid (mid.resetEnvelope.reward _) rfl rfl _ _
  | greetingRefused protocol name mid r hverb hname hrun =>
      have hmid := (Stays.introduce hsees protocol name).trans
        (.runStage hsees hrun ⟨nofun, nofun⟩)
      exact .answered (hmid.trans (.restoreGreeting hsees _)) _ rfl rfl _ _
  | senderAccepted path sender mid hverb hobstacle hpath hparse hrun =>
      exact .answered (hproposed hrun) (mid.reward _) rfl rfl _ _
  | senderRefused path sender mid r hverb hobstacle hpath hparse hrun =>
      exact .answered (hproposed hrun) (mid.setSender none) rfl rfl _ _
  | recipientAccepted path recipient mid hverb hsender hroom hpath hparse hrun =>
      have hmid : Stays service see t mid := .runStage hsees hrun ⟨nofun, nofun⟩
      refine .answered hmid _ ?_ ?_ _ _
      · split
        · rfl
        · rfl
      · split
        · rfl
        · rfl
  | recipientRefused path recipient mid r hverb hsender hpath hparse hrun =>
      have hmid : Stays service see t mid := .runStage hsees hrun ⟨nofun, nofun⟩
      exact .answered hmid (mid.penalize _) rfl rfl _ _
  | bodyAwaited hverb hsender hrecipients =>
      exact .on (((Stays.refl t).reply 354 _).inPhase _) (.inr (.inl ⟨_, rfl⟩))
  | quit message hverb =>
      have htold : Stays service see t (t.reply 221 message) := (Stays.refl t).reply 221 message
      exact .left htold.countCommand
  | handshakeAwaited hverb hplain hoffers =>
      exact .on (((Stays.refl t).reply 220 _).inPhase _) (.inr (.inr ⟨rfl, hplain⟩))
  | auth _ hverb hobstacle hexchanged => exact .exchanged hverb hobstacle hexchanged
  | proxied header hverb henabled hfirst hparse =>
      exact .answered (.relocate hsees (.inl henabled) header.source) _ rfl rfl _ _
  | xclient attributes hverb henabled hparse =>
      exact .answered (.moveTo hsees henabled attributes)
        ((t.moveTo service attributes).mapPeer (withAttributes attributes))
        (hsees.attributes henabled _ attributes) rfl _ _

/-- With every body a script is written down. -/
theorem Ended.stays {outcome : BodyOutcome} (hended : Ended service t outcome after) :
    Stays service see t after := by
  have hheld : ∀ {body : List UInt8} {mid : Turn W} {refusal : Option Refusal},
      (t.hold body).runStage service .data = (mid, refusal) → Stays service see t mid := by
    intro body mid refusal hdata
    have hmid : Stays service see (t.hold body) mid := .runStage hsees hdata ⟨nofun, nofun⟩
    exact ⟨hmid.peer, hmid.journal⟩
  cases hended with
  | tooBig => exact (Stays.refl t).answered (t.penalize _).resetEnvelope rfl rfl _ _
  | bodyRefused body mid r hdata => exact (hheld hdata).answered mid.resetEnvelope rfl rfl _ _
  | messageRefused body judged mid r hdata hhandler =>
      have hmid := (hheld hdata).trans (.runStage hsees hhandler ⟨nofun, nofun⟩)
      exact hmid.answered mid.resetEnvelope rfl rfl _ _
  | messageAccepted body judged mid hdata hhandler =>
      have hmid := (hheld hdata).trans (.runStage hsees hhandler ⟨nofun, nofun⟩)
      exact hmid.answered (mid.countMessage.reward _).resetEnvelope rfl rfl _ _

end Stays

theorem Ended.phase_command {service : Service W} {t after : Turn W} {outcome : BodyOutcome}
    (hended : Ended service t outcome after) : after.phase = .command {} := by
  cases hended with
  | tooBig | bodyRefused | messageRefused | messageAccepted => simp

/-- A phase in which a client that has been let in is still there. -/
def Talking (t : Turn W) : Prop :=
  t.phase ≠ .opening ∧ t.phase ≠ .closed

/-- A phase that goes on with another one: nothing is different but how much has been read. -/
structure GoesOn (before after : Phase) : Prop where
  opening : after = .opening ↔ before = .opening
  handshake : after = .handshake ↔ before = .handshake
  closed : after = .closed ↔ before = .closed
  response : ∀ step reader, after = .response step reader →
    ∃ earlier, before = .response step earlier

theorem GoesOn.refl (phase : Phase) : GoesOn phase phase :=
  ⟨.rfl, .rfl, .rfl, fun _ reader h => ⟨reader, h⟩⟩

theorem Passes.goesOn {b : UInt8} {before after : Phase} (hpasses : Passes b before after) :
    GoesOn before after := by
  cases hpasses with
  | command reader hb => constructor <;> simp
  | response step reader hb => constructor <;> simp
  | body decoder hb => constructor <;> simp

/-- What a signal does, as far as stages and the look of the client are concerned. -/
inductive Proceeds (service : Service W) (see : Peer → A) (t : Turn W) : Turn W → Prop
  /-- Nothing but what has been read is different. -/
  | still {after : Turn W} (htransaction : after.transaction = t.transaction)
      (hjournal : after.journal = t.journal)
      (hphase : GoesOn t.phase after.phase) :
      Proceeds service see t after
  /-- A line or a body has been dealt with. -/
  | on {after : Turn W} (htalking : t.Talking) (hstays : Stays service see t after)
      (hphase : (∃ reader, after.phase = .command reader) ∨ (∃ d, after.phase = .body d) ∨
        after.phase = .handshake ∧ t.transaction.peer.encrypted = false) :
      Proceeds service see t after
  /-- The connection has ended. -/
  | left {told : Turn W} (htalking : t.Talking) (hstays : Stays service see t told) :
      Proceeds service see t (told.close service)
  /-- An exchange has begun or has gone on. -/
  | exchanged {told after : Turn W} (hstays : Stays service see t told)
      (htransaction : told.transaction = t.transaction) (hworld : told.world = t.world)
      (hphase : (∃ step reader, t.phase = .response step reader) ∨
        (∃ reader, t.phase = .command reader) ∧ t.transaction.MayAuthenticate)
      (hexchanged : Exchanged service told after) :
      Proceeds service see t after
  /-- The handshake that a connection opens with has failed. -/
  | failed {told : Turn W} (hphase : t.phase = .opening)
      (hpeer : told.transaction.peer = t.transaction.peer) (hjournal : told.journal = t.journal) :
      Proceeds service see t (told.close service)
  /-- The handshake that a connection opens with is complete. -/
  | begun {after : Turn W} (h : Handshake) (hphase : t.phase = .opening)
      (hbegun : Begun service (t.encrypt h) after) : Proceeds service see t after
  /-- The handshake that STARTTLS asked for is complete. -/
  | upgraded (h : Handshake) (hphase : t.phase = .handshake) :
      Proceeds service see t (t.upgraded h)

section Proceeds

variable {service : Service W} {see : Peer → A} {t after : Turn W} (hsees : service.Sees see)

include hsees

theorem Handled.proceeds {reader : LineReader} {line : CommandLine}
    (hphase : t.phase = .command reader)
    (hhandled : Handled service line ((t.countRead 1).note (.command line)) after) :
    Proceeds service see t after := by
  have htalking : t.Talking := by simp [Talking, hphase]
  have hcommand : Script service (Event.Quiet see (see t.transaction.peer)) [.command line] :=
    .other _ (by simp [Event.OfStage]) (by simp [Event.Quiet]) .nil
  have hnoted : Stays service see t ((t.countRead 1).note (.command line)) :=
    ⟨rfl, _, rfl, hcommand⟩
  cases hhandled.carried hsees with
  | on hstays hnext =>
      refine .on htalking (hnoted.trans hstays) ?_
      rcases hnext with hcommand | hbody | hhandshake
      · exact .inl ⟨{}, hcommand⟩
      · exact .inr (.inl hbody)
      · exact .inr (.inr hhandshake)
  | left hstays => exact .left htalking (hnoted.trans hstays)
  | exchanged hverb hobstacle hexchanged =>
      exact .exchanged hnoted rfl rfl
        (.inr ⟨⟨reader, hphase⟩, mayAuthenticate_of_authObstacle hobstacle⟩) hexchanged

/-- Every signal does one of these. -/
theorem Move.proceeds {signal : Signal} (hmove : Move service t signal after) :
    Proceeds service see t after := by
  have hread : ∀ bytes, Stays service see t (t.countRead bytes) := fun bytes => .of_same rfl rfl
  cases hmove with
  | unheard b hphase => exact .still rfl rfl (.refl _)
  | unasked result hphase => exact .still rfl rfl (.refl _)
  | finished signal hphase => exact .still rfl rfl (.refl _)
  | passed b phase hpasses => exact .still rfl rfl hpasses.goesOn
  | overlong reader hphase hline =>
      have hnoted : Stays service see t ((t.countRead 1).note .overlong) :=
        ⟨rfl, _, rfl, .other _ (by simp [Event.OfStage]) (by simp [Event.Quiet]) .nil⟩
      exact .on (by simp [Talking, hphase]) ((hnoted.refuse _ _ _).inPhase _) (.inl ⟨{}, rfl⟩)
  | handled reader text _ hphase hline hhandled => exact hhandled.proceeds hsees hphase
  | exchanged step reader _ hphase hexchanged =>
      exact .exchanged (hread 1) rfl rfl (.inl ⟨step, reader, hphase⟩) hexchanged
  | bodyEnded b outcome _ hbody hended =>
      obtain ⟨d, hphase, -, -⟩ := hbody
      have hresumes := hended.phase_command
      exact .on (by simp [Talking, hphase]) ((hread 1).trans (hended.stays hsees))
        (.inl ⟨{}, hresumes⟩)
  | opened h _ hphase hbegun => exact .begun h hphase hbegun
  | openingFailed signal hphase hsignal => exact .failed hphase rfl rfl
  | upgraded h hphase => exact .upgraded h hphase
  | upgradeFailed signal hphase hsignal =>
      have htold : Stays service see t (t.refuse Karma.handshakeFailed 550 "Handshake error") :=
        (Stays.refl t).refuse Karma.handshakeFailed 550 "Handshake error"
      exact .left (by simp [Talking, hphase]) htold.countCommand
  | ended hphase => exact .left ⟨hphase.1, hphase.2.2⟩ (.refl t)
  | timedOut hphase =>
      have htalking : t.Talking := by
        rcases hphase with ⟨reader, hphase⟩ | ⟨step, reader, hphase⟩
        · simp [Talking, hphase]
        · simp [Talking, hphase]
      exact .left htalking ((Stays.refl t).reply 421 _)
  | expired hphase =>
      rcases hphase with hphase | hphase | ⟨d, hphase⟩
      · exact .failed hphase rfl rfl
      · exact .left (by simp [Talking, hphase]) (.refl t)
      · exact .left (by simp [Talking, hphase]) (.refl t)

end Proceeds

section EachStart

variable {service : Service W} {t after : Turn W}

/-- No stage begins with a response. -/
theorem Exchanged.eachStart {stage : Stage} {holds : Transaction → List Event → Prop}
    (hexchanged : Exchanged service t after) (heach : EachStart stage holds t.journal) :
    EachStart stage holds after.journal := by
  have hskips := (Reading.eachStart stage holds).read_authenticated t.journal
  cases hexchanged with
  | refused cost code message hcode => exact (eachStart_replied _).mpr heach
  | challenged step =>
      rw [challenge_journal]
      exact (eachStart_replied _).mpr heach
  | rejected authenticator username password r hauthenticator hverdict =>
      exact (eachStart_replied _).mpr ((hskips username password _).mpr heach)
  | accepted authenticator username password hauthenticator hverdict =>
      exact (eachStart_replied _).mpr ((hskips username password _).mpr heach)

/-- What holds wherever a stage began goes on to do so if it holds where that stage begins now. -/
theorem eachStart_runStage {stage other : Stage} {holds : Transaction → List Event → Prop}
    {refusal : Option Refusal} (hrun : t.runStage service other = (after, refusal))
    (hholds : other = stage → holds t.transaction t.journal)
    (heach : EachStart stage holds t.journal) : EachStart stage holds after.journal := by
  by_cases hsame : other = stage
  · subst hsame
    exact eachStart_of_holds heach (hholds rfl) hrun
  · exact (eachStart_of_runStage hsame hrun).mpr heach

theorem eachStart_close {stage : Stage} {holds : Transaction → List Event → Prop}
    (hclose : stage ≠ .close) (heach : EachStart stage holds t.journal) :
    EachStart stage holds (t.close service).journal := by
  cases hrun : t.runStage service .close with
  | mk after refusal =>
      have hafter : EachStart stage holds after.journal :=
        eachStart_runStage hrun (fun h => absurd h.symm hclose) heach
      rw [close_eq service t hrun]
      exact hafter

end EachStart

end Turn
end MailIntake
