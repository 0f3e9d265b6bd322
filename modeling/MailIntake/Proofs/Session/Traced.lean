import MailIntake.Proofs.Message.TraceField
import MailIntake.Proofs.Path.Printing
import MailIntake.Proofs.Session.Script
import MailIntake.Proofs.Session.SentLine
import MailIntake.Proofs.Session.Whereabouts
/-!
Where the texts in a trace field come from.  A greeting name is a word of a line, a recipient is
printed from a path and the names of the client are those that were looked up; none of them has a
line break.  Only a name that a trusted client gives may have one, and then the trace field need not
be one field (`run_traces_client`).
-/
namespace MailIntake

open Text

universe u

/-- A trusted client gave this name. -/
def GivenName {W : Type u} (service : Service W) (name : String) (journal : List Event) : Prop :=
  service.settings.enableXclient = true ∧ ∃ line attributes, .command line ∈ journal ∧
    line.verb? = some .xclient ∧ XClientAttributes.parse line.arguments = .ok attributes ∧
      attributes.helo = some name

/-- No line break is in what a trace field names, but for one in a name that a trusted client
gave. -/
structure Traced {W : Type u} (service : Service W) (traces : Traces) (journal : List Event) :
    Prop where
  plain : traces.Plain
  helo : ∀ name, traces.helo = some name → IsUnbroken name ∨ GivenName service name journal

/-- A change that brings no line break into a trace field. -/
structure Traces.Spares (before after : Traces) : Prop where
  plain : before.Plain → after.Plain
  helo : ∀ name, after.helo = some name → before.helo = some name ∨ IsUnbroken name

def Checker.SparesTraces {W : Type u} (checker : Checker W) : Prop :=
  ∀ tx world, Traces.Spares tx.traces (checker tx world).transaction.traces

/-- A service whose own texts have no line breaks: no checker and no authenticator brings one into
the trace field, and the resolver finds no name with one. -/
structure Service.SparesTraces {W : Type u} (service : Service W) : Prop where
  stages : ∀ stage, ∀ checker ∈ service.pipelines.checkers stage, Checker.SparesTraces checker
  authenticator : ∀ authenticator, service.authenticator = some authenticator →
    ∀ username password, Checker.SparesTraces (authenticator username password)
  names : ∀ ip names, service.resolver.names ip = .found names → ∀ name ∈ names, IsUnbroken name

/-- The transactions that are at hand in a stage: the one that it began with, and what its checkers
make of them. -/
inductive Service.AtHand {W : Type u} (service : Service W) (stage : Stage) (tx : Transaction) :
    Transaction → Prop
  | start : service.AtHand stage tx tx
  | asked {mid : Transaction} (hmid : service.AtHand stage tx mid) {checker : Checker W}
      (hchecker : checker ∈ service.pipelines.checkers stage) (world : W) :
      service.AtHand stage tx (checker mid world).transaction

section Traced

variable {W : Type u} {service : Service W} {traces after : Traces} {journal : List Event}

theorem GivenName.append {name : String} (h : GivenName service name journal)
    (newer : List Event) : GivenName service name (newer ++ journal) := by
  obtain ⟨henabled, line, attributes, hline, hrest⟩ := h
  exact ⟨henabled, line, attributes, List.mem_append_right newer hline, hrest⟩

theorem Traced.append (h : Traced service traces journal) (newer : List Event) :
    Traced service traces (newer ++ journal) where
  plain := h.plain
  helo name hname := (h.helo name hname).imp_right fun hgiven => hgiven.append newer

theorem Traced.spare (h : Traced service traces journal) (hspares : traces.Spares after) :
    Traced service after journal where
  plain := hspares.plain h.plain
  helo name hname := by
    rcases hspares.helo name hname with hsame | hunbroken
    · exact h.helo name hsame
    · exact .inl hunbroken

/-- Other recipients, none of which is printed with a line break. -/
theorem Traced.withRecipients (h : Traced service traces journal) {recipients : List ForwardPath}
    (hrecipients : ∀ recipient ∈ recipients, IsUnbroken recipient.render) :
    Traced service { traces with recipients } journal where
  plain := ⟨h.plain.hostname, h.plain.names, hrecipients⟩
  helo := h.helo

/-- A message is no longer at hand. -/
theorem Traced.resetEnvelope (h : Traced service traces journal) :
    Traced service { traces with recipients := [] } journal :=
  h.withRecipients (List.forall_mem_nil _)

/-- Other names of the client. -/
theorem Traced.withNames (h : Traced service traces journal) {names : List String}
    (hnames : ∀ name ∈ names, IsUnbroken name) : Traced service { traces with names } journal where
  plain := ⟨h.plain.hostname, hnames, h.plain.recipients⟩
  helo := h.helo

/-- Another greeting name, or none. -/
theorem Traced.withHelo (h : Traced service traces journal) {helo : Option String}
    (hhelo : ∀ name, helo = some name → IsUnbroken name ∨ GivenName service name journal) :
    Traced service { traces with helo } journal where
  plain := ⟨h.plain.hostname, h.plain.names, h.plain.recipients⟩
  helo := hhelo

theorem Traced.atHand (hspares : service.SparesTraces) {stage : Stage} {tx shown : Transaction}
    (h : Traced service tx.traces journal) (hshown : service.AtHand stage tx shown) :
    Traced service shown.traces journal := by
  induction hshown with
  | start => exact h
  | asked _ hchecker world ih => exact ih.spare (hspares.stages stage _ hchecker _ world)

theorem Service.SparesTraces.namesOf (hspares : service.SparesTraces) (ip : Address.Ip) :
    ∀ name ∈ Turn.namesOf service ip, IsUnbroken name := by
  rw [Turn.namesOf]
  split
  · exact List.forall_mem_nil _
  · cases hnames : service.resolver.names ip with
    | found names => exact hspares.names ip names hnames
    | failed message => exact List.forall_mem_nil _
    | pending => exact List.forall_mem_nil _

/-- Where nothing that a trace field names is changed and no name that is found has a line break. -/
theorem Service.Keeps.sparesTraces (hkeeps : service.Keeps fun tx _ => tx.traces)
    (hnames : ∀ ip names, service.resolver.names ip = .found names →
      ∀ name ∈ names, IsUnbroken name) : service.SparesTraces := by
  have hspares : ∀ {before after : Traces}, after = before → before.Spares after := by
    rintro before after rfl
    exact ⟨id, fun name hname => .inl hname⟩
  refine ⟨?_, ?_, hnames⟩
  · intro stage checker hchecker tx world
    exact hspares (hkeeps.stages stage checker hchecker tx world)
  · intro authenticator hauthenticator username password tx world
    exact hspares (hkeeps.authenticator authenticator hauthenticator username password tx world)

end Traced

/-- The word behind a verb has no line break, even if it is put together from two words. -/
theorem CommandLine.isUnbroken_argument {text name : String}
    (hname : (parse text).argument? = some name) : IsUnbroken name := by
  have hwords : ∀ word ∈ Ascii.words text, IsUnbroken word := fun word hword =>
    isUnbroken_of_not_blank (isBlank_eq_false_of_mem_words hword)
  rw [argument?, parse, ofWords] at hname
  simp only at hname
  generalize Ascii.words text = words at hwords hname
  match words with
  | [] | [_] => simp [glueValue] at hname
  | [_, key] =>
      cases hname
      exact hwords name (by simp)
  | verb :: key :: value :: rest =>
      have hkey : IsUnbroken key := hwords key (by simp)
      rw [glueValue] at hname
      split at hname
      · cases hname
        exact isUnbroken_append.mpr ⟨hkey, hwords value (by simp)⟩
      · cases hname
        exact hkey

namespace Turn

variable {W : Type u} {service : Service W} {t mid after : Turn W} {refusal : Option Refusal}

/-- No line breaks but those of given names are in what a trace field names now, or named when a
stage began. -/
structure Clean (service : Service W) (t : Turn W) : Prop where
  now : Traced service t.transaction.traces t.journal
  starts : ∀ stage, EachStart stage (fun tx older => Traced service tx.traces older) t.journal

/-- Something that begins no stage is written down. -/
theorem Clean.of (hclean : Clean service t) (newer : List Event)
    (hjournal : after.journal = newer ++ t.journal) (hquiet : ∀ stage tx, .stage stage tx ∉ newer)
    (htraced : Traced service after.transaction.traces t.journal) : Clean service after where
  now := by
    rw [hjournal]
    exact htraced.append newer
  starts stage := by
    rw [hjournal]
    exact (eachStart_append (hquiet stage)).mpr (hclean.starts stage)

/-- Nothing is written down. -/
theorem Clean.unwritten (hclean : Clean service t) (hjournal : after.journal = t.journal)
    (htraced : Traced service after.transaction.traces t.journal) : Clean service after :=
  hclean.of [] hjournal (by simp) htraced

theorem Clean.told (hclean : Clean service t) (code : UInt16) (message : String) :
    Clean service (t.reply code message) := by
  refine hclean.of [.replied ⟨code, message⟩] (reply_journal t code message) (by simp) ?_
  rw [reply_transaction]
  exact hclean.now

theorem Clean.inPhase (hclean : Clean service t) (phase : Phase) :
    Clean service (t.inPhase phase) :=
  ⟨hclean.now, hclean.starts⟩

theorem Clean.countCommand (hclean : Clean service t) : Clean service t.countCommand :=
  ⟨hclean.now, hclean.starts⟩

theorem Clean.concluded (hclean : Clean service t) : Clean service t.conclude :=
  ⟨hclean.now, hclean.starts⟩

/-- A reply with which a command or a message ends. -/
theorem Clean.answered (hclean : Clean service mid) (told : Turn W)
    (hjournal : told.journal = mid.journal)
    (htraced : Traced service told.transaction.traces mid.journal) (code : UInt16)
    (message : String) : Clean service (told.reply code message).conclude := by
  have hsame : Clean service told := hclean.unwritten hjournal htraced
  exact (hsame.told code message).concluded

theorem Clean.runStage (hspares : service.SparesTraces) {stage : Stage}
    (hclean : Clean service t) (hrun : t.runStage service stage = (after, refusal)) :
    Clean service after := by
  have hafter : (t.runStage service stage).1 = after := by rw [hrun]
  have htraced : Traced service after.transaction.traces t.journal := by
    rw [← hafter]
    refine check_induction stage _
      (motive := fun after => Traced service after.transaction.traces t.journal) ?_ 0 hclean.now
    intro checker hchecker place before hbefore
    exact hbefore.spare (hspares.stages stage checker hchecker before.transaction before.world)
  obtain ⟨checks, -, hjournal⟩ := journal_of_runStage hrun
  refine ⟨?_, fun other => eachStart_runStage hrun (fun _ => hclean.now) (hclean.starts other)⟩
  rw [hjournal, List.append_cons]
  exact htraced.append _

theorem Clean.close (hspares : service.SparesTraces) (hclean : Clean service t) :
    Clean service (t.close service) := by
  cases hrun : t.runStage service .close with
  | mk after refusal =>
      have hafter := hclean.runStage hspares hrun
      rw [close_eq service t hrun]
      exact ⟨hafter.now, hafter.starts⟩

theorem Clean.exchanged (hspares : service.SparesTraces) (hclean : Clean service t)
    (hexchanged : Exchanged service t after) : Clean service after := by
  have hasked : ∀ {authenticator : Authenticator W} (username password : String),
      service.authenticator = some authenticator →
        Clean service (t.questioned authenticator username password) := by
    intro authenticator username password hauthenticator
    have hverdict := hspares.authenticator authenticator hauthenticator username password
      t.transaction t.world
    exact hclean.of [_] rfl (by simp) (hclean.now.spare hverdict)
  cases hexchanged with
  | refused cost code message hcode => exact hclean.answered (t.penalize cost) rfl hclean.now _ _
  | challenged step =>
      refine hclean.of [_] (challenge_journal t step) (by simp) ?_
      rw [challenge_transaction]
      exact hclean.now
  | rejected authenticator username password r hauthenticator hverdict =>
      have hjudged := hasked username password hauthenticator
      exact hjudged.answered ((t.questioned authenticator username password).penalize _) rfl
        hjudged.now _ _
  | accepted authenticator username password hauthenticator hverdict =>
      have hjudged := hasked username password hauthenticator
      exact hjudged.answered ((t.questioned authenticator username password).signIn _ _) rfl
        hjudged.now _ _

/-- A client is where a proxy or a trusted client says, and has the names that are looked up. -/
theorem traced_relocate (hspares : service.SparesTraces)
    (h : Traced service t.transaction.traces t.journal) (address : Address.Endpoint) :
    Traced service (t.relocate service address).transaction.traces t.journal :=
  h.withNames (hspares.namesOf address.ip)

theorem traced_moveTo (hspares : service.SparesTraces)
    (h : Traced service t.transaction.traces t.journal) (attributes : XClientAttributes) :
    Traced service (t.moveTo service attributes).transaction.traces t.journal := by
  rw [Turn.moveTo]
  split
  · exact traced_relocate hspares h _
  · exact h

/-- A recipient that was read has no line break, so one more does no harm. -/
theorem traced_welcome (h : Traced service mid.transaction.traces mid.journal) {text : String}
    {recipient : ForwardPath} (hparse : ForwardPath.parse? text = some recipient) :
    Traced service ((if mid.transaction.envelope.recipients.isEmpty then
      mid.reward Karma.commandExecuted else mid).addRecipient recipient).transaction.traces
        mid.journal := by
  have hjoined : Traced service { mid.transaction.traces with
      recipients := mid.transaction.traces.recipients ++ [recipient] } mid.journal := by
    refine h.withRecipients fun other hother => ?_
    rcases List.mem_append.mp hother with hold | hnew
    · exact h.plain.recipients other hold
    · rw [List.mem_singleton.mp hnew]
      exact isUnbroken_of_isPlain (ForwardPath.render_isPlain hparse)
  split
  · exact hjoined
  · exact hjoined

/-- With every command that is written down. -/
theorem Clean.handled {line : CommandLine} (hspares : service.SparesTraces)
    (hclean : Clean service t) (hnoted : .command line ∈ t.journal)
    (hword : ∀ name, line.argument? = some name → IsUnbroken name)
    (hhandled : Handled service line t after) : Clean service after := by
  have hgreeted : ∀ {protocol : Protocol} {name : String}, line.argument? = some name →
      Clean service (t.introduce protocol name) := by
    intro protocol name hname
    refine hclean.unwritten rfl (hclean.now.withHelo ?_)
    rintro other hother
    cases hother
    exact .inl (hword name hname)
  have hproposed : ∀ {sender : ReversePath}, Clean service (t.setSender (some sender)) :=
    fun {sender} => hclean.unwritten rfl hclean.now
  cases hhandled with
  | refused cost code message hcode hverb =>
      exact hclean.answered (t.penalize cost) rfl hclean.now _ _
  | idle hverb => exact hclean.answered t rfl hclean.now _ _
  | reset hverb => exact hclean.answered t.resetEnvelope rfl hclean.now.resetEnvelope _ _
  | greeted protocol name mid hverb hname hrun =>
      have hmid := (hgreeted hname).runStage hspares hrun
      exact hmid.answered (mid.resetEnvelope.reward _) rfl hmid.now.resetEnvelope _ _
  | greetingRefused protocol name mid r hverb hname hrun =>
      have hmid := (hgreeted hname).runStage hspares hrun
      refine hmid.answered (mid.restoreGreeting t.transaction.peer) rfl (hmid.now.withHelo ?_) _ _
      -- The name of an earlier greeting is back, which may have been given by a trusted client.
      obtain ⟨newer, hnewer, -⟩ := newer_of_runStage hrun
      rw [hnewer]
      exact (hclean.now.append newer).helo
  | senderAccepted path sender mid hverb hobstacle hpath hparse hrun =>
      have hmid := hproposed.runStage hspares hrun
      exact hmid.answered (mid.reward _) rfl hmid.now _ _
  | senderRefused path sender mid r hverb hobstacle hpath hparse hrun =>
      have hmid := hproposed.runStage hspares hrun
      exact hmid.answered (mid.setSender none) rfl hmid.now _ _
  | recipientAccepted path recipient mid hverb hsender hroom hpath hparse hrun =>
      have hmid := hclean.runStage hspares hrun
      exact hmid.answered _ (journal_welcome recipient mid) (traced_welcome hmid.now hparse) _ _
  | recipientRefused path recipient mid r hverb hsender hpath hparse hrun =>
      have hmid := hclean.runStage hspares hrun
      exact hmid.answered (mid.penalize _) rfl hmid.now _ _
  | bodyAwaited hverb hsender hrecipients => exact (hclean.told _ _).inPhase _
  | quit message hverb => exact (hclean.told 221 message).countCommand.close hspares
  | handshakeAwaited hverb hplain hoffers => exact (hclean.told _ _).inPhase _
  | auth _ hverb hobstacle hexchanged => exact hclean.exchanged hspares hexchanged
  | proxied header hverb henabled hfirst hparse =>
      exact hclean.answered (t.relocate service header.source) rfl
        (traced_relocate hspares hclean.now _) _ _
  | xclient attributes hverb henabled hparse =>
      have hmoved := traced_moveTo hspares hclean.now attributes
      refine hclean.answered ((t.moveTo service attributes).mapPeer (withAttributes attributes))
        (moveTo_journal service attributes t) (hmoved.withHelo ?_) _ _
      intro name hname
      have hor := Option.orElse_eq_or.symm.trans hname
      rcases Option.or_eq_some_iff.mp hor with hgiven | ⟨-, hkept⟩
      · exact .inr ⟨henabled, line, attributes, hnoted, hverb, hparse, hgiven⟩
      · exact hmoved.helo name hkept

theorem Clean.begun (hspares : service.SparesTraces) (hclean : Clean service t)
    (hbegun : Begun service t after) : Clean service after := by
  have hlooked : Clean service (t.lookUpNames service) :=
    hclean.unwritten rfl (hclean.now.withNames (hspares.namesOf _))
  cases hbegun with
  | refused mid r hrun => exact ((hlooked.runStage hspares hrun).told _ _).close hspares
  | greeted mid hrun => exact ((hlooked.runStage hspares hrun).told _ _).inPhase _

theorem Clean.ended {outcome : BodyOutcome} (hspares : service.SparesTraces)
    (hclean : Clean service t) (hended : Ended service t outcome after) : Clean service after := by
  have hdropped : ∀ {mid : Turn W} (told : Turn W) (code : UInt16) (message : String),
      Clean service mid → told.journal = mid.journal →
      told.transaction.traces = mid.transaction.traces →
        Clean service (told.resetEnvelope.reply code message).conclude := by
    intro mid told code message hmid hjournal htraces
    have htold : Traced service told.transaction.traces mid.journal := htraces ▸ hmid.now
    exact hmid.answered told.resetEnvelope hjournal htold.resetEnvelope code message
  have hheld : ∀ body, Clean service (t.hold body) := fun body =>
    hclean.unwritten rfl hclean.now
  cases hended with
  | tooBig => exact hdropped (t.penalize _) _ _ hclean rfl rfl
  | bodyRefused body mid r hdata =>
      exact hdropped mid _ _ ((hheld body).runStage hspares hdata) rfl rfl
  | messageRefused body judged mid r hdata hhandler =>
      have hjudged := (hheld body).runStage hspares hdata
      exact hdropped mid _ _ (hjudged.runStage hspares hhandler) rfl rfl
  | messageAccepted body judged mid hdata hhandler =>
      have hjudged := (hheld body).runStage hspares hdata
      exact hdropped (mid.countMessage.reward _) _ _ (hjudged.runStage hspares hhandler) rfl rfl

theorem Clean.move {signal : Signal} (hspares : service.SparesTraces) (hclean : Clean service t)
    (hmove : Move service t signal after) : Clean service after := by
  have hpenalized : ∀ cost, Clean service (t.penalize cost) := fun cost =>
    hclean.unwritten rfl hclean.now
  cases hmove with
  | unheard | unasked | finished => exact hclean
  | passed b phase hpasses => exact ⟨hclean.now, hclean.starts⟩
  | overlong reader hphase hline =>
      have hnoted : Clean service (((t.countRead 1).note .overlong).penalize Karma.badParameter) :=
        hclean.of [.overlong] rfl (by simp) hclean.now
      exact (hnoted.told 500 "5.5.2 Line too long").inPhase _
  | handled reader text _ hphase hline hhandled =>
      have hnoted : Clean service ((t.countRead 1).note (.command (CommandLine.parse text))) :=
        hclean.of [.command (CommandLine.parse text)] rfl (by simp) hclean.now
      exact hnoted.handled hspares List.mem_cons_self
        (fun name hname => CommandLine.isUnbroken_argument hname) hhandled
  | exchanged step reader _ hphase hexchanged =>
      have hread : Clean service (t.countRead 1) := ⟨hclean.now, hclean.starts⟩
      exact hread.exchanged hspares hexchanged
  | bodyEnded b outcome _ hread hended =>
      have hread : Clean service (t.countRead 1) := ⟨hclean.now, hclean.starts⟩
      exact hread.ended hspares hended
  | opened h _ hphase hbegun =>
      have hencrypted : Clean service (t.encrypt h) :=
        hclean.unwritten rfl hclean.now
      exact hencrypted.begun hspares hbegun
  | upgraded h hphase =>
      exact hclean.unwritten rfl (hclean.now.resetEnvelope.withHelo nofun)
  | openingFailed signal hphase hsignal => exact (hpenalized _).close hspares
  | upgradeFailed signal hphase hsignal =>
      have htold := (hpenalized Karma.handshakeFailed).told 550 "Handshake error"
      have hcounted : Clean service
          (t.refuse Karma.handshakeFailed 550 "Handshake error").countCommand := htold.countCommand
      exact hcounted.close hspares
  | ended | expired => exact hclean.close hspares
  | timedOut hphase => exact (hclean.told 421 "Connection timed out.").close hspares

section Runs

variable (service : Service W) (id : TransactionId) (serverHostname : String)
  (localAddr remoteAddr : Address.Endpoint) (world : W)

theorem start_clean (hspares : service.SparesTraces) (hhostname : IsUnbroken serverHostname) :
    Clean service (start service (.start id serverHostname localAddr remoteAddr) world) := by
  have hfresh : Clean service ({ transaction := .start id serverHostname localAddr remoteAddr
                                 phase := .opening
                                 world } : Turn W) :=
    ⟨⟨⟨hhostname, List.forall_mem_nil _, List.forall_mem_nil _⟩, nofun⟩, fun stage => trivial⟩
  rw [start]
  split
  · exact hfresh
  · exact hfresh.begun hspares (begin_begun service _)

/-- Along a run no line breaks but those of given names come into a trace field. -/
theorem run_clean (hspares : service.SparesTraces) (hhostname : IsUnbroken serverHostname)
    (inputs : List Input) :
    Clean service
      ((start service (.start id serverHostname localAddr remoteAddr) world).run service inputs) :=
  run_induction (fun _ _ _ hmove hclean => Clean.move hspares hclean hmove) inputs
    (start_clean service id serverHostname localAddr remoteAddr world hspares hhostname)

end Runs

end Turn

/-- When the trace field of a transaction is one header field, and who gave the greeting name if it
is not. -/
structure Transaction.TracesClient {W : Type u} (service : Service W) (tx : Transaction)
    (journal : List Event) : Prop where
  one_iff : ∀ now, tx.AddsOneField now ↔
    ∀ name, tx.peer.helo = some name → IsFolded (Utf8.encode name)
  given : ∀ name, tx.peer.helo = some name →
    IsUnbroken name ∨ GivenName service name journal
  untrusting : service.settings.enableXclient = false → ∀ now, tx.AddsOneField now

theorem Traced.tracesClient {W : Type u} {service : Service W} {tx : Transaction}
    {journal : List Event} (h : Traced service tx.traces journal) :
    tx.TracesClient service journal where
  one_iff := h.plain.addsOneField_iff
  given := h.helo
  untrusting hdisabled now := by
    rw [h.plain.addsOneField_iff]
    intro name hname
    rcases h.helo name hname with hunbroken | ⟨henabled, -⟩
    · exact hunbroken.isFolded
    · cases hdisabled.symm.trans henabled

namespace Turn

/-- Wherever a checker has a transaction at hand, and behind every run, the trace field is one
header field exactly if the line breaks in the name that the client greets with are folds.  A name
with line breaks is one that a trusted client gave, so without trusted clients the trace field is
always one header field. -/
theorem run_traces_client {W : Type u} (service : Service W) (id : TransactionId)
    (serverHostname : String) (localAddr remoteAddr : Address.Endpoint) (world : W)
    (hspares : service.SparesTraces) (hhostname : IsUnbroken serverHostname)
    (inputs : List Input) :
    let t0 := start service (.start id serverHostname localAddr remoteAddr) world
    let t := t0.run service inputs
    (∀ newer stage tx older, t.journal = newer ++ .stage stage tx :: older →
      ∀ shown, service.AtHand stage tx shown → shown.TracesClient service older) ∧
    t.transaction.TracesClient service t.journal := by
  intro t0 t
  have hclean : Clean service t :=
    run_clean service id serverHostname localAddr remoteAddr world hspares hhostname inputs
  constructor
  · intro newer stage tx older hjournal shown hshown
    have heach := hclean.starts stage
    rw [hjournal] at heach
    exact (heach.at_start.atHand hspares hshown).tracesClient
  · exact hclean.now.tracesClient

end Turn

namespace Sample

/-- A service that puts the trace field on messages and in which trusted clients speak for
others. -/
def stamping : Service Office :=
  { trusting with pipelines := { data := [Office.stampReceived], handlers := [Office.deliver] } }

theorem stamping_sparesTraces : stamping.SparesTraces := by
  refine Service.Keeps.sparesTraces ⟨?_, nofun⟩ ?_
  · intro stage checker hchecker tx office
    cases stage with
    | data =>
        rw [List.mem_singleton.mp hchecker]
        exact Transaction.traces_addReceivedLine tx office.now
    | handler =>
        rw [List.mem_singleton.mp hchecker]
        exact congrArg Transaction.traces (Office.deliver_transaction tx office)
    | connection | helo | sender | recipient candidate | close => cases hchecker
  · intro ip names hfound
    have hknown : ∀ row ∈ [(address 1, some ["one.test"]), (address 2, some ["two.test"])],
        ∀ names ∈ row.2, ∀ name ∈ names, IsUnbroken name := by decide
    simp only [stamping, trusting, Resolver.ofTable] at hfound
    split at hfound
    · next row names' hrow =>
        cases hfound
        exact hknown _ (List.mem_of_find?_eq_some hrow) _ rfl
    · cases hfound
    · cases hfound

/-- A message from a client for whom a trusted one gives this name, in xtext. -/
def relayedAs (name : String) : List UInt8 :=
  lineBytes ("XCLIENT HELO=" ++ name) ++ lineBytes "MAIL FROM:<>" ++ lineBytes "RCPT TO:<b@c>" ++
    lineBytes "DATA" ++ lineBytes "Subject: s" ++ lineBytes "."

end Sample

namespace Turn

/-- A name without line breaks that a trusted client gives. -/
theorem run_traces_client_plain :
    let start := Turn.start Sample.stamping (.start ⟨1⟩ "mx" Sample.place Sample.place)
      Sample.office
    let t := start.run Sample.stamping [.bytes (Sample.relayedAs "c.example")]
    Sample.stamping.SparesTraces ∧ IsUnbroken "mx" ∧
      t.transaction.peer.helo = some "c.example" ∧ ∀ now, t.transaction.AddsOneField now := by
  intro start t
  have hhostname : IsUnbroken "mx" := by decide
  obtain ⟨-, htraces⟩ := run_traces_client Sample.stamping ⟨1⟩ "mx" Sample.place Sample.place
    Sample.office Sample.stamping_sparesTraces hhostname [.bytes (Sample.relayedAs "c.example")]
  have hhelo : t.transaction.peer.helo = some "c.example" := by decide +kernel
  refine ⟨Sample.stamping_sparesTraces, hhostname, hhelo, fun now => ?_⟩
  refine (htraces.one_iff now).mpr fun name hname => ?_
  cases hhelo.symm.trans hname
  decide

/-- A name with a line break that a trusted client gives: the trace field is more than one field,
and the message that is delivered has one that the client wrote. -/
theorem given_name_breaks_field :
    let start := Turn.start Sample.stamping (.start ⟨1⟩ "mx" Sample.place Sample.place)
      Sample.office
    let t := start.run Sample.stamping
      [.bytes (Sample.relayedAs "evil+0D+0AX-Injected:+20yes")]
    Sample.stamping.SparesTraces ∧ IsUnbroken "mx" ∧
      t.transaction.peer.helo = some "evil\r\nX-Injected: yes" ∧
      (∀ now, ¬ t.transaction.AddsOneField now) ∧
      t.world.spool.map (fun spool => spool.files.map fun file =>
        (Header.ofMessage file.2).map (·.key)) =
          some [["Received", "X-Injected", "Subject"]] := by
  intro start t
  have hhostname : IsUnbroken "mx" := by decide
  have hclean : Clean Sample.stamping t :=
    run_clean Sample.stamping ⟨1⟩ "mx" Sample.place Sample.place Sample.office
      Sample.stamping_sparesTraces hhostname _
  have hhelo : t.transaction.peer.helo = some "evil\r\nX-Injected: yes" := by decide +kernel
  refine ⟨Sample.stamping_sparesTraces, hhostname, hhelo, fun now hone => ?_, by decide +kernel⟩
  have hfolded := (hclean.now.plain.addsOneField_iff now).mp hone _ hhelo
  exact absurd hfolded (by decide)

end Turn
end MailIntake
