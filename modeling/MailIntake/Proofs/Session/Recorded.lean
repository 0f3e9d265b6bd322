import MailIntake.Proofs.Path.Spelling
import MailIntake.Proofs.Session.Lines
/-!
Whose words a recorded path is.  Every path that the checkers of a sender or a recipient are asked
about was read from the line at hand, and its texts are spelled there; every path in the envelope is
one that checkers were asked about (`run_paths_from_lines`).
-/
namespace MailIntake

open Text

universe u

variable {W : Type u}

/-- The command with which a stage is asked about a path, and the path. -/
def Stage.path? (stage : Stage) (tx : Transaction) : Option (CommandLine.Verb × MailPath) :=
  match stage, tx.envelope.sender with
  | .sender, some (.path path) => some (.mail, path)
  | .recipient (.path path), _ => some (.rcpt, path)
  | _, _ => none

/-- A path that is part of an envelope, and the command that put it there. -/
inductive Envelope.Records (e : Envelope) : CommandLine.Verb → MailPath → Prop
  | sender {path : MailPath} (hsender : e.sender = some (.path path)) : e.Records .mail path
  | recipient {path : MailPath} (hrecipient : .path path ∈ e.recipients) : e.Records .rcpt path

/-- A stage was asked about a path. -/
def Names (journal : List Event) (verb : CommandLine.Verb) (path : MailPath) : Prop :=
  ∃ newer stage tx older, journal = newer ++ .stage stage tx :: older ∧
    stage.path? tx = some (verb, path)

theorem Names.append {journal : List Event} {verb : CommandLine.Verb} {path : MailPath}
    (hnames : Names journal verb path) (newer : List Event) :
    Names (newer ++ journal) verb path := by
  obtain ⟨later, stage, tx, older, rfl, hpath⟩ := hnames
  exact ⟨newer ++ later, stage, tx, older, (List.append_assoc _ _ _).symm, hpath⟩

/-- Whether something holds of every path that a stage was asked about, and of what had been written
down before. -/
def EachPath (holds : CommandLine.Verb → MailPath → List Event → Prop) (journal : List Event) :
    Prop :=
  ∀ stage, EachStart stage
    (fun tx older => ∀ verb path, stage.path? tx = some (verb, path) → holds verb path older)
    journal

section EachPath

variable {holds wider : CommandLine.Verb → MailPath → List Event → Prop} {journal : List Event}

theorem eachPath_cons {e : Event} (he : ∀ stage tx, e ≠ .stage stage tx) :
    EachPath holds (e :: journal) ↔ EachPath holds journal := by
  refine forall_congr' fun stage => ?_
  have hskipped : ∀ tx, .stage stage tx ∉ [e] := fun tx hmem =>
    he stage tx (List.mem_singleton.mp hmem).symm
  exact eachStart_append hskipped

@[simp]
theorem eachPath_replied (reply : Reply) :
    EachPath holds (.replied reply :: journal) ↔ EachPath holds journal :=
  eachPath_cons (by simp)

@[simp]
theorem eachPath_command (line : CommandLine) :
    EachPath holds (.command line :: journal) ↔ EachPath holds journal :=
  eachPath_cons (by simp)

@[simp]
theorem eachPath_overlong : EachPath holds (.overlong :: journal) ↔ EachPath holds journal :=
  eachPath_cons (by simp)

@[simp]
theorem eachPath_authenticated (username password : String) (refusal : Option Refusal) :
    EachPath holds (.authenticated username password refusal :: journal) ↔
      EachPath holds journal :=
  eachPath_cons (by simp)

theorem EachStart.mono {stage : Stage} {holds wider : Transaction → List Event → Prop}
    (hwider : ∀ tx older, holds tx older → wider tx older)
    (heach : EachStart stage holds journal) : EachStart stage wider journal := by
  induction journal with
  | nil => trivial
  | cons e older ih => exact ⟨fun tx htx => hwider tx older (heach.1 tx htx), ih heach.2⟩

theorem EachPath.mono (hwider : ∀ verb path older, holds verb path older → wider verb path older)
    (heach : EachPath holds journal) : EachPath wider journal := fun stage =>
  (heach stage).mono fun _ older hold verb path hpath =>
    hwider verb path older (hold verb path hpath)

theorem EachPath.at_start {newer older : List Event} {stage : Stage} {tx : Transaction}
    {verb : CommandLine.Verb} {path : MailPath}
    (heach : EachPath holds (newer ++ .stage stage tx :: older))
    (hpath : stage.path? tx = some (verb, path)) : holds verb path older :=
  (heach stage).at_start verb path hpath

end EachPath

namespace Sample

def greeting : List UInt8 :=
  Utf8.encode "HELO c\r\n"

def namedSender : List UInt8 :=
  greeting ++ Utf8.encode "MAIL FROM:<a@b.c>\r\n"

/-- A sender with a byte that is not UTF-8. -/
def brokenSender : List UInt8 :=
  Utf8.encode "MAIL FROM:<" ++ 0xFF :: Utf8.encode "@d>\r\n"

end Sample

namespace Turn

section Paths

variable {service : Service W} {t after : Turn W} {refusal : Option Refusal} {stage : Stage}
  {holds : CommandLine.Verb → MailPath → List Event → Prop}

/-- What is to hold of a path that a stage is asked about holds in the journal behind it. -/
theorem eachPath_of_runStage (heach : EachPath holds t.journal)
    (hasked : ∀ verb path, stage.path? t.transaction = some (verb, path) →
      holds verb path t.journal)
    (hrun : t.runStage service stage = (after, refusal)) : EachPath holds after.journal := by
  intro other
  by_cases hsame : stage = other
  · subst hsame
    exact eachStart_of_holds (heach stage) hasked hrun
  · exact (eachStart_of_runStage hsame hrun).mpr (heach other)

/-- A stage that is asked about no path. -/
theorem eachPath_of_pathless (heach : EachPath holds t.journal)
    (hnone : ∀ tx, stage.path? tx = none)
    (hrun : t.runStage service stage = (after, refusal)) : EachPath holds after.journal := by
  refine eachPath_of_runStage heach (fun verb path hpath => ?_) hrun
  rw [hnone] at hpath
  cases hpath

theorem eachPath_close (heach : EachPath holds t.journal) :
    EachPath holds (t.close service).journal := by
  cases hrun : t.runStage service .close with
  | mk closed refusal =>
      have hclosed := eachPath_of_pathless heach (fun tx => rfl) hrun
      rw [close_eq service t hrun]
      exact hclosed

theorem Exchanged.eachPath (heach : EachPath holds t.journal)
    (hexchanged : Exchanged service t after) : EachPath holds after.journal := by
  cases hexchanged with
  | refused | challenged | rejected | accepted => simpa [signIn] using heach

/-- A command names no path but the one behind its keyword. -/
theorem Handled.eachPath {line : CommandLine} (heach : EachPath holds t.journal)
    (hmail : ∀ argument path, line.verb? = some .mail → pathBehind "FROM" line = some argument →
      ReversePath.parse? argument = some (.path path) → holds .mail path t.journal)
    (hrcpt : ∀ argument path, line.verb? = some .rcpt → pathBehind "TO" line = some argument →
      ForwardPath.parse? argument = some (.path path) → holds .rcpt path t.journal)
    (hhandled : Handled service line t after) : EachPath holds after.journal := by
  have hsender : ∀ {argument : String} {sender : ReversePath} {mid : Turn W}
      {refusal : Option Refusal}, line.verb? = some .mail →
      pathBehind "FROM" line = some argument → ReversePath.parse? argument = some sender →
      (t.setSender (some sender)).runStage service .sender = (mid, refusal) →
        EachPath holds mid.journal := by
    intro argument sender mid refusal hverb hpath hparse hrun
    refine eachPath_of_runStage (t := t.setSender (some sender)) heach ?_ hrun
    intro verb path hasked
    cases sender with
    | null => cases hasked
    | path =>
        cases hasked
        exact hmail argument path hverb hpath hparse
  have hrecipient : ∀ {argument : String} {recipient : ForwardPath} {mid : Turn W}
      {refusal : Option Refusal}, line.verb? = some .rcpt →
      pathBehind "TO" line = some argument → ForwardPath.parse? argument = some recipient →
      t.runStage service (.recipient recipient) = (mid, refusal) →
        EachPath holds mid.journal := by
    intro argument recipient mid refusal hverb hpath hparse hrun
    refine eachPath_of_runStage heach ?_ hrun
    intro verb path hasked
    cases recipient with
    | postmaster => cases hasked
    | path =>
        cases hasked
        exact hrcpt argument path hverb hpath hparse
  cases hhandled with
  | refused | idle | reset | bodyAwaited | handshakeAwaited => simpa using heach
  | greeted protocol name mid hverb hname hrun =>
      have hmid := eachPath_of_pathless (t := t.introduce protocol name) heach (fun tx => rfl) hrun
      simpa using hmid
  | greetingRefused protocol name mid r hverb hname hrun =>
      have hmid := eachPath_of_pathless (t := t.introduce protocol name) heach (fun tx => rfl) hrun
      simpa [restoreGreeting] using hmid
  | senderAccepted path sender mid hverb hobstacle hpath hparse hrun =>
      simpa using hsender hverb hpath hparse hrun
  | senderRefused path sender mid r hverb hobstacle hpath hparse hrun =>
      simpa [setSender] using hsender hverb hpath hparse hrun
  | recipientAccepted path recipient mid hverb hsome hroom hpath hparse hrun =>
      rw [conclude_journal, reply_journal, journal_welcome, eachPath_replied]
      exact hrecipient hverb hpath hparse hrun
  | recipientRefused path recipient mid r hverb hsome hpath hparse hrun =>
      simpa using hrecipient hverb hpath hparse hrun
  | quit message hverb => exact eachPath_close (by simpa using heach)
  | auth _ hverb hobstacle hexchanged => exact hexchanged.eachPath heach
  | proxied => simpa [greet, relocate, lookUpNames] using heach
  | xclient => simpa [greet] using heach

theorem Begun.eachPath (heach : EachPath holds t.journal) (hbegun : Begun service t after) :
    EachPath holds after.journal := by
  cases hbegun with
  | refused mid r hrun =>
      have hmid := eachPath_of_pathless (t := t.lookUpNames service) heach (fun tx => rfl) hrun
      exact eachPath_close (by simpa using hmid)
  | greeted mid hrun =>
      have hmid := eachPath_of_pathless (t := t.lookUpNames service) heach (fun tx => rfl) hrun
      simpa [greet] using hmid

theorem Ended.eachPath {outcome : BodyOutcome} (heach : EachPath holds t.journal)
    (hended : Ended service t outcome after) : EachPath holds after.journal := by
  have hlooked : ∀ {body : List UInt8} {judged : Turn W} {refusal : Option Refusal},
      (t.hold body).runStage service .data = (judged, refusal) →
        EachPath holds judged.journal := fun {body _ _} hdata =>
    eachPath_of_pathless (t := t.hold body) heach (fun tx => rfl) hdata
  cases hended with
  | tooBig => simpa using heach
  | bodyRefused body mid r hdata => simpa using hlooked hdata
  | messageRefused body judged mid r hdata hhandler =>
      simpa using eachPath_of_pathless (hlooked hdata) (fun tx => rfl) hhandler
  | messageAccepted body judged mid hdata hhandler =>
      simpa using eachPath_of_pathless (hlooked hdata) (fun tx => rfl) hhandler

end Paths

section Lines

variable {service : Service W} {start t after : Turn W} {signals : List Signal}

/-- Where a signal leads to a command line that has arrived in part: it is a new line, or nothing
has arrived, or one more byte has. -/
inductive Lines (t : Turn W) : Signal → Turn W → LineReader → Prop
  | first (signal : Signal) (after : Turn W) : Lines t signal after {}
  | still (result : Option Handshake) (reader : LineReader) (hphase : t.phase = .command reader) :
      Lines t (.handshake result) t reader
  | more (b : UInt8) (reader : LineReader) (hphase : t.phase = .command reader)
      (hb : b ≠ LineReader.byteFeed) :
      Lines t (.byte b) (t.passByte (.command (reader.add [b]))) (reader.add [b])

theorem Exchanged.reader_eq {reader : LineReader} (hexchanged : Exchanged service t after)
    (hphase : after.phase = .command reader) : reader = {} := by
  cases hexchanged with
  | challenged step => simp at hphase
  | refused | rejected | accepted =>
      rw [conclude_phase] at hphase
      cases hphase
      rfl

theorem Handled.reader_eq {line : CommandLine} {reader : LineReader}
    (hhandled : Handled service line t after) (hphase : after.phase = .command reader) :
    reader = {} := by
  cases hhandled with
  | bodyAwaited | handshakeAwaited => simp at hphase
  | quit message hverb => cases close_phase.symm.trans hphase
  | auth _ hverb hobstacle hexchanged => exact hexchanged.reader_eq hphase
  | refused | idle | reset | greeted | greetingRefused | senderAccepted | senderRefused
  | recipientAccepted | recipientRefused | proxied | xclient =>
      rw [conclude_phase] at hphase
      cases hphase
      rfl

theorem Move.lines {signal : Signal} {reader : LineReader} (hmove : Move service t signal after)
    (hphase : after.phase = .command reader) : Lines t signal after reader := by
  have hfirst : reader = {} → Lines t signal after reader := by
    rintro rfl
    exact .first signal after
  cases hmove with
  | unheard b hbefore => simp [hphase] at hbefore
  | unasked result hbefore => exact .still result reader hphase
  | finished signal hbefore => simp [hphase] at hbefore
  | passed b next hpasses =>
      have hnext : next = .command reader := hphase
      subst hnext
      generalize hbefore : t.phase = before at hpasses
      cases hpasses with
      | command earlier hb => exact .more b earlier hbefore hb
  | handled earlier text _ hbefore hline hhandled => exact hfirst (hhandled.reader_eq hphase)
  | exchanged step earlier _ hbefore hexchanged => exact hfirst (hexchanged.reader_eq hphase)
  | opened h _ hbefore hbegun =>
      cases hbegun with
      | refused => cases close_phase.symm.trans hphase
      | greeted mid hrun =>
          cases hphase
          exact hfirst rfl
  | upgraded h hbefore =>
      cases hphase
      exact hfirst rfl
  | overlong =>
      cases hphase
      exact hfirst rfl
  | bodyEnded b outcome _ hread hended =>
      obtain ⟨-, -, hnext, -⟩ := hended.writes
      rw [hnext] at hphase
      cases hphase
      exact hfirst rfl
  | openingFailed | upgradeFailed | ended | timedOut | expired =>
      cases close_phase.symm.trans hphase

/-- A command line that has arrived in part is what arrived since it began. -/
def Collects (service : Service W) (start : Turn W) (signals : List Signal) (t : Turn W) : Prop :=
  ∀ reader, t.phase = .command reader → ∃ bytes,
    Arrived service start signals (.command {}) t.journal bytes ∧
      LineReader.byteFeed ∉ bytes ∧ reader = ({} : LineReader).add bytes

theorem Collects.heed
    (hcollects : Collects service start signals (start.heedAll service signals))
    (signal : Signal) :
    Collects service start (signals ++ [signal])
      (start.heedAll service (signals ++ [signal])) := by
  intro reader hphase
  have hmove := heed_move service (start.heedAll service signals) signal
  rw [← heedAll_concat] at hmove
  have hlines := hmove.lines hphase
  generalize hafter : start.heedAll service (signals ++ [signal]) = after at hphase hlines
  cases hlines with
  | first =>
      refine ⟨[], ?_, List.not_mem_nil, rfl⟩
      rw [← hafter] at hphase ⊢
      exact .nil hphase
  | still result _ hbefore =>
      obtain ⟨bytes, harrived, hbytes, hreader⟩ := hcollects reader hbefore
      refine ⟨bytes, ?_, hbytes, hreader⟩
      have hmore := harrived.concat (.handshake result)
      rwa [Signal.byte?, Option.toList_none, List.append_nil] at hmore
  | more b earlier hbefore hb =>
      obtain ⟨bytes, harrived, hbytes, rfl⟩ := hcollects earlier hbefore
      refine ⟨bytes ++ [b], harrived.concat (.byte b), ?_, LineReader.add_add _ _ _⟩
      rw [List.mem_append, List.mem_singleton]
      rintro (hmem | rfl)
      · exact hbytes hmem
      · exact hb rfl

/-- What is read of a line that is not too long. -/
theorem finish_eq_text {bytes : List UInt8} {text : String}
    (hline : (({} : LineReader).add (bytes ++ [LineReader.byteFeed])).finish = .text text) :
    text = lineText bytes := by
  rw [LineReader.add] at hline
  split at hline
  · next hdiscarding => cases hdiscarding
  · split at hline
    · simp [LineReader.finish] at hline
    · simp only [LineReader.finish, List.nil_append, Bool.false_eq_true, if_false] at hline
      cases hline
      rw [lineText, lineBody, dropTailWhile_concat bytes (by decide)]

/-- The client sent a line, with a journal before it. -/
def Sent (service : Service W) (start : Turn W) (signals : List Signal) (journal : List Event)
    (bytes : List UInt8) : Prop :=
  ∃ front, front <+: signals ∧
    Arrived service start front (.command {}) journal (bytes ++ [LineReader.byteFeed]) ∧
      LineReader.byteFeed ∉ bytes

/-- A path was read from the line of its command, which is the last thing in the journal, and its
texts are spelled there. -/
structure ReadFrom (service : Service W) (start : Turn W) (signals : List Signal)
    (verb : CommandLine.Verb) (path : MailPath) (journal : List Event) (bytes : List UInt8) :
    Prop where
  taken : ∃ settled, journal = .command (CommandLine.parse (lineText bytes)) :: settled ∧
    Sent service start signals settled bytes
  verb_eq : (CommandLine.parse (lineText bytes)).verb? = some verb
  spelled : ∀ text ∈ path.texts, Spelled bytes text

/-- A path was read from a line that the client sent. -/
def Named (service : Service W) (start : Turn W) (signals : List Signal)
    (verb : CommandLine.Verb) (path : MailPath) (journal : List Event) : Prop :=
  ∃ bytes, ReadFrom service start signals verb path journal bytes

theorem Named.concat {verb : CommandLine.Verb} {path : MailPath} {journal : List Event}
    (hnamed : Named service start signals verb path journal) (signal : Signal) :
    Named service start (signals ++ [signal]) verb path journal := by
  obtain ⟨bytes, ⟨settled, hjournal, front, hfront, harrived⟩, hverb, hspelled⟩ := hnamed
  exact ⟨bytes, ⟨settled, hjournal, front, hfront.trans (List.prefix_append _ _), harrived⟩,
    hverb, hspelled⟩

/-- Whatever a signal does, every path that a stage is asked about was read from a line. -/
theorem Collects.eachPath
    (hcollects : Collects service start signals (start.heedAll service signals))
    (heach : EachPath (Named service start signals) (start.heedAll service signals).journal)
    (signal : Signal) :
    EachPath (Named service start (signals ++ [signal]))
      (start.heedAll service (signals ++ [signal])).journal := by
  have hearlier : EachPath (Named service start (signals ++ [signal]))
      (start.heedAll service signals).journal :=
    heach.mono fun verb path older hnamed => hnamed.concat signal
  have hmove := heed_move service (start.heedAll service signals) signal
  rw [heedAll_concat]
  generalize hbefore : start.heedAll service signals = before at hmove hearlier hcollects
  generalize hafter : before.heed service signal = after at hmove
  cases hmove with
  | unheard | unasked | finished | passed | upgraded => exact hearlier
  | overlong reader hphase hline => simpa using hearlier
  | handled reader text _ hphase hline hhandled =>
      obtain ⟨bytes, harrived, hbytes, rfl⟩ := hcollects reader hphase
      rw [LineReader.add_add] at hline
      cases finish_eq_text hline
      have hsent : Sent service start (signals ++ [.byte LineReader.byteFeed]) before.journal
          bytes := ⟨_, List.prefix_rfl, harrived.concat (.byte LineReader.byteFeed), hbytes⟩
      refine hhandled.eachPath (by simpa using hearlier) ?_ ?_
      · intro argument path hverb hbehind hparse
        exact ⟨bytes, ⟨_, rfl, hsent⟩, hverb, fun text htext =>
          spelled_of_pathBehind hbehind hparse htext⟩
      · intro argument path hverb hbehind hparse
        refine ⟨bytes, ⟨_, rfl, hsent⟩, hverb, fun text htext => ?_⟩
        refine spelled_of_pathBehind hbehind ?_ htext
        exact ReversePath.ofChars?_eq_path.mpr (ForwardPath.ofChars?_eq_path.mp hparse)
  | exchanged step reader _ hphase hexchanged =>
      exact hexchanged.eachPath (t := before.countRead 1) hearlier
  | opened h _ hphase hbegun => exact hbegun.eachPath (t := before.encrypt h) hearlier
  | bodyEnded b outcome _ hread hended => exact hended.eachPath (t := before.countRead 1) hearlier
  | openingFailed | upgradeFailed | ended | timedOut | expired =>
      exact eachPath_close (by simpa using hearlier)

end Lines

section Envelope

variable {service : Service W} {t after mid : Turn W} {refusal : Option Refusal}

/-- Every path in the envelope is one that a stage was asked about. -/
def Recorded (t : Turn W) : Prop :=
  ∀ verb path, t.transaction.envelope.Records verb path → Names t.journal verb path

/-- Where the envelope holds no other paths and the journal has only grown. -/
theorem Recorded.of (hrecorded : Recorded t) (hjournal : t.journal <:+ after.journal)
    (henvelope : ∀ verb path, after.transaction.envelope.Records verb path →
      t.transaction.envelope.Records verb path) : Recorded after := by
  intro verb path hrecords
  obtain ⟨newer, hnewer⟩ := hjournal
  rw [← hnewer]
  exact (hrecorded verb path (henvelope verb path hrecords)).append newer

theorem records_of_standing {tx other : Transaction} (hstanding : tx.standing = other.standing)
    {verb : CommandLine.Verb} {path : MailPath} (hrecords : tx.envelope.Records verb path) :
    other.envelope.Records verb path := by
  have hsender : tx.envelope.sender = other.envelope.sender := congrArg Standing.sender hstanding
  have hrecipients : tx.envelope.recipients = other.envelope.recipients :=
    congrArg Standing.recipients hstanding
  cases hrecords with
  | sender h => exact .sender (hsender ▸ h)
  | recipient h => exact .recipient (hrecipients ▸ h)

theorem not_records_empty (verb : CommandLine.Verb) (path : MailPath) :
    ¬ ({} : Envelope).Records verb path := by
  intro hrecords
  cases hrecords with
  | sender h => cases h
  | recipient h => cases h

theorem suffix_of_writes {replies : List Reply} (hwrites : Writes t replies after) :
    t.journal <:+ after.journal := by
  obtain ⟨newer, hnewer, -, -⟩ := hwrites
  exact ⟨newer, hnewer.symm⟩

theorem Recorded.of_standing (hrecorded : Recorded t) (hjournal : t.journal <:+ after.journal)
    (hstanding : after.transaction.standing = t.transaction.standing) : Recorded after :=
  hrecorded.of hjournal fun _ _ => records_of_standing hstanding

theorem recorded_empty (hempty : after.transaction.envelope = {}) : Recorded after := by
  intro verb path hrecords
  rw [hempty] at hrecords
  exact absurd hrecords (not_records_empty verb path)

theorem standing_close (hkeeps : service.Keeps fun tx _ => tx.standing) (t : Turn W) :
    (t.close service).transaction.standing = t.transaction.standing := by
  cases hrun : t.runStage service .close with
  | mk closed refusal =>
      have hclosed := standing_of_runStage hkeeps hrun
      rw [close_eq service t hrun]
      exact hclosed

theorem Recorded.close (hkeeps : service.Keeps fun tx _ => tx.standing)
    (hrecorded : Recorded t) : Recorded (t.close service) :=
  hrecorded.of_standing (suffix_of_writes (writes_close service t)) (standing_close hkeeps t)

theorem Recorded.exchanged (hkeeps : service.Keeps fun tx _ => tx.standing)
    (hrecorded : Recorded t) (hexchanged : Exchanged service t after) : Recorded after := by
  obtain ⟨r, hwrites, -⟩ := hexchanged.writes
  refine hrecorded.of (suffix_of_writes hwrites) fun verb path hrecords => ?_
  cases hexchanged with
  | refused cost code message hcode => exact hrecords
  | challenged step =>
      rw [challenge_transaction] at hrecords
      exact hrecords
  | rejected authenticator username password r hauthenticator hverdict =>
      have hstanding := hkeeps.authenticator authenticator hauthenticator username password
        t.transaction t.world
      exact records_of_standing hstanding hrecords
  | accepted authenticator username password hauthenticator hverdict =>
      have hstanding := hkeeps.authenticator authenticator hauthenticator username password
        t.transaction t.world
      exact records_of_standing hstanding hrecords

/-- A path that a stage was just asked about. -/
theorem names_of_runStage {stage : Stage} {verb : CommandLine.Verb} {path : MailPath}
    (hrun : t.runStage service stage = (after, refusal))
    (hpath : stage.path? t.transaction = some (verb, path)) : Names after.journal verb path := by
  obtain ⟨checks, -, hjournal⟩ := journal_of_runStage hrun
  exact ⟨checks, stage, t.transaction, t.journal, hjournal, hpath⟩

/-- Where the sender and the recipients are as they were. -/
theorem Recorded.of_parts (hrecorded : Recorded t) (hjournal : t.journal <:+ after.journal)
    (hsender : after.transaction.envelope.sender = t.transaction.envelope.sender)
    (hrecipients : after.transaction.envelope.recipients = t.transaction.envelope.recipients) :
    Recorded after := by
  refine hrecorded.of hjournal fun verb path hrecords => ?_
  cases hrecords with
  | sender h => exact .sender (hsender.symm.trans h)
  | recipient h =>
      rw [hrecipients] at h
      exact .recipient h

/-- A sender whom the checkers let pass. -/
theorem Recorded.sender (hrecorded : Recorded t) {sender : ReversePath}
    (hkeeps : service.Keeps fun tx _ => tx.standing)
    (hrun : (t.setSender (some sender)).runStage service .sender = (mid, refusal)) :
    Recorded mid := by
  have hsender : mid.transaction.envelope.sender = some sender := sender_of_runStage hkeeps hrun
  have hrecipients := recipients_of_runStage hkeeps hrun
  have hgrows : t.journal <:+ mid.journal := suffix_of_writes (Writes.of_runStage hrun rfl)
  intro verb path hrecords
  cases hrecords with
  | sender h =>
      have hnamed : sender = .path path := Option.some.inj (hsender.symm.trans h)
      rw [hnamed] at hrun
      exact names_of_runStage hrun rfl
  | recipient h =>
      rw [hrecipients] at h
      obtain ⟨newer, hnewer⟩ := hgrows
      rw [← hnewer]
      exact (hrecorded .rcpt path (.recipient h)).append newer

/-- A recipient whom the checkers let pass. -/
theorem Recorded.recipient (hrecorded : Recorded t) {recipient : ForwardPath}
    (hkeeps : service.Keeps fun tx _ => tx.standing)
    (hrun : t.runStage service (.recipient recipient) = (mid, none)) :
    Recorded ((if mid.transaction.envelope.recipients.isEmpty then
      mid.reward Karma.commandExecuted else mid).addRecipient recipient) := by
  have hstanding := standing_welcome recipient (standing_of_runStage hkeeps hrun)
  have hjournal := journal_welcome recipient mid
  have hgrows : t.journal <:+ mid.journal := suffix_of_writes (Writes.of_runStage hrun rfl)
  generalize (if mid.transaction.envelope.recipients.isEmpty then
    mid.reward Karma.commandExecuted else mid).addRecipient recipient = joined
      at hstanding hjournal ⊢
  have hsender : joined.transaction.envelope.sender = t.transaction.envelope.sender :=
    congrArg Standing.sender hstanding
  have hrecipients : joined.transaction.envelope.recipients =
      t.transaction.envelope.recipients ++ [recipient] := congrArg Standing.recipients hstanding
  intro verb path hrecords
  rw [hjournal]
  obtain ⟨newer, hnewer⟩ := hgrows
  cases hrecords with
  | sender h =>
      rw [← hnewer]
      exact (hrecorded .mail path (.sender (hsender.symm.trans h))).append newer
  | recipient h =>
      rw [hrecipients] at h
      rcases List.mem_append.mp h with hold | hnew
      · rw [← hnewer]
        exact (hrecorded .rcpt path (.recipient hold)).append newer
      · cases List.mem_singleton.mp hnew
        exact names_of_runStage hrun rfl

theorem Recorded.handled {line : CommandLine} (hkeeps : service.Keeps fun tx _ => tx.standing)
    (hrecorded : Recorded t) (hhandled : Handled service line t after) : Recorded after := by
  obtain ⟨r, hwrites, -⟩ := hhandled.writes
  have hgrows := suffix_of_writes hwrites
  cases hhandled with
  | refused | idle | bodyAwaited | handshakeAwaited | proxied =>
      exact hrecorded.of_parts hgrows rfl rfl
  | reset hverb => exact recorded_empty rfl
  | greeted protocol name mid hverb hname hrun => exact recorded_empty rfl
  | greetingRefused protocol name mid r hverb hname hrun =>
      have hsender := sender_of_runStage hkeeps hrun
      have hrecipients := recipients_of_runStage hkeeps hrun
      exact hrecorded.of_parts hgrows hsender hrecipients
  | senderAccepted argument sender mid hverb hobstacle hpath hparse hrun =>
      exact (hrecorded.sender hkeeps hrun).of_parts ⟨[_], rfl⟩ rfl rfl
  | senderRefused argument sender mid r hverb hobstacle hpath hparse hrun =>
      refine (hrecorded.sender hkeeps hrun).of ⟨[_], rfl⟩ fun verb path hrecords => ?_
      cases hrecords with
      | sender h => cases h
      | recipient h => exact .recipient h
  | recipientAccepted argument recipient mid hverb hsome hroom hpath hparse hrun =>
      exact (hrecorded.recipient hkeeps hrun).of_parts ⟨[_], rfl⟩ rfl rfl
  | recipientRefused argument recipient mid r hverb hsome hpath hparse hrun =>
      have hsender := sender_of_runStage hkeeps hrun
      have hrecipients := recipients_of_runStage hkeeps hrun
      exact hrecorded.of_parts hgrows hsender hrecipients
  | quit message hverb =>
      have htold : Recorded (t.reply 221 message).countCommand :=
        hrecorded.of_parts ⟨[_], rfl⟩ rfl rfl
      exact htold.close hkeeps
  | auth _ hverb hobstacle hexchanged => exact hrecorded.exchanged hkeeps hexchanged
  | xclient attributes hverb henabled hparse =>
      have henvelope : (((t.moveTo service attributes).mapPeer (withAttributes attributes)).greet
          service).conclude.transaction.envelope = t.transaction.envelope := by
        rw [conclude_transaction, greet, reply_transaction, mapPeer_eq, mapTransaction_transaction,
          moveTo_envelope]
      exact hrecorded.of_parts hgrows (congrArg Envelope.sender henvelope)
        (congrArg Envelope.recipients henvelope)

theorem Recorded.begun (hkeeps : service.Keeps fun tx _ => tx.standing) (hrecorded : Recorded t)
    (hbegun : Begun service t after) : Recorded after := by
  have hmid : ∀ {mid : Turn W} {refusal : Option Refusal},
      (t.lookUpNames service).runStage service .connection = (mid, refusal) → Recorded mid := by
    intro mid refusal hrun
    have hsender := sender_of_runStage hkeeps hrun
    have hrecipients := recipients_of_runStage hkeeps hrun
    exact hrecorded.of_parts (suffix_of_writes (Writes.of_runStage hrun rfl)) hsender hrecipients
  cases hbegun with
  | refused mid r hrun =>
      have htold : Recorded (mid.replyRefusal r) := (hmid hrun).of_parts ⟨[_], rfl⟩ rfl rfl
      exact htold.close hkeeps
  | greeted mid hrun => exact (hmid hrun).of_parts ⟨[_], rfl⟩ rfl rfl

theorem Recorded.move {signal : Signal} (hkeeps : service.Keeps fun tx _ => tx.standing)
    (hrecorded : Recorded t) (hmove : Move service t signal after) : Recorded after := by
  cases hmove with
  | unheard | unasked | finished => exact hrecorded
  | passed b phase hpasses => exact hrecorded
  | upgraded h hphase => exact recorded_empty rfl
  | overlong reader hphase hline => exact hrecorded.of_parts ⟨[_, _], rfl⟩ rfl rfl
  | handled reader text _ hphase hline hhandled =>
      have htaken : Recorded ((t.countRead 1).note (.command (CommandLine.parse text))) :=
        hrecorded.of_parts ⟨[_], rfl⟩ rfl rfl
      exact htaken.handled hkeeps hhandled
  | exchanged step reader _ hphase hexchanged =>
      exact Recorded.exchanged (t := t.countRead 1) hkeeps hrecorded hexchanged
  | opened h _ hphase hbegun => exact Recorded.begun (t := t.encrypt h) hkeeps hrecorded hbegun
  | bodyEnded b outcome _ hread hended =>
      cases hended with
      | tooBig | bodyRefused | messageRefused | messageAccepted => exact recorded_empty rfl
  | ended | expired => exact hrecorded.close hkeeps
  | openingFailed signal hphase hsignal =>
      have hcost : Recorded (t.penalize Karma.handshakeFailed) := hrecorded
      exact hcost.close hkeeps
  | upgradeFailed signal hphase hsignal =>
      have htold : Recorded
          (t.refuse Karma.handshakeFailed 550 "Handshake error").countCommand :=
        hrecorded.of_parts ⟨[_], rfl⟩ rfl rfl
      exact htold.close hkeeps
  | timedOut hphase =>
      have htold : Recorded (t.reply 421 "Connection timed out.") :=
        hrecorded.of_parts ⟨[_], rfl⟩ rfl rfl
      exact htold.close hkeeps

end Envelope

section Runs

variable (service : Service W) (id : TransactionId) (serverHostname : String)
  (localAddr remoteAddr : Address.Endpoint) (world : W)

theorem start_collects (service : Service W) {start : Turn W}
    (hphase : ∀ reader, start.phase = .command reader → reader = {}) :
    Collects service start [] start := by
  intro reader hreader
  obtain rfl := hphase reader hreader
  exact ⟨[], .nil hreader, List.not_mem_nil, rfl⟩

theorem start_reader_eq (tx : Transaction) (reader : LineReader)
    (hphase : (start service tx world).phase = .command reader) : reader = {} := by
  rw [start] at hphase
  split at hphase
  · cases hphase
  · have hbegun := begin_begun service ({ transaction := tx, phase := .opening, world } : Turn W)
    generalize begin service ({ transaction := tx, phase := .opening, world } : Turn W) =
      opened at hbegun hphase
    cases hbegun with
    | refused => cases close_phase.symm.trans hphase
    | greeted mid hrun =>
        cases hphase
        rfl

theorem start_eachPath (holds : CommandLine.Verb → MailPath → List Event → Prop)
    (tx : Transaction) : EachPath holds (start service tx world).journal := by
  have hnothing : EachPath holds [] := fun stage => trivial
  rw [start]
  split
  · exact hnothing
  · exact (begin_begun service _).eachPath hnothing

/-- Along a run every path that a stage is asked about was read from a line. -/
theorem heedAll_eachPath {start : Turn W}
    (hphase : ∀ reader, start.phase = .command reader → reader = {})
    (hpaths : EachPath (Named service start []) start.journal) (signals : List Signal) :
    EachPath (Named service start signals) (start.heedAll service signals).journal := by
  have hboth : Collects service start signals (start.heedAll service signals) ∧
      EachPath (Named service start signals) (start.heedAll service signals).journal := by
    -- Lines are told by prefixes of the signals, so the last signal is split off.
    induction signals using List.reverseRecOn with
    | nil => exact ⟨start_collects service hphase, hpaths⟩
    | append_singleton signals signal ih =>
        exact ⟨ih.1.heed signal, ih.1.eachPath ih.2 signal⟩
  exact hboth.2

/-- Wherever the checkers of a sender or a recipient are asked about a path, the path was read from
the line at hand, and its local part and the text of its domain are spelled there; and every path in
an envelope that the checkers do not rewrite is one that they were asked about. -/
theorem run_paths_from_lines (inputs : List Input) :
    let t0 := start service (.start id serverHostname localAddr remoteAddr) world
    let t := t0.run service inputs
    let signals := inputs.flatMap Input.signals
    (∀ newer stage tx older verb path, t.journal = newer ++ .stage stage tx :: older →
      stage.path? tx = some (verb, path) → Named service t0 signals verb path older) ∧
    (service.Keeps (fun tx _ => tx.standing) → ∀ verb path,
      t.transaction.envelope.Records verb path → ∃ newer stage tx older,
        t.journal = newer ++ .stage stage tx :: older ∧ stage.path? tx = some (verb, path) ∧
          Named service t0 signals verb path older) := by
  intro t0 t signals
  have heach : EachPath (Named service t0 signals) t.journal := by
    have hpaths : EachPath (Named service t0 signals) (t0.heedAll service signals).journal :=
      heedAll_eachPath service (start_reader_eq service world _)
        (start_eachPath service world _ _) signals
    rwa [← run_eq_heedAll] at hpaths
  constructor
  · intro newer stage tx older verb path hjournal hpath
    rw [hjournal] at heach
    exact heach.at_start hpath
  · intro hkeeps verb path hrecords
    have hstart : Recorded t0 := by
      have hfresh : Recorded ({ transaction := .start id serverHostname localAddr remoteAddr
                                phase := .opening
                                world } : Turn W) := recorded_empty rfl
      simp only [t0, start]
      split
      · exact hfresh
      · exact hfresh.begun hkeeps (begin_begun service _)
    have hrun : Recorded t := run_induction
      (fun before signal after hmove hrecorded => Recorded.move hkeeps hrecorded hmove) inputs
      hstart
    obtain ⟨newer, stage, tx, older, hjournal, hpath⟩ := hrun verb path hrecords
    refine ⟨newer, stage, tx, older, hjournal, hpath, ?_⟩
    rw [hjournal] at heach
    exact heach.at_start hpath

end Runs

theorem run_paths_from_lines_sender :
    let t := Sample.start.run Sample.service [.bytes Sample.namedSender]
    ∃ newer stage tx older path,
      (Sample.service.Keeps fun tx _ => tx.standing) ∧
      t.transaction.envelope.Records .mail path ∧
      t.journal = newer ++ .stage stage tx :: older ∧ stage.path? tx = some (.mail, path) ∧
      Named Sample.service Sample.start ([Input.bytes Sample.namedSender].flatMap Input.signals)
        .mail path older := by
  intro t
  have hrecords : t.transaction.envelope.Records .mail ⟨[], "a", .name "b.c"⟩ :=
    .sender (by decide +kernel)
  have hboth := run_paths_from_lines Sample.service ⟨1⟩ "mx" Sample.place Sample.place Sample.office
    [.bytes Sample.namedSender]
  obtain ⟨newer, stage, tx, older, hjournal, hpath, -⟩ :=
    hboth.2 (Sample.service_keeps _) _ _ hrecords
  exact ⟨newer, stage, tx, older, _, Sample.service_keeps _, hrecords, hjournal, hpath,
    hboth.1 _ _ _ _ _ _ hjournal hpath⟩

/-- A sender that is answered with 250 and is not recorded byte for byte, since a byte that is not
UTF-8 is replaced. -/
theorem recorded_sender_altered :
    let t := Sample.start.run Sample.service [.bytes (Sample.greeting ++ Sample.brokenSender)]
    t.replies.map (·.code) = [220, 250, 250] ∧
      t.transaction.envelope.sender = some (.path ⟨[], "\uFFFD", .name "d"⟩) ∧
      ¬ Utf8.encode "\uFFFD" <:+: Sample.brokenSender := by
  decide +kernel

end Turn
end MailIntake
