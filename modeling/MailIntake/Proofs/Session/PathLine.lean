import MailIntake.Proofs.Path.Printing
import MailIntake.Proofs.Path.Spelling
import MailIntake.Proofs.Session.Script
import MailIntake.Proofs.Session.SentLine
import MailIntake.Proofs.Session.TurnedDown
/-!
Paths on their command lines.  A tokenizer cuts the line at its blanks and the second word at its
colons, and the grammar of paths knows of neither; what a session reads a path from is therefore the
path as it was written exactly if there is no space in it (`path_on_line`).
-/
namespace MailIntake

open Text MailIntake.Path

universe u v

/-- No other blank than a space is printable. -/
theorem eq_space_of_isBlank {c : Char} (hblank : Ascii.isBlank c)
    (hplain : isControl c = false) : c = ' ' := by
  simp only [Ascii.isBlank, Bool.or_eq_true, beq_iff_eq, or_assoc] at hblank
  rcases hblank with rfl | rfl | rfl | rfl | rfl
  · rfl
  all_goals exact absurd hplain (by decide)

/-- The checkers of a stage let everything pass and leave a part of the transaction as it is. -/
structure Service.Grants {W : Type u} {A : Type v} (service : Service W) (stage : Stage)
    (view : Transaction → A) : Prop where
  passes : ∀ checker ∈ service.pipelines.checkers stage, ∀ tx world,
    (checker tx world).refusal = none
  keeps : service.KeepsAt (fun tx _ => view tx) stage

/-- A command line hands a path over as it was written. -/
structure CommandLine.HandsOver (line : CommandLine) (keyword path : String) : Prop where
  keyword : line.keyword? = some keyword
  path : line.pathArgument? = some path
  parameters : line.esmtpParameters = []

namespace CommandLine

/-- What is taken from a line whose second word begins with a keyword and a colon. -/
theorem parts_of_fields {words rest : List String} {verb keyword found : String}
    (hfields : glueValue words = verb :: (keyword ++ ":" ++ found) :: rest)
    (hcolon : ':' ∉ keyword.toList) :
    (ofWords words).keyword? = some (Ascii.upper keyword) ∧
      (ofWords words).pathArgument? = some found ∧ (ofWords words).esmtpParameters = rest := by
  have hcut : atColons (keyword ++ ":" ++ found) = keyword :: atColons found := by
    have htext : (keyword ++ ":" ++ found).toList = keyword.toList ++ ':' :: found.toList := by
      simp
    have hkeyword : ∀ c ∈ keyword.toList, (c == ':') = false := fun c hc =>
      beq_eq_false_iff_ne.mpr fun heq => hcolon (heq ▸ hc)
    rw [atColons, htext, splitOn_append_cons hkeyword (by decide), List.map_cons,
      String.ofList_toList]
    rfl
  refine ⟨?_, ?_, ?_⟩
  · simp only [keyword?, ofWords, hfields, hcut, List.head?_cons, Option.map_some]
  · cases hpieces : atColons found with
    | nil =>
        rw [atColons, List.map_eq_nil_iff] at hpieces
        exact absurd hpieces (splitOn_ne_nil _ _)
    | cons piece more =>
        have hjoined := withColons_atColons found
        rw [hpieces] at hjoined
        simp only [pathArgument?, ofWords, hfields, hcut, hpieces, hjoined]
  · simp only [esmtpParameters, ofWords, hfields, List.drop_succ_cons, List.drop_zero]

theorem words_pathLine {verb : String} (hverb : IsWord verb) (rest : String) :
    Ascii.words (verb ++ " " ++ rest) = verb :: Ascii.words rest := by
  have hline : verb ++ " " ++ rest = String.ofList (verb.toList ++ ' ' :: rest.toList) := by
    simp [← String.toList_inj]
  rw [hline, words_append_cons hverb (by decide), String.ofList_toList]

/-- The second word of a line with a path begins with the keyword, and what stands behind it has no
space; without a space in the path it is the path, and no word follows. -/
theorem fields_of_path {verb keyword path : String} (hverb : IsWord verb)
    (hkeyword : IsWord keyword) (hpath : IsPlain path.toList) :
    ∃ found rest, glueValue (Ascii.words (verb ++ " " ++ (keyword ++ ":" ++ path))) =
        verb :: (keyword ++ ":" ++ found) :: rest ∧ ' ' ∉ found.toList ∧
      (' ' ∉ path.toList → found = path ∧ rest = []) := by
  have hsecond : ∀ found : String, ' ' ∉ found.toList → (∀ c ∈ found.toList, c ∈ path.toList) →
      IsWord (keyword ++ ":" ++ found) := by
    intro found hspace hmem
    have hne : keyword ++ ":" ++ found ≠ "" := by
      intro hempty
      have hnil := congrArg String.toList hempty
      simp at hnil
    refine ⟨hne, ?_⟩
    simp only [String.toList_append, List.mem_append]
    rintro c ((hc | hc) | hc)
    · exact hkeyword.2 c hc
    · rw [List.mem_singleton.mp hc]
      decide
    · by_contra hblank
      rw [Bool.not_eq_false] at hblank
      exact hspace (eq_space_of_isBlank hblank (hpath c (hmem c hc)) ▸ hc)
  rw [words_pathLine hverb]
  by_cases hspace : ' ' ∈ path.toList
  · obtain ⟨front, back, hsplit, hfront⟩ := List.eq_append_cons_of_mem hspace
    have hword := hsecond (String.ofList front) (by simpa using hfront)
      (fun c hc => by simp_all)
    have hwords : Ascii.words (keyword ++ ":" ++ path) =
        (keyword ++ ":" ++ String.ofList front) :: Ascii.words (String.ofList back) := by
      have hline : keyword ++ ":" ++ path =
          String.ofList ((keyword ++ ":" ++ String.ofList front).toList ++ ' ' :: back) := by
        simp [← String.toList_inj, hsplit]
      rw [hline, words_append_cons hword (by decide)]
    rw [hwords]
    cases hmore : Ascii.words (String.ofList back) with
    | nil => exact ⟨_, [], rfl, by simpa using hfront, fun h => absurd hspace h⟩
    | cons value rest =>
        have hvalue : ' ' ∉ value.toList := fun hmem => absurd
          (isBlank_eq_false_of_mem_words (hmore ▸ List.mem_cons_self) ' ' hmem) (by decide)
        rw [glueValue]
        split
        · refine ⟨String.ofList front ++ value, rest, ?_, ?_, fun h => absurd hspace h⟩
          · simp only [String.append_assoc]
          · simpa using ⟨hfront, hvalue⟩
        · exact ⟨_, _, rfl, by simpa using hfront, fun h => absurd hspace h⟩
  · refine ⟨path, [], ?_, hspace, fun _ => ⟨rfl, rfl⟩⟩
    rw [words_of_isWord (hsecond path hspace fun c hc => hc)]
    rfl

/-- What is read of a line with a path: the command, the keyword, and a text without spaces, which
is the path with nothing behind it if the path has none either. -/
structure ReadsPath (line : CommandLine) (verb keyword path found : String) : Prop where
  verb : line.verb? = Verb.ofAction? (Ascii.upper verb)
  keyword : line.keyword? = some (Ascii.upper keyword)
  argument : line.pathArgument? = some found
  spaceless : ' ' ∉ found.toList
  whole : ' ' ∉ path.toList → found = path ∧ line.esmtpParameters = []

theorem readsPath {line verb keyword path : String}
    (hline : line = verb ++ " " ++ (keyword ++ ":" ++ path)) (hverb : IsWord verb)
    (hkeyword : IsWord keyword) (hcolon : ':' ∉ keyword.toList)
    (hpath : IsPlain path.toList) : ∃ found, (parse line).ReadsPath verb keyword path found := by
  obtain ⟨found, rest, hfields, hspace, hwhole⟩ := fields_of_path hverb hkeyword hpath
  obtain ⟨hfirst, hargument, hparameters⟩ := parts_of_fields hfields hcolon
  rw [hline]
  refine ⟨found, ?_, hfirst, hargument, hspace, fun hnone =>
    ⟨(hwhole hnone).1, hparameters.trans (hwhole hnone).2⟩⟩
  rw [verb?, parse, words_pathLine hverb]
  rfl

/-- A line hands over the path that it is written with exactly if there is no space in it. -/
theorem ReadsPath.handsOver_iff {line : CommandLine} {verb keyword path found : String}
    (h : line.ReadsPath verb keyword path found) (hupper : Ascii.upper keyword = keyword) :
    line.HandsOver keyword path ↔ ' ' ∉ path.toList := by
  constructor
  · intro hhands
    rw [← Option.some.inj (h.argument.symm.trans hhands.path)]
    exact h.spaceless
  · intro hnone
    obtain ⟨rfl, hparameters⟩ := h.whole hnone
    exact ⟨h.keyword.trans (congrArg some hupper), h.argument, hparameters⟩

theorem ReadsPath.pathBehind {line : CommandLine} {verb keyword path found : String}
    (h : line.ReadsPath verb keyword path found) (hupper : Ascii.upper keyword = keyword) :
    Turn.pathBehind keyword line = some found := by
  rw [Turn.pathBehind, if_pos (h.keyword.trans (congrArg some hupper)), h.argument]

end CommandLine

namespace Turn

variable {W : Type u} {service : Service W} {t : Turn W}

theorem runStage_of_grants {A : Type v} {stage : Stage} {view : Transaction → A}
    (hgrants : service.Grants stage view) :
    ∃ mid, t.runStage service stage = (mid, none) ∧ view mid.transaction = view t.transaction := by
  cases hrun : t.runStage service stage with
  | mk mid refusal =>
      have hkept := seen_of_runStage hgrants.keeps hrun
      cases refusal with
      | none => exact ⟨mid, rfl, hkept⟩
      | some r =>
          obtain ⟨checks, hran, -⟩ := ran_of_runStage hrun
          cases hran.verdicts with
          | refuse earlier r =>
              obtain ⟨checker, tx, world, hchecker, hrefuses⟩ :=
                hran.answers _ _ List.mem_cons_self
              rw [hgrants.passes checker (List.mem_of_getElem? hchecker) tx world] at hrefuses
              cases hrefuses

section Sender

variable (service) in
/-- The checkers are asked about a sender before anything else happens. -/
theorem proposeSender_asks (sender : ReversePath) :
    ∃ newer, (t.proposeSender service sender).journal =
      newer ++ .stage .sender (t.setSender (some sender)).transaction :: t.journal := by
  cases hrun : (t.setSender (some sender)).runStage service .sender with
  | mk mid refusal =>
      obtain ⟨checks, -, hjournal⟩ := journal_of_runStage hrun
      have hproposed := hrun
      rw [setSender] at hproposed
      rw [proposeSender, hproposed]
      cases refusal with
      | none => exact ⟨_ :: checks, congrArg (_ :: ·) hjournal⟩
      | some r => exact ⟨_ :: checks, congrArg (_ :: ·) hjournal⟩

/-- A sender whom the checkers grant is recorded. -/
theorem proposeSender_records (hgrants : service.Grants .sender (·.envelope.sender))
    (sender : ReversePath) :
    (t.proposeSender service sender).transaction.envelope.sender = some sender ∧
      lastReply? (t.proposeSender service sender).journal = some ⟨250, "Go ahead"⟩ := by
  obtain ⟨mid, hrun, hsender⟩ := runStage_of_grants (t := t.setSender (some sender)) hgrants
  rw [setSender] at hrun
  rw [proposeSender, hrun]
  exact ⟨hsender, rfl⟩

/-- No sender is recorded but the one that is proposed, whatever the checkers say. -/
theorem eq_of_proposeSender (hkeeps : service.KeepsAt (fun tx _ => tx.envelope.sender) .sender)
    {sender other : ReversePath}
    (hrecorded : (t.proposeSender service sender).transaction.envelope.sender = some other) :
    sender = other := by
  cases hrun : (t.setSender (some sender)).runStage service .sender with
  | mk mid refusal =>
      have hkept := seen_of_runStage hkeeps hrun
      rw [setSender] at hrun
      rw [proposeSender, hrun] at hrecorded
      cases refusal with
      | none => exact Option.some.inj (hkept.symm.trans hrecorded)
      | some r => cases hrecorded

variable {line : CommandLine} {path : String}

/-- MAIL with a sender that can be read comes down to the size that is declared. -/
theorem mail_of_sender (hobstacle : senderObstacle service t.transaction = none)
    (hpath : pathBehind "FROM" line = some path) {sender : ReversePath}
    (hparse : ReversePath.parse? path = some sender) :
    t.mail service line =
      if (declaredSize line.esmtpParameters).any (service.settings.maxMessageSize.toNat < ·) then
        (t.refuse Karma.messageTooBig 552 (tooBigText service)).conclude
      else t.proposeSender service sender := by
  simp only [mail, hobstacle, hpath, hparse]

theorem mail_eq (hobstacle : senderObstacle service t.transaction = none)
    (hpath : pathBehind "FROM" line = some path) {sender : ReversePath}
    (hparse : ReversePath.parse? path = some sender) (hparameters : line.esmtpParameters = []) :
    t.mail service line = t.proposeSender service sender := by
  rw [mail_of_sender hobstacle hpath hparse, hparameters]
  rfl

/-- No sender is recorded but the one that is read behind the keyword. -/
theorem parse?_of_mail (hobstacle : senderObstacle service t.transaction = none)
    (hpath : pathBehind "FROM" line = some path)
    (hkeeps : service.KeepsAt (fun tx _ => tx.envelope.sender) .sender) {sender : ReversePath}
    (hrecorded : (t.mail service line).transaction.envelope.sender = some sender) :
    ReversePath.parse? path = some sender := by
  obtain ⟨-, -, -, hnone⟩ := senderObstacle_eq_none hobstacle
  have hrefused : ∀ cost code message,
      ¬(t.refuse cost code message).conclude.transaction.envelope.sender = some sender := by
    intro cost code message hsender
    cases hnone.symm.trans hsender
  simp only [mail, hobstacle, hpath] at hrecorded
  cases hparse : ReversePath.parse? path with
  | none =>
      rw [hparse] at hrecorded
      exact absurd hrecorded (hrefused _ _ _)
  | some found =>
      simp only [hparse] at hrecorded
      split at hrecorded
      · exact absurd hrecorded (hrefused _ _ _)
      · rw [eq_of_proposeSender hkeeps hrecorded]

end Sender

section Recipient

variable (service) in
/-- The checkers are asked about a recipient before anything else happens. -/
theorem proposeRecipient_asks (recipient : ForwardPath) :
    ∃ newer, (t.proposeRecipient service recipient).journal =
      newer ++ .stage (.recipient recipient) t.transaction :: t.journal := by
  cases hrun : t.runStage service (.recipient recipient) with
  | mk mid refusal =>
      obtain ⟨checks, -, hjournal⟩ := journal_of_runStage hrun
      rw [proposeRecipient, hrun]
      cases refusal with
      | none =>
          refine ⟨.replied ⟨250, "Go ahead"⟩ :: checks, ?_⟩
          simp only [conclude_journal, reply_journal, mapEnvelope_eq, mapTransaction_journal]
          split <;> exact congrArg (_ :: ·) hjournal
      | some r => exact ⟨_ :: checks, congrArg (_ :: ·) hjournal⟩

/-- A recipient that passes stands behind the others. -/
theorem recipients_proposeRecipient {recipient : ForwardPath} {mid : Turn W}
    (hrun : t.runStage service (.recipient recipient) = (mid, none)) :
    (t.proposeRecipient service recipient).transaction.envelope.recipients =
      mid.transaction.envelope.recipients ++ [recipient] := by
  rw [proposeRecipient, hrun]
  simp only [conclude_transaction, reply_transaction, mapEnvelope_eq, mapTransaction_transaction]
  split <;> rfl

/-- A recipient whom the checkers grant is recorded behind the others. -/
theorem proposeRecipient_records (recipient : ForwardPath)
    (hgrants : service.Grants (.recipient recipient) (·.envelope.recipients)) :
    (t.proposeRecipient service recipient).transaction.envelope.recipients =
        t.transaction.envelope.recipients ++ [recipient] ∧
      lastReply? (t.proposeRecipient service recipient).journal = some ⟨250, "Go ahead"⟩ := by
  obtain ⟨mid, hrun, hrecipients⟩ := runStage_of_grants (t := t) hgrants
  rw [recipients_proposeRecipient hrun, hrecipients, proposeRecipient, hrun]
  exact ⟨rfl, rfl⟩

/-- No recipient is recorded but the one that is proposed, whatever the checkers say. -/
theorem eq_of_proposeRecipient {recipient other : ForwardPath}
    (hkeeps : service.KeepsAt (fun tx _ => tx.envelope.recipients) (.recipient recipient))
    (hrecorded : (t.proposeRecipient service recipient).transaction.envelope.recipients =
      t.transaction.envelope.recipients ++ [other]) : recipient = other := by
  cases hrun : t.runStage service (.recipient recipient) with
  | mk mid refusal =>
      have hkept : mid.transaction.envelope.recipients = t.transaction.envelope.recipients :=
        seen_of_runStage hkeeps hrun
      cases refusal with
      | none =>
          rw [recipients_proposeRecipient hrun, hkept] at hrecorded
          exact List.singleton_inj.mp (List.append_cancel_left hrecorded)
      | some r =>
          rw [proposeRecipient, hrun] at hrecorded
          have hmore := hkept.symm.trans hrecorded
          exact absurd hmore (by simp)

variable {line : CommandLine} {path : String}

theorem rcpt_eq (hsender : t.transaction.envelope.sender.isSome)
    (hroom : t.transaction.envelope.recipients.length < service.settings.maxRecipients.toNat)
    (hpath : pathBehind "TO" line = some path) {recipient : ForwardPath}
    (hparse : ForwardPath.parse? path = some recipient) :
    t.rcpt service line = t.proposeRecipient service recipient := by
  have hsome : ¬t.transaction.envelope.sender.isNone := by
    simpa [Option.isSome_iff_ne_none] using hsender
  simp only [rcpt, if_neg hsome, if_neg (Nat.not_le_of_lt hroom), hpath, hparse]

/-- No recipient is recorded but the one that is read behind the keyword. -/
theorem parse?_of_rcpt (hsender : t.transaction.envelope.sender.isSome)
    (hroom : t.transaction.envelope.recipients.length < service.settings.maxRecipients.toNat)
    (hpath : pathBehind "TO" line = some path)
    (hkeeps : ∀ candidate,
      service.KeepsAt (fun tx _ => tx.envelope.recipients) (.recipient candidate))
    {recipient : ForwardPath} (hrecorded : (t.rcpt service line).transaction.envelope.recipients =
      t.transaction.envelope.recipients ++ [recipient]) :
    ForwardPath.parse? path = some recipient := by
  have hsome : ¬t.transaction.envelope.sender.isNone := by
    simpa [Option.isSome_iff_ne_none] using hsender
  simp only [rcpt, if_neg hsome, if_neg (Nat.not_le_of_lt hroom), hpath] at hrecorded
  cases hparse : ForwardPath.parse? path with
  | none =>
      rw [hparse] at hrecorded
      have hsame : t.transaction.envelope.recipients =
          t.transaction.envelope.recipients ++ [recipient] := hrecorded
      exact absurd hsame (by simp)
  | some found =>
      simp only [hparse] at hrecorded
      rw [eq_of_proposeRecipient (hkeeps found) hrecorded]

end Recipient

/-- A session in which a sender may be named. -/
structure AwaitsSender (service : Service W) (t : Turn W) : Prop where
  phase : t.phase = .command {}
  obstacle : senderObstacle service t.transaction = none

structure AwaitsRecipient (service : Service W) (t : Turn W) : Prop where
  phase : t.phase = .command {}
  sender : t.transaction.envelope.sender.isSome
  room : t.transaction.envelope.recipients.length < service.settings.maxRecipients.toNat

/-- A session takes this sender from a line: its checkers are asked about the sender, and if they
grant it, it is recorded and the client is told so. -/
structure TakesSender (service : Service W) (line : CommandLine) (sender : ReversePath)
    (before after : Turn W) : Prop where
  asked : ∃ newer, after.journal = newer ++
    .stage .sender (before.setSender (some sender)).transaction :: .command line :: before.journal
  recorded : service.Grants .sender (·.envelope.sender) →
    after.transaction.envelope.sender = some sender ∧
      lastReply? after.journal = some ⟨250, "Go ahead"⟩

/-- A session takes this recipient from a line: its checkers are asked about the recipient, and if
they grant it, it is recorded behind the others and the client is told so. -/
structure TakesRecipient (service : Service W) (line : CommandLine) (recipient : ForwardPath)
    (before after : Turn W) : Prop where
  asked : ∃ newer, after.journal = newer ++
    .stage (.recipient recipient) before.transaction :: .command line :: before.journal
  recorded : service.Grants (.recipient recipient) (·.envelope.recipients) →
    after.transaction.envelope.recipients = before.transaction.envelope.recipients ++ [recipient] ∧
      lastReply? after.journal = some ⟨250, "Go ahead"⟩

section Lines

variable {line : CommandLine} {text found : String}

variable (service t line) in
/-- To propose a sender is to take it from the line that has just been taken up. -/
theorem takesSender_proposeSender (sender : ReversePath) :
    TakesSender service line sender t ((t.note (.command line)).proposeSender service sender) :=
  ⟨proposeSender_asks service sender, fun hgrants => proposeSender_records hgrants sender⟩

/-- A line with a sender whose text has no space. -/
theorem AwaitsSender.takes {sender : ReversePath} (hawaits : t.AwaitsSender service)
    (hreads : line.ReadsPath "MAIL" "FROM" text found)
    (hparse : ReversePath.parse? text = some sender) (hspace : ' ' ∉ text.toList) :
    TakesSender service line sender t ((t.note (.command line)).mail service line) := by
  obtain ⟨rfl, hparameters⟩ := hreads.whole hspace
  rw [mail_eq (t := t.note (.command line)) hawaits.obstacle (hreads.pathBehind (by decide)) hparse
    hparameters]
  exact takesSender_proposeSender service t line sender

/-- A line with a sender whose text has spaces: they are not in what is read from the line, and all
spellings of the sender have some. -/
theorem AwaitsSender.misses {sender : ReversePath} (hawaits : t.AwaitsSender service)
    (hreads : line.ReadsPath "MAIL" "FROM" text found)
    (hparse : ReversePath.parse? text = some sender) (hspace : ' ' ∈ text.toList)
    (hkeeps : service.KeepsAt (fun tx _ => tx.envelope.sender) .sender) :
    ((t.note (.command line)).mail service line).transaction.envelope.sender ≠ some sender := by
  intro hrecorded
  have hfound := parse?_of_mail (t := t.note (.command line)) hawaits.obstacle
    (hreads.pathBehind (by decide)) hkeeps hrecorded
  exact hreads.spaceless ((ReversePath.space_mem_iff hparse hfound).mp hspace)

/-- A line with a recipient whose text has no space. -/
theorem AwaitsRecipient.takes {recipient : ForwardPath} (hawaits : t.AwaitsRecipient service)
    (hreads : line.ReadsPath "RCPT" "TO" text found)
    (hparse : ForwardPath.parse? text = some recipient) (hspace : ' ' ∉ text.toList) :
    TakesRecipient service line recipient t ((t.note (.command line)).rcpt service line) := by
  obtain ⟨rfl, -⟩ := hreads.whole hspace
  rw [rcpt_eq (t := t.note (.command line)) hawaits.sender hawaits.room
    (hreads.pathBehind (by decide)) hparse]
  exact ⟨proposeRecipient_asks service recipient, proposeRecipient_records recipient⟩

/-- A line with a recipient whose text has spaces. -/
theorem AwaitsRecipient.misses {recipient : ForwardPath} (hawaits : t.AwaitsRecipient service)
    (hreads : line.ReadsPath "RCPT" "TO" text found)
    (hparse : ForwardPath.parse? text = some recipient) (hspace : ' ' ∈ text.toList)
    (hkeeps : ∀ candidate,
      service.KeepsAt (fun tx _ => tx.envelope.recipients) (.recipient candidate)) :
    ((t.note (.command line)).rcpt service line).transaction.envelope.recipients ≠
      t.transaction.envelope.recipients ++ [recipient] := by
  intro hrecorded
  have hfound := parse?_of_rcpt (t := t.note (.command line)) hawaits.sender hawaits.room
    (hreads.pathBehind (by decide)) hkeeps hrecorded
  exact hreads.spaceless ((ForwardPath.space_mem_iff hparse hfound).mp hspace)

theorem AwaitsSender.countRead (hawaits : t.AwaitsSender service) (bytes : Nat) :
    (t.countRead bytes).AwaitsSender service :=
  ⟨hawaits.phase, hawaits.obstacle⟩

theorem AwaitsRecipient.countRead (hawaits : t.AwaitsRecipient service) (bytes : Nat) :
    (t.countRead bytes).AwaitsRecipient service :=
  ⟨hawaits.phase, hawaits.sender, hawaits.room⟩

theorem takesSender_of_countRead {sender : ReversePath} {after : Turn W} {bytes : Nat}
    (h : TakesSender service line sender (t.countRead bytes) after) :
    TakesSender service line sender t after :=
  ⟨h.asked, h.recorded⟩

theorem takesRecipient_of_countRead {recipient : ForwardPath} {after : Turn W} {bytes : Nat}
    (h : TakesRecipient service line recipient (t.countRead bytes) after) :
    TakesRecipient service line recipient t after :=
  ⟨h.asked, h.recorded⟩

end Lines

/-- A path that could be read can be given on the line of its command exactly if there is no space
in its text: then the tokenizer hands it over as it is, and a session that awaits it takes it,
however the bytes of the line arrive.  The keyword is found in any case, but with a space in the
text something else is read behind it, and what the session records, if anything, is another path. -/
theorem path_on_line (text : String) :
    (∀ path, ReversePath.parse? text = some path →
      let content := "MAIL FROM:" ++ text
      let line := CommandLine.parse content
      line.keyword? = some "FROM" ∧ (line.HandsOver "FROM" text ↔ ' ' ∉ text.toList) ∧
      ∀ {W : Type u} (service : Service W) (t : Turn W) (chunks : List (List UInt8)),
        t.AwaitsSender service → chunks.flatten = lineBytes content →
          (lineBytes content).length ≤ maxLineLength →
            let after := t.run service (chunks.map .bytes)
            (' ' ∉ text.toList → TakesSender service line path t after) ∧
            (' ' ∈ text.toList → service.KeepsAt (fun tx _ => tx.envelope.sender) .sender →
              after.transaction.envelope.sender ≠ some path)) ∧
    (∀ path, ForwardPath.parse? text = some path →
      let content := "RCPT TO:" ++ text
      let line := CommandLine.parse content
      line.keyword? = some "TO" ∧ (line.HandsOver "TO" text ↔ ' ' ∉ text.toList) ∧
      ∀ {W : Type u} (service : Service W) (t : Turn W) (chunks : List (List UInt8)),
        t.AwaitsRecipient service → chunks.flatten = lineBytes content →
          (lineBytes content).length ≤ maxLineLength →
            let after := t.run service (chunks.map .bytes)
            (' ' ∉ text.toList → TakesRecipient service line path t after) ∧
            (' ' ∈ text.toList →
              (∀ candidate,
                service.KeepsAt (fun tx _ => tx.envelope.recipients) (.recipient candidate)) →
                after.transaction.envelope.recipients ≠
                  t.transaction.envelope.recipients ++ [path])) := by
  constructor
  · intro path hparse content line
    have hplain := ReversePath.parse?_isPlain hparse
    have hcontent : content = "MAIL" ++ " " ++ ("FROM" ++ ":" ++ text) := by
      simp [content, ← String.toList_inj]
    obtain ⟨found, hreads⟩ := CommandLine.readsPath hcontent (by decide) (by decide) (by decide)
      hplain
    have hverb : line.verb? = some .mail := hreads.verb.trans (by decide)
    have hunbroken : IsUnbroken content :=
      isUnbroken_append.mpr ⟨by decide, isUnbroken_of_isPlain hplain⟩
    refine ⟨hreads.keyword.trans (by decide), hreads.handsOver_iff (by decide), ?_⟩
    intro W service t chunks hawaits hchunks hfits after
    have hafter : after = ((t.countRead (lineBytes content).length).note (.command line)).mail
        service line := run_command hawaits.phase hunbroken hfits hchunks hverb
    rw [hafter]
    exact ⟨fun hspace => takesSender_of_countRead
        ((hawaits.countRead _).takes hreads hparse hspace),
      fun hspace hkeeps => (hawaits.countRead _).misses hreads hparse hspace hkeeps⟩
  · intro path hparse content line
    have hplain := ForwardPath.parse?_isPlain hparse
    have hcontent : content = "RCPT" ++ " " ++ ("TO" ++ ":" ++ text) := by
      simp [content, ← String.toList_inj]
    obtain ⟨found, hreads⟩ := CommandLine.readsPath hcontent (by decide) (by decide) (by decide)
      hplain
    have hverb : line.verb? = some .rcpt := hreads.verb.trans (by decide)
    have hunbroken : IsUnbroken content :=
      isUnbroken_append.mpr ⟨by decide, isUnbroken_of_isPlain hplain⟩
    refine ⟨hreads.keyword.trans (by decide), hreads.handsOver_iff (by decide), ?_⟩
    intro W service t chunks hawaits hchunks hfits after
    have hafter : after = ((t.countRead (lineBytes content).length).note (.command line)).rcpt
        service line := run_command hawaits.phase hunbroken hfits hchunks hverb
    rw [hafter]
    exact ⟨fun hspace => takesRecipient_of_countRead
        ((hawaits.countRead _).takes hreads hparse hspace),
      fun hspace hkeeps => (hawaits.countRead _).misses hreads hparse hspace hkeeps⟩

theorem path_on_line_colons :
    let text := "<\"a:b\"@[IPv6:::1]>"
    let named := Sample.start.run Sample.service [.bytes (lineBytes "HELO c")]
    let sent := named.run Sample.service [.bytes (lineBytes ("MAIL FROM:" ++ text))]
    let received := sent.run Sample.service [.bytes (lineBytes ("RCPT TO:" ++ text))]
    sent.transaction.envelope.sender = some (.path ⟨[], "\"a:b\"", .v6 "::1"⟩) ∧
      received.transaction.envelope.recipients = [.path ⟨[], "\"a:b\"", .v6 "::1"⟩] := by
  intro text named sent received
  obtain ⟨hsenders, hrecipients⟩ := path_on_line text
  obtain ⟨-, -, hsender⟩ := hsenders (.path ⟨[], "\"a:b\"", .v6 "::1"⟩) (by decide +kernel)
  obtain ⟨-, -, hrecipient⟩ := hrecipients (.path ⟨[], "\"a:b\"", .v6 "::1"⟩) (by decide +kernel)
  have hsent := (hsender Sample.service named [lineBytes ("MAIL FROM:" ++ text)]
    ⟨by decide +kernel, by decide +kernel⟩ (by simp) (by decide +kernel)).1 (by decide +kernel)
  have hreceived := (hrecipient Sample.service sent [lineBytes ("RCPT TO:" ++ text)]
    ⟨by decide +kernel, by decide +kernel, by decide +kernel⟩ (by simp) (by decide +kernel)).1
      (by decide +kernel)
  have hempty : sent.transaction.envelope.recipients = [] := by decide +kernel
  have hrecords := (hreceived.recorded ⟨nofun, nofun⟩).1
  rw [hempty] at hrecords
  exact ⟨(hsent.recorded ⟨nofun, nofun⟩).1, hrecords⟩

/-- A quoted local part with a space is a path, and on its line it is cut in two. -/
theorem quoted_path_cut :
    let text := "<\"a b\"@c.example>"
    let line := CommandLine.parse ("MAIL FROM:" ++ text)
    let t := Sample.start.run Sample.service
      [.bytes (lineBytes "HELO c" ++ lineBytes ("MAIL FROM:" ++ text))]
    ReversePath.parse? text = some (.path ⟨[], "\"a b\"", .name "c.example"⟩) ∧
      line.pathArgument? = some "<\"a" ∧ line.esmtpParameters = ["b\"@c.example>"] ∧
      lastReply? t.journal = some ⟨502, "Malformed e-mail address"⟩ ∧
      t.transaction.envelope.sender = none ∧
      ForwardPath.parse? text = some (.path ⟨[], "\"a b\"", .name "c.example"⟩) ∧
      (CommandLine.parse ("RCPT TO:" ++ text)).pathArgument? = some "<\"a" := by
  decide +kernel

end Turn
end MailIntake
