import MailIntake.Proofs.Session.Outstanding
import MailIntake.Proofs.Session.Reads
/-!
The order of the stages on a connection.  Every connection ends with its input, and what it leaves
in the journal is the stage that lets it in, stages of commands and messages, and the stage that
ends it; a connection that is not let in has no others.  In between, recipients, bodies and messages
are looked at in the order in which a client comes to them (`run_stages_ordered`).
-/
namespace MailIntake

universe u

variable {W : Type u}

/-- What may happen between the first and the last stage. -/
def Event.Between : Event → Prop
  | .stage place _ => place.Inner
  | .command _ | .overlong | .checked _ _ _ | .authenticated _ _ _ | .replied _ => True

/-- The journal of a connection up to the end of its first stage. -/
def Entered (service : Service W) (refusal : Option Refusal) (journal : List Event) : Prop :=
  ∃ checks tx, journal = checks ++ [.stage .connection tx] ∧
    Ran .connection (service.pipelines.checkers .connection) refusal checks

/-- The journal of a connection that has been let in, and of what has happened since. -/
def Served (service : Service W) (journal : List Event) : Prop :=
  ∃ newer older, journal = newer ++ older ∧ Script service Event.Between newer ∧
    Entered service none older

theorem served_append {service : Service W} {newer older : List Event}
    (hnewer : Script service Event.Between newer) (holder : Served service older) :
    Served service (newer ++ older) := by
  obtain ⟨later, first, rfl, hscript, hentered⟩ := holder
  exact ⟨newer ++ later, first, (List.append_assoc _ _ _).symm, hnewer.append hscript, hentered⟩

/-- The journal of a connection before its last stage, the flag being whether its first stage has
run: the opening handshake failed, the first stage turned the client away, or the client was
served. -/
inductive Unfinished (service : Service W) : Bool → List Event → Prop
  | unopened : Unfinished service false []
  | turnedAway {entered : List Event} (r : Refusal)
      (hentered : Entered service (some r) entered) :
      Unfinished service true (.replied ⟨r.code, r.message⟩ :: entered)
  | served {journal : List Event} (hserved : Served service journal) :
      Unfinished service true journal

/-- The journal of a connection that has ended: its last stage has run, and nothing else since. -/
def Course (service : Service W) (entered : Bool) (journal : List Event) : Prop :=
  ∃ checks tx refusal earlier, journal = checks ++ .stage .close tx :: earlier ∧
    Ran .close (service.pipelines.checkers .close) refusal checks ∧
    Unfinished service entered earlier

/-- Whether the first thing to happen, bytes aside, is a handshake that is completed. -/
def completes : List Signal → Bool
  | .byte _ :: more => completes more
  | .handshake result :: _ => result.isSome
  | .ended :: _ | .expired :: _ | [] => false

/-- Whether a connection comes to its first stage. -/
def opens (service : Service W) (signals : List Signal) : Bool :=
  !(service.settings.implicitTls && service.offersTls) || completes signals

namespace Turn

variable {service : Service W} {t after : Turn W}

/-- The journal of a connection on which a message is handed on: all that has happened since its
body was looked at is that every checker who looked at it let it pass. -/
def BehindData (service : Service W) (journal : List Event) : Prop :=
  ∃ checks tx earlier, journal = checks ++ .stage .data tx :: earlier ∧
    Ran .data (service.pipelines.checkers .data) none checks

/-- How far a connection that is past its opening has come, the flag being whether its first stage
has run. -/
inductive CourseSoFar (service : Service W) (t : Turn W) : Bool → Prop
  | talking (htalking : t.Talking) (hserved : Served service t.journal) : CourseSoFar service t true
  | finished {entered : Bool} (hphase : t.phase = .closed)
      (hcourse : Course service entered t.journal) : CourseSoFar service t entered

theorem CourseSoFar.course {entered : Bool} (hcourses : CourseSoFar service t entered)
    (hclosed : t.phase = .closed) : Course service entered t.journal := by
  cases hcourses with
  | talking htalking hserved => exact absurd hclosed htalking.2
  | finished hphase hcourse => exact hcourse

/-- The last stage runs. -/
theorem courseSoFar_close {entered : Bool} (hunfinished : Unfinished service entered t.journal) :
    CourseSoFar service (t.close service) entered := by
  cases hrun : t.runStage service .close with
  | mk after refusal =>
      obtain ⟨checks, hran, hjournal⟩ := ran_of_runStage hrun
      have hclosed := close_eq service t hrun
      refine .finished close_phase
        ⟨checks, t.transaction, refusal, t.journal, ?_, hran, hunfinished⟩
      rw [hclosed]
      exact hjournal

/-- The first stage runs. -/
theorem Begun.courseSoFar (hjournal : t.journal = []) (hbegun : Begun service t after) :
    CourseSoFar service after true := by
  have hlooked : (t.lookUpNames service).journal = [] := hjournal
  cases hbegun with
  | refused mid r hrun =>
      obtain ⟨checks, hran, hmid⟩ := ran_of_runStage hrun
      rw [hlooked] at hmid
      refine courseSoFar_close ?_
      rw [replyRefusal_eq, reply_journal]
      exact .turnedAway r ⟨checks, _, hmid, hran⟩
  | greeted mid hrun =>
      obtain ⟨checks, hran, hmid⟩ := ran_of_runStage hrun
      rw [hlooked] at hmid
      have hgreeting : Script service Event.Between
          [.replied ⟨220, service.hostname ++ " " ++ service.settings.banner⟩] :=
        .replied _ trivial .nil
      refine .talking (by simp [Talking]) ?_
      exact served_append hgreeting ⟨[], mid.journal, rfl, .nil, checks, _, hmid, hran⟩

theorem Exchanged.script (hexchanged : Exchanged service t after) :
    ∃ newer, after.journal = newer ++ t.journal ∧ Script service Event.Between newer := by
  have hjudged : ∀ (reply : Reply) username password refusal, Script service Event.Between
      [.replied reply, .authenticated username password refusal] :=
    fun reply username password refusal =>
      .replied reply trivial (.other _ (by simp [Event.OfStage]) trivial .nil)
  cases hexchanged with
  | refused cost code message hcode =>
      exact ⟨[.replied ⟨code, message⟩], rfl, .replied _ trivial .nil⟩
  | challenged step =>
      exact ⟨[.replied ⟨334, _⟩], challenge_journal _ _, .replied _ trivial .nil⟩
  | rejected authenticator username password r hauthenticator hverdict =>
      exact ⟨_, rfl, hjudged ⟨r.code, r.message⟩ username password _⟩
  | accepted authenticator username password hauthenticator hverdict =>
      exact ⟨_, rfl, hjudged ⟨235, _⟩ username password _⟩

/-- A look that shows nothing. -/
theorem sees_nothing (service : Service W) : service.Sees fun _ => () :=
  ⟨fun _ _ _ => rfl, fun _ _ _ _ => rfl, fun _ _ _ => rfl, fun _ _ _ _ _ => rfl⟩

theorem Stays.served (hstays : Stays service (fun _ => ()) t after)
    (hserved : Served service t.journal) : Served service after.journal := by
  obtain ⟨newer, hnewer, hscript⟩ := hstays.journal
  rw [hnewer]
  refine served_append (hscript.mono ?_) hserved
  intro e he
  cases e with
  | stage stage tx => exact he.1
  | command | overlong | checked | authenticated | replied => trivial

theorem Exchanged.talking (hexchanged : Exchanged service t after) : after.Talking := by
  cases hexchanged with
  | refused | rejected | accepted => simp [Talking]
  | challenged step => simp [Talking]

/-- A connection that is past its opening goes on in its course. -/
theorem Proceeds.courseSoFar {entered : Bool} (hproceeds : Proceeds service (fun _ => ()) t after)
    (hcourses : CourseSoFar service t entered) : CourseSoFar service after entered := by
  cases hcourses with
  | finished hclosed hcourse =>
      cases hproceeds with
      | still htransaction hjournal hphase =>
          exact .finished (hphase.closed.mpr hclosed) (hjournal ▸ hcourse)
      | on htalking hstays hphase => exact absurd hclosed htalking.2
      | left htalking hstays => exact absurd hclosed htalking.2
      | exchanged hstays htransaction hworld hphase hexchanged => simp [hclosed] at hphase
      | failed hphase hpeer hjournal => simp [hclosed] at hphase
      | begun h hphase hbegun => simp [hclosed] at hphase
      | upgraded h hphase => simp [hclosed] at hphase
  | talking htalking hserved =>
      cases hproceeds with
      | still htransaction hjournal hphase =>
          refine .talking ⟨?_, ?_⟩ (hjournal ▸ hserved)
          · exact fun h => htalking.1 (hphase.opening.mp h)
          · exact fun h => htalking.2 (hphase.closed.mp h)
      | on htalking hstays hphase =>
          refine .talking ?_ (hstays.served hserved)
          rcases hphase with ⟨reader, h⟩ | ⟨d, h⟩ | ⟨h, -⟩
          · simp [Talking, h]
          · simp [Talking, h]
          · simp [Talking, h]
      | left htalking hstays => exact courseSoFar_close (.served (hstays.served hserved))
      | exchanged hstays htransaction hworld hphase hexchanged =>
          obtain ⟨newer, hnewer, hscript⟩ := hexchanged.script
          refine .talking hexchanged.talking ?_
          rw [hnewer]
          exact served_append hscript (hstays.served hserved)
      | failed hphase hpeer hjournal => exact absurd hphase htalking.1
      | begun h hphase hbegun => exact absurd hphase htalking.1
      | upgraded h hphase => exact .talking (by simp [Talking, Turn.upgraded]) hserved

theorem heedAll_cons (signal : Signal) (more : List Signal) :
    t.heedAll service (signal :: more) = (t.heed service signal).heedAll service more := rfl

theorem heedAll_courseSoFar {entered : Bool} (signals : List Signal)
    (hcourses : CourseSoFar service t entered) :
    CourseSoFar service (t.heedAll service signals) entered :=
  heedAll_induction
    (fun _ _ _ hmove h => (hmove.proceeds (sees_nothing service)).courseSoFar h) signals hcourses

/-- A connection that opens with a handshake comes to its first stage if the handshake is
completed. -/
theorem heedAll_courseSoFar_of_opening (signals : List Signal) (hphase : t.phase = .opening)
    (hjournal : t.journal = []) (hended : .ended ∈ signals) :
    CourseSoFar service (t.heedAll service signals) (completes signals) := by
  have hfailed : ∀ told : Turn W, told.journal = [] →
      CourseSoFar service (told.close service) false :=
    fun told htold => courseSoFar_close (htold ▸ .unopened)
  induction signals with
  | nil => cases hended
  | cons signal more ih =>
      cases signal with
      | byte b =>
          have hunheard : t.heed service (.byte b) = t := by simp [heed, takeByte, hphase]
          have hmore : .ended ∈ more := by simpa using hended
          rw [heedAll_cons, hunheard]
          exact ih hmore
      | handshake result =>
          cases result with
          | none =>
              have hheed : t.heed service (.handshake none) =
                  (t.penalize Karma.handshakeFailed).close service := by
                simp [heed, endHandshake, hphase]
              rw [heedAll_cons, hheed]
              exact heedAll_courseSoFar more (hfailed (t.penalize _) hjournal)
          | some h =>
              have hheed : t.heed service (.handshake (some h)) = (t.encrypt h).begin service := by
                simp [heed, endHandshake, hphase]
              rw [heedAll_cons, hheed]
              exact heedAll_courseSoFar more
                (Begun.courseSoFar (t := t.encrypt h) hjournal (begin_begun service _))
      | ended =>
          have hheed : t.heed service .ended =
              (t.penalize Karma.handshakeFailed).close service := by
            simp [heed, endInput, endHandshake, hphase]
          rw [heedAll_cons, hheed]
          exact heedAll_courseSoFar more (hfailed (t.penalize _) hjournal)
      | expired =>
          have hheed : t.heed service .expired = t.close service := by
            simp [heed, expire, hphase]
          rw [heedAll_cons, hheed]
          exact heedAll_courseSoFar more (hfailed t hjournal)

/-- Every connection that ends with its input has run its course. -/
theorem course_of_ended (tx : Transaction) (world : W) {signals : List Signal}
    (hended : .ended ∈ signals)
    (hclosed : ((start service tx world).heedAll service signals).phase = .closed) :
    Course service (opens service signals)
      ((start service tx world).heedAll service signals).journal := by
  have hcourses : CourseSoFar service ((start service tx world).heedAll service signals)
      (opens service signals) := by
    by_cases himplicit : service.settings.implicitTls ∧ service.offersTls
    · have hopens : opens service signals = completes signals := by simp [opens, himplicit]
      rw [start, if_pos himplicit, hopens]
      exact heedAll_courseSoFar_of_opening signals rfl rfl hended
    · have hopens : opens service signals = true := by
        simp only [opens, Bool.or_eq_true, Bool.not_eq_true', Bool.and_eq_false_imp]
        exact .inl fun h => by simpa [h] using himplicit
      rw [start, if_neg himplicit, hopens]
      exact heedAll_courseSoFar signals ((begin_begun service _).courseSoFar rfl)
  exact hcourses.course hclosed

/-- Wherever a message is handed on, its body has just passed. -/
theorem Move.behindData {signal : Signal} (hmove : Move service t signal after)
    (heach : EachStart .handler (fun _ => BehindData service) t.journal) :
    EachStart .handler (fun _ => BehindData service) after.journal := by
  refine hmove.eachHandler ?_ heach
  intro d body judged hphase hdata
  obtain ⟨checks, hran, hjudged⟩ := ran_of_runStage hdata
  exact ⟨checks, _, _, hjudged, hran⟩

/-- Where the message at hand has been looked at.  It had a sender wherever a recipient was asked
about, and a recipient wherever a body was looked at; and they had passed if the checkers that are
asked before there is a body are honest. -/
structure Tracked (service : Service W) (t : Turn W) : Prop where
  progressing : ∀ counting, service.Honest counting → Progressing service counting t
  addressed : ∀ d, t.phase = .body d → t.transaction.Addressed
  recipients : ∀ candidate, EachStart (.recipient candidate) (fun tx older =>
    tx.envelope.sender.isSome ∧ (service.Honest false → BehindMail service older)) t.journal
  bodies : ∀ begun ∈ dataStarts t.journal, begun.1.Addressed ∧
    (service.Honest true → BehindRecipient service begun.2)

theorem Tracked.move {signal : Signal} (htracked : Tracked service t)
    (hmove : Move service t signal after) : Tracked service after where
  progressing counting hhonest :=
    hmove.progressing hhonest (htracked.progressing counting hhonest)
  addressed d hphase := hmove.addressed htracked.addressed hphase
  recipients candidate := by
    refine hmove.eachRecipient ?_ (htracked.recipients candidate)
    intro reader line hphase hverb hsender
    refine ⟨hsender, fun hhonest => ?_⟩
    have hbacked := (progressing_command hphase).mp (htracked.progressing false hhonest)
    obtain ⟨received, houtstanding, -⟩ := hbacked.outstanding hsender
    exact ⟨t.journal, line, received, rfl, hverb, houtstanding⟩
  bodies := by
    refine hmove.eachBody ?_ htracked.bodies
    intro d body hphase
    refine ⟨htracked.addressed d hphase, fun hhonest => ?_⟩
    have hprogressing := htracked.progressing true hhonest
    rw [Progressing, hphase] at hprogressing
    exact hprogressing rfl

section Run

variable (service) (id : TransactionId) (serverHostname : String)
  (localAddr remoteAddr : Address.Endpoint) (world : W)

theorem start_progressing (counting : Bool) (hhonest : service.Honest counting) :
    Progressing service counting
      (start service (.start id serverHostname localAddr remoteAddr) world) := by
  rw [start]
  split
  · exact ⟨rfl, fun _ => rfl⟩
  · exact Begun.progressing hhonest ⟨rfl, fun _ => rfl⟩ (begin_begun service _)

theorem start_eachRecipient (candidate : ForwardPath)
    (holds : Transaction → List Event → Prop) :
    EachStart (.recipient candidate) holds
      (start service (.start id serverHostname localAddr remoteAddr) world).journal := by
  rw [start]
  split
  · trivial
  · exact (begin_begun service _).eachRecipient trivial

theorem start_tracked :
    Tracked service (start service (.start id serverHostname localAddr remoteAddr) world) where
  progressing := start_progressing service id serverHostname localAddr remoteAddr world
  addressed d hphase := absurd hphase (start_phase_ne service world _ d)
  recipients candidate :=
    start_eachRecipient service id serverHostname localAddr remoteAddr world candidate _
  bodies := by
    rw [dataStarts_start]
    exact List.forall_mem_nil _

/-- Every connection ends with its input, and its stages come in one order.  The stage that lets it
in is the first and the one that ends it the last, each of them once; a connection that is not let
in has no others, and one whose handshake fails has only the last.  A message is handed on right
behind the checkers who looked at its body and let it pass.  Recipients are asked about only if
there is a sender; a MAIL is outstanding then whose sender passed, unless a checker makes up a
sender before there is a body.  Bodies are looked at only if there are recipients; one has passed
then since the MAIL that is outstanding, unless a checker makes up a sender or recipients before
there is a body, or takes a sender away. -/
theorem run_stages_ordered (inputs : List Input) :
    let t := (start service (.start id serverHostname localAddr remoteAddr) world).run service
      (inputs ++ [.ended])
    t.phase = .closed ∧
      Course service (opens service ((inputs ++ [Input.ended]).flatMap Input.signals)) t.journal ∧
      (∀ newer tx older, t.journal = newer ++ .stage .handler tx :: older →
        BehindData service older) ∧
      (∀ newer candidate tx older,
        t.journal = newer ++ .stage (.recipient candidate) tx :: older →
          tx.envelope.sender.isSome ∧ (service.Honest false → BehindMail service older)) ∧
      ∀ newer tx older, t.journal = newer ++ .stage .data tx :: older →
        tx.Addressed ∧ (service.Honest true → BehindRecipient service older) := by
  intro t
  have hsignals : (inputs ++ [Input.ended]).flatMap Input.signals =
      inputs.flatMap Input.signals ++ [.ended] := List.flatMap_append
  have hrun : t = (start service (.start id serverHostname localAddr remoteAddr) world).heedAll
      service (inputs.flatMap Input.signals ++ [.ended]) := by
    rw [← hsignals]
    exact run_eq_heedAll service _ _
  have hclosed : t.phase = .closed := by
    rw [hrun, heedAll_append]
    exact endInput_phase service _
  have htracked : Tracked service t :=
    run_induction (fun _ _ _ hmove h => h.move hmove) (inputs ++ [.ended])
      (start_tracked service id serverHostname localAddr remoteAddr world)
  refine ⟨hclosed, ?_, ?_, ?_, ?_⟩
  · rw [hsignals, hrun]
    exact course_of_ended _ world (by simp) (hrun ▸ hclosed)
  · intro newer tx older hjournal
    have heach : EachStart .handler (fun _ => BehindData service) t.journal := run_induction
      (motive := fun t => EachStart .handler (fun _ => BehindData service) t.journal)
      (fun _ _ _ hmove h => hmove.behindData h) (inputs ++ [.ended])
      (start_eachStart service (.inr rfl) _ _ world)
    rw [hjournal] at heach
    exact heach.at_start
  · intro newer candidate tx older hjournal
    have heach := htracked.recipients candidate
    rw [hjournal] at heach
    exact heach.at_start
  · intro newer tx older hjournal
    exact htracked.bodies (tx, older) (mem_dataStarts_iff.mpr ⟨newer, hjournal⟩)

end Run

theorem run_stages_ordered_letter :
    let t := Sample.start.run Sample.service [.bytes (Sample.opening ++ Sample.letter), .ended]
    t.phase = .closed ∧ Course Sample.service true t.journal ∧
      (∃ newer tx older, t.journal = newer ++ .stage .handler tx :: older ∧
        BehindData Sample.service older) ∧
      (∃ newer candidate tx older, t.journal = newer ++ .stage (.recipient candidate) tx :: older ∧
        BehindMail Sample.service older) ∧
      ∃ newer tx older, t.journal = newer ++ .stage .data tx :: older ∧
        BehindRecipient Sample.service older := by
  intro t
  have hhonest : ∀ counting, Sample.service.Honest counting :=
    fun counting => (Sample.service_keeps _).honest counting
  obtain ⟨hphase, hcourse, hhandler, hrecipient, hdata⟩ := run_stages_ordered Sample.service ⟨1⟩
    "mx" Sample.place Sample.place Sample.office [.bytes (Sample.opening ++ Sample.letter)]
  have hnamed : (ForwardPath.parse? "<b@c>").any fun candidate =>
      t.journal.any (Event.starts (.recipient candidate)) := by
    decide +kernel
  obtain ⟨candidate, hcandidate⟩ : ∃ candidate, ForwardPath.parse? "<b@c>" = some candidate :=
    Option.isSome_iff_exists.mp (by decide +kernel)
  rw [hcandidate, Option.any_some] at hnamed
  obtain ⟨newer, tx, older, hjournal⟩ := exists_eq_append_of_starts hnamed
  have hhanded : t.journal.any (Event.starts .handler) := by decide +kernel
  obtain ⟨newerHanded, handed, olderHanded, hhandedJournal⟩ := exists_eq_append_of_starts hhanded
  have hheld : t.journal.any (Event.starts .data) := by decide +kernel
  obtain ⟨newerHeld, held, olderHeld, hheldJournal⟩ := exists_eq_append_of_starts hheld
  exact ⟨hphase, hcourse,
    ⟨newerHanded, handed, olderHanded, hhandedJournal, hhandler _ _ _ hhandedJournal⟩,
    ⟨newer, candidate, tx, older, hjournal, (hrecipient _ _ _ _ hjournal).2 (hhonest false)⟩,
    ⟨newerHeld, held, olderHeld, hheldJournal, (hdata _ _ _ hheldJournal).2 (hhonest true)⟩⟩

end Turn

namespace Sample

/-- A checker that changes the envelope. -/
def edit (change : Envelope → Envelope) : Checker Office := fun tx office =>
  { transaction := { tx with envelope := change tx.envelope }
    world := office
    refusal := none }

/-- A service that makes up a sender for everyone who connects. -/
def presuming : Service Office :=
  { hostname  := "mx"
    pipelines := { connection := [edit fun e => { e with sender := some .null }] } }

/-- A service that makes up a recipient for every sender. -/
def generous : Service Office :=
  { hostname  := "mx"
    pipelines := { sender := [edit fun e => { e with recipients := [.postmaster] }] } }

/-- A service that takes the sender away when a recipient is named. -/
def distracted : Service Office :=
  { hostname  := "mx"
    pipelines := { recipient := [fun _ => edit fun e => { e with sender := none }] } }

/-- What a client that sends some lines leaves in the journal. -/
def journalOf (service : Service Office) (lines : String) : List Event :=
  ((Turn.start service (.start ⟨1⟩ "mx" place place) office).run service
    [.bytes (Text.Utf8.encode lines), .ended]).journal

end Sample

namespace Turn

/-- Checkers that edit the envelope get stages out of their order: a recipient is asked about
without a MAIL, a body is looked at though no recipient was named, and a body is looked at though
its recipients were named for an earlier MAIL. -/
theorem stages_out_of_order :
    (∃ newer candidate tx older, Sample.journalOf Sample.presuming "RCPT TO:<b@c>\r\n" =
      newer ++ .stage (.recipient candidate) tx :: older ∧ ¬ BehindMail Sample.presuming older) ∧
    (∃ newer tx older, Sample.journalOf Sample.generous
        "HELO c\r\nMAIL FROM:<>\r\nDATA\r\nhi\r\n.\r\n" =
      newer ++ .stage .data tx :: older ∧ ¬ BehindRecipient Sample.generous older) ∧
    ∃ newer tx older, Sample.journalOf Sample.distracted
        "HELO c\r\nMAIL FROM:<>\r\nRCPT TO:<b@c>\r\nMAIL FROM:<>\r\nDATA\r\nhi\r\n.\r\n" =
      newer ++ .stage .data tx :: older ∧ ¬ BehindRecipient Sample.distracted older := by
  refine ⟨?_, ?_, ?_⟩
  · obtain ⟨candidate, hcandidate⟩ : ∃ candidate, ForwardPath.parse? "<b@c>" = some candidate :=
      Option.isSome_iff_exists.mp (by decide +kernel)
    have hasked : (ForwardPath.parse? "<b@c>").any fun candidate =>
        (Sample.journalOf Sample.presuming "RCPT TO:<b@c>\r\n")[2]?.any
          (Event.starts (.recipient candidate)) := by
      decide +kernel
    rw [hcandidate, Option.any_some] at hasked
    obtain ⟨tx, hjournal⟩ := exists_eq_append_of_starts_at hasked
    refine ⟨_, candidate, tx, _, hjournal, not_behindMail_of_first ?_⟩
    exact List.isEmpty_iff.mp (by decide +kernel)
  · have hlooked : (Sample.journalOf Sample.generous
        "HELO c\r\nMAIL FROM:<>\r\nDATA\r\nhi\r\n.\r\n")[3]?.any (Event.starts .data) := by
      decide +kernel
    obtain ⟨tx, hjournal⟩ := exists_eq_append_of_starts_at hlooked
    exact ⟨_, tx, _, hjournal, not_behindRecipient_of_mail (by decide +kernel)⟩
  · have hlooked : (Sample.journalOf Sample.distracted
        "HELO c\r\nMAIL FROM:<>\r\nRCPT TO:<b@c>\r\nMAIL FROM:<>\r\nDATA\r\nhi\r\n.\r\n")[3]?.any
          (Event.starts .data) := by
      decide +kernel
    obtain ⟨tx, hjournal⟩ := exists_eq_append_of_starts_at hlooked
    exact ⟨_, tx, _, hjournal, not_behindRecipient_of_mail (by decide +kernel)⟩

end Turn
end MailIntake
