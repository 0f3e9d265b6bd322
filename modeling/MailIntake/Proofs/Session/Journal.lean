import MailIntake.Proofs.Session.Move
/-!
What happens outside a stage of messages.  A reading of the journal shows what one stage wrote down,
and a view shows the identifier of a transaction and the world; with the count of messages they make
an aspect of a turn.  No signal changes it but the last byte of a body (`Move.aspect`).  With the
stage that looks at bodies it says when they are looked at (`Move.dataStarts`).
-/
namespace MailIntake

universe u v w

variable {W : Type u} {A : Type v} {B : Type w}

/-- The stages at which a message is looked at and taken over. -/
def Stage.OfMessage (stage : Stage) : Prop :=
  stage = .data ∨ stage = .handler

/-- What a stage writes down: that it began, or what a checker of it said. -/
def Event.OfStage (stage : Stage) (e : Event) : Prop :=
  (∃ tx, e = .stage stage tx) ∨ ∃ place answer, e = .checked stage place answer

theorem Stage.OfMessage.ne {stage other : Stage} (hstage : stage.OfMessage)
    (hother : ¬ other.OfMessage) : other ≠ stage := by
  rintro rfl
  exact hother hstage

theorem Event.OfStage.unique {stage other : Stage} {e : Event} (he : e.OfStage stage)
    (hother : e.OfStage other) : stage = other := by
  rcases he with ⟨tx, rfl⟩ | ⟨place, answer, rfl⟩
  · rcases hother with ⟨tx', h⟩ | ⟨place, answer, h⟩
    · cases h
      rfl
    · cases h
  · rcases hother with ⟨tx, h⟩ | ⟨place', answer', h⟩
    · cases h
    · cases h
      rfl

/-- A way to read journals that shows nothing but what one stage wrote down. -/
structure Reading (stage : Stage) (A : Type v) where
  read : List Event → A
  skips : ∀ e older, ¬ e.OfStage stage → read (e :: older) = read older

namespace Reading

variable {stage : Stage} (reading : Reading stage A) (older : List Event)

@[simp]
theorem read_replied (reply : Reply) :
    reading.read (.replied reply :: older) = reading.read older :=
  reading.skips _ _ (by simp [Event.OfStage])

@[simp]
theorem read_command (line : CommandLine) :
    reading.read (.command line :: older) = reading.read older :=
  reading.skips _ _ (by simp [Event.OfStage])

@[simp]
theorem read_overlong : reading.read (.overlong :: older) = reading.read older :=
  reading.skips _ _ (by simp [Event.OfStage])

@[simp]
theorem read_authenticated (username password : String) (refusal : Option Refusal) :
    reading.read (.authenticated username password refusal :: older) = reading.read older :=
  reading.skips _ _ (by simp [Event.OfStage])

theorem read_append {newer : List Event} (hnewer : ∀ e ∈ newer, ¬ e.OfStage stage) :
    reading.read (newer ++ older) = reading.read older := by
  induction newer with
  | nil => rfl
  | cons e newer ih =>
      rw [List.cons_append, reading.skips e _ (hnewer e List.mem_cons_self)]
      exact ih fun other hmem => hnewer other (List.mem_cons_of_mem e hmem)

end Reading

/-- The authenticator and the checkers of all other stages keep a view. -/
structure Service.KeepsBeside (service : Service W) (stage : Stage)
    (view : Transaction → W → B) : Prop where
  stages : ∀ other, other ≠ stage → service.KeepsAt view other
  authenticator : service.AuthenticatorKeeps view

/-- Where everything is kept, it is kept beside any stage. -/
theorem Service.keepsBeside_const (service : Service W) (stage : Stage) (b : B) :
    service.KeepsBeside stage fun _ _ => b where
  stages _ _ _ _ _ _ := rfl
  authenticator _ _ _ _ _ _ := rfl

namespace Transaction

variable (tx : Transaction)

@[simp]
theorem reward_id (amount : Int) : (tx.reward amount).shared.id = tx.shared.id := by
  rw [reward, withMetadata]

@[simp]
theorem penalize_id (amount : Int) : (tx.penalize amount).shared.id = tx.shared.id := by
  rw [penalize, withMetadata]

@[simp]
theorem resetEnvelope_id : tx.resetEnvelope.shared.id = tx.shared.id := by
  rw [resetEnvelope]

@[simp]
theorem setBody_id (body : List UInt8) : (tx.setBody body).shared.id = tx.shared.id := by
  rw [setBody]

@[simp]
theorem finish_id : tx.finish.id = tx.shared.id := by
  rw [finish]

end Transaction

namespace Turn

variable {service : Service W} {t after : Turn W} {refusal : Option Refusal}

/-- What a stage adds to the journal. -/
theorem newer_of_runStage {stage : Stage} (hrun : t.runStage service stage = (after, refusal)) :
    ∃ newer, after.journal = newer ++ t.journal ∧ ∀ e ∈ newer, e.OfStage stage := by
  obtain ⟨checks, hchecks, hjournal⟩ := journal_of_runStage hrun
  refine ⟨checks ++ [.stage stage t.transaction], by simp [hjournal], ?_⟩
  intro e he
  rcases List.mem_append.mp he with hcheck | hstage
  · exact .inr (hchecks.eq_checked hcheck)
  · exact .inl ⟨t.transaction, List.mem_singleton.mp hstage⟩

section Aspect

variable {stage : Stage} (reading : Reading stage A) (view : TransactionId → W → B)

/-- What a reading, a view and the count of messages show of a turn. -/
def aspect (t : Turn W) : A × B × Nat :=
  (reading.read t.journal, view t.transaction.shared.id t.world, t.tally.messages)

/-- An aspect depends on nothing else. -/
theorem aspect_eq {before after : Turn W}
    (hjournal : reading.read after.journal = reading.read before.journal)
    (hid : after.transaction.shared.id = before.transaction.shared.id)
    (hworld : after.world = before.world)
    (hmessages : after.tally.messages = before.tally.messages) :
    after.aspect reading view = before.aspect reading view := by
  rw [aspect, aspect, hjournal, hid, hworld, hmessages]

@[simp]
theorem aspect_reply (t : Turn W) (code : UInt16) (message : String) :
    (t.reply code message).aspect reading view = t.aspect reading view :=
  aspect_eq reading view (by simp) (by simp) (by simp) (by simp)

@[simp]
theorem aspect_mapTransaction (t : Turn W) {f : Transaction → Transaction}
    (hid : ∀ tx, (f tx).shared.id = tx.shared.id) :
    (t.mapTransaction f).aspect reading view = t.aspect reading view :=
  aspect_eq reading view rfl (hid t.transaction) rfl rfl

@[simp]
theorem aspect_countRead (t : Turn W) (bytes : Nat) :
    (t.countRead bytes).aspect reading view = t.aspect reading view := rfl

@[simp]
theorem aspect_countCommand (t : Turn W) :
    t.countCommand.aspect reading view = t.aspect reading view := rfl

@[simp]
theorem aspect_inPhase (t : Turn W) (phase : Phase) :
    (t.inPhase phase).aspect reading view = t.aspect reading view := rfl

@[simp]
theorem aspect_awaitCommand (t : Turn W) :
    t.awaitCommand.aspect reading view = t.aspect reading view := rfl

@[simp]
theorem aspect_conclude (t : Turn W) :
    t.conclude.aspect reading view = t.aspect reading view := rfl

@[simp]
theorem aspect_challenge (t : Turn W) (step : AuthStep) :
    (t.challenge step).aspect reading view = t.aspect reading view :=
  aspect_eq reading view (by simp) (by simp) (by simp) (by simp)

@[simp]
theorem aspect_moveTo (t : Turn W) (attributes : XClientAttributes) :
    (t.moveTo service attributes).aspect reading view = t.aspect reading view := by
  rw [moveTo]
  split
  · simp [lookUpNames]
  · rfl

variable (hstage : stage.OfMessage)
  (hkeeps : service.KeepsBeside stage fun tx world => view tx.shared.id world)

include hkeeps in
/-- Another stage. -/
theorem aspect_of_runStage {other : Stage} (hother : other ≠ stage)
    (hrun : t.runStage service other = (after, refusal)) :
    after.aspect reading view = t.aspect reading view := by
  obtain ⟨newer, hnewer, hevents⟩ := newer_of_runStage hrun
  have hread : reading.read after.journal = reading.read t.journal := by
    rw [hnewer]
    refine reading.read_append _ ?_
    intro e he hof
    exact hother ((hevents e he).unique hof)
  have hseen := seen_of_runStage (hkeeps.stages other hother) hrun
  rw [aspect, aspect, hread, hseen, (leaves_of_runStage hrun).tally]

include hstage hkeeps

/-- A stage at which there is no message. -/
theorem aspect_of_other {other : Stage} (hother : ¬ other.OfMessage)
    (hrun : t.runStage service other = (after, refusal)) :
    after.aspect reading view = t.aspect reading view :=
  aspect_of_runStage reading view hkeeps (hstage.ne hother) hrun

theorem aspect_close (t : Turn W) :
    (t.close service).aspect reading view = t.aspect reading view := by
  cases hrun : t.runStage service .close with
  | mk after refusal =>
      rw [close_eq service t hrun]
      simpa using aspect_of_other reading view hstage hkeeps (by simp [Stage.OfMessage]) hrun

omit hstage in
theorem Exchanged.aspect (hexchanged : Exchanged service t after) :
    after.aspect reading view = t.aspect reading view := by
  have hasked : ∀ authenticator username password, service.authenticator = some authenticator →
      (t.questioned authenticator username password).aspect reading view =
        t.aspect reading view := by
    intro authenticator username password hauthenticator
    have hseen := hkeeps.authenticator authenticator hauthenticator username password
      t.transaction t.world
    simp only [Turn.aspect, questioned_journal, Reading.read_authenticated,
      questioned_transaction, questioned_world, questioned_messages, hseen]
  cases hexchanged with
  | refused cost code message hcode => simp
  | challenged step => simp
  | rejected authenticator username password r hauthenticator hverdict =>
      simpa using hasked authenticator username password hauthenticator
  | accepted authenticator username password hauthenticator hverdict =>
      simpa [signIn] using hasked authenticator username password hauthenticator

theorem Handled.aspect {line : CommandLine} (hhandled : Handled service line t after) :
    after.aspect reading view = t.aspect reading view := by
  have hother : ∀ {other : Stage} {before mid : Turn W} {refusal : Option Refusal},
      ¬ other.OfMessage → before.runStage service other = (mid, refusal) →
        mid.aspect reading view = before.aspect reading view :=
    aspect_of_other reading view hstage hkeeps
  cases hhandled with
  | refused cost code message hcode hverb => simp
  | idle hverb => simp
  | reset hverb => simp
  | greeted protocol name mid hverb hname hrun =>
      simpa [introduce] using hother (by simp [Stage.OfMessage]) hrun
  | greetingRefused protocol name mid r hverb hname hrun =>
      simpa [restoreGreeting, introduce] using hother (by simp [Stage.OfMessage]) hrun
  | senderAccepted path sender mid hverb hobstacle hpath hparse hrun =>
      simpa [setSender] using hother (by simp [Stage.OfMessage]) hrun
  | senderRefused path sender mid r hverb hobstacle hpath hparse hrun =>
      simpa [setSender] using hother (by simp [Stage.OfMessage]) hrun
  | recipientAccepted path recipient mid hverb hsender hroom hpath hparse hrun =>
      rw [← hother (by simp [Stage.OfMessage]) hrun]
      split
      · simp [addRecipient]
      · simp [addRecipient]
  | recipientRefused path recipient mid r hverb hsender hpath hparse hrun =>
      simpa using hother (by simp [Stage.OfMessage]) hrun
  | bodyAwaited hverb hsender hrecipients => simp
  | quit message hverb =>
      rw [aspect_close reading view hstage hkeeps]
      simp
  | handshakeAwaited hverb hplain hoffers => simp
  | auth _ hverb hobstacle hexchanged => exact hexchanged.aspect reading view hkeeps
  | proxied header hverb henabled hfirst hparse => simp [greet, relocate, lookUpNames]
  | xclient attributes hverb henabled hparse => simp [greet]

theorem Begun.aspect (hbegun : Begun service t after) :
    after.aspect reading view = t.aspect reading view := by
  cases hbegun with
  | refused mid r hrun =>
      rw [aspect_close reading view hstage hkeeps]
      simpa [lookUpNames] using
        aspect_of_other reading view hstage hkeeps (by simp [Stage.OfMessage]) hrun
  | greeted mid hrun =>
      simpa [lookUpNames, greet] using
        aspect_of_other reading view hstage hkeeps (by simp [Stage.OfMessage]) hrun

theorem aspect_start (tx : Transaction) (world : W) :
    (start service tx world).aspect reading view =
      (reading.read [], view tx.shared.id world, 0) := by
  rw [start]
  split
  · rfl
  · rw [(begin_begun service _).aspect reading view hstage hkeeps]
    rfl

/-- A signal that ends a body can change an aspect, and no other signal does. -/
theorem Move.aspect {signal : Signal} (hmove : Move service t signal after) :
    after.aspect reading view = t.aspect reading view ∨
      ∃ b outcome, signal = .byte b ∧ t.BodyRead b outcome ∧
        Ended service (t.countRead 1) outcome after := by
  cases hmove with
  | unheard b hphase => exact .inl rfl
  | unasked result hphase => exact .inl rfl
  | finished signal hphase => exact .inl rfl
  | passed b phase hpasses => exact .inl rfl
  | overlong reader hphase hline =>
      left
      exact aspect_eq reading view (by simp) (by simp) (by simp) (by simp)
  | handled reader text _ hphase hline hhandled =>
      left
      rw [hhandled.aspect reading view hstage hkeeps]
      exact aspect_eq reading view (by simp) rfl rfl rfl
  | exchanged step reader _ hphase hexchanged =>
      left
      rw [hexchanged.aspect reading view hkeeps]
      rfl
  | bodyEnded b outcome _ hread hended => exact .inr ⟨b, outcome, rfl, hread, hended⟩
  | opened h _ hphase hbegun =>
      left
      rw [hbegun.aspect reading view hstage hkeeps]
      rfl
  | openingFailed signal hphase hsignal =>
      left
      rw [aspect_close reading view hstage hkeeps]
      simp
  | upgraded h hphase => exact .inl rfl
  | upgradeFailed signal hphase hsignal =>
      left
      rw [aspect_close reading view hstage hkeeps]
      simp
  | ended hphase => exact .inl (aspect_close reading view hstage hkeeps t)
  | timedOut hphase =>
      left
      rw [aspect_close reading view hstage hkeeps]
      simp
  | expired hphase => exact .inl (aspect_close reading view hstage hkeeps t)

end Aspect

end Turn

/-- Where bodies began to be looked at, the latest first: the transaction, and what had been written
down before. -/
def dataStarts : List Event → List (Transaction × List Event)
  | [] => []
  | .stage .data tx :: older => (tx, older) :: dataStarts older
  | _ :: older => dataStarts older

theorem dataStarts_cons_stage (tx : Transaction) (older : List Event) :
    dataStarts (.stage .data tx :: older) = (tx, older) :: dataStarts older := rfl

theorem dataStarts_cons_of_ne {e : Event} (he : ∀ tx, e ≠ .stage .data tx)
    (older : List Event) : dataStarts (e :: older) = dataStarts older := by
  cases e with
  | stage stage tx =>
      cases stage with
      | data => exact absurd rfl (he tx)
      | connection | helo | sender | recipient candidate | handler | close => rfl
  | command line => rfl
  | overlong => rfl
  | checked stage place refusal => rfl
  | authenticated username password refusal => rfl
  | replied reply => rfl

theorem mem_dataStarts_iff {journal older : List Event} {tx : Transaction} :
    (tx, older) ∈ dataStarts journal ↔ ∃ newer, journal = newer ++ .stage .data tx :: older := by
  induction journal with
  | nil => simp [dataStarts]
  | cons e journal ih =>
      constructor
      · intro hmem
        by_cases he : ∃ tx, e = .stage .data tx
        · obtain ⟨first, rfl⟩ := he
          rw [dataStarts_cons_stage] at hmem
          rcases List.mem_cons.mp hmem with hhead | htail
          · cases hhead
            exact ⟨[], rfl⟩
          · obtain ⟨newer, hnewer⟩ := ih.mp htail
            exact ⟨.stage .data first :: newer, by rw [hnewer, List.cons_append]⟩
        · rw [dataStarts_cons_of_ne (fun tx heq => he ⟨tx, heq⟩)] at hmem
          obtain ⟨newer, hnewer⟩ := ih.mp hmem
          exact ⟨e :: newer, by rw [hnewer, List.cons_append]⟩
      · rintro ⟨newer, hnewer⟩
        cases newer with
        | nil =>
            cases hnewer
            exact List.mem_cons_self
        | cons first newer =>
            cases hnewer
            have hrest := ih.mpr ⟨newer, rfl⟩
            by_cases hfirst : ∃ tx, e = .stage .data tx
            · obtain ⟨other, rfl⟩ := hfirst
              exact List.mem_cons_of_mem _ hrest
            · rw [dataStarts_cons_of_ne (fun tx heq => hfirst ⟨tx, heq⟩)]
              exact hrest

theorem dataStarts_append {newer : List Event} (hnewer : ∀ tx, .stage .data tx ∉ newer)
    (older : List Event) : dataStarts (newer ++ older) = dataStarts older := by
  induction newer with
  | nil => rfl
  | cons e newer ih =>
      have hfirst : ∀ tx, e ≠ .stage .data tx := by
        rintro tx rfl
        exact hnewer tx List.mem_cons_self
      rw [List.cons_append, dataStarts_cons_of_ne hfirst]
      exact ih fun tx hmem => hnewer tx (List.mem_cons_of_mem e hmem)

theorem Verdicts.dataStarts_append {stage : Stage} {refusal : Option Refusal}
    {checks : List Event} (hverdicts : Verdicts stage refusal checks) (older : List Event) :
    dataStarts (checks ++ older) = dataStarts older := by
  refine MailIntake.dataStarts_append ?_ older
  intro tx hmem
  obtain ⟨place, answer, heq⟩ := hverdicts.eq_checked hmem
  cases heq

def Reading.dataStarts : Reading .data (List (Transaction × List Event)) where
  read := MailIntake.dataStarts
  skips _ older he := dataStarts_cons_of_ne (fun tx heq => he (.inl ⟨tx, heq⟩)) older

namespace Turn

variable {service : Service W} {t after : Turn W} {refusal : Option Refusal}

/-- A stage other than the one that looks at a body. -/
theorem dataStarts_of_runStage {stage : Stage}
    (hrun : t.runStage service stage = (after, refusal)) (hstage : stage ≠ .data) :
    dataStarts after.journal = dataStarts t.journal :=
  congrArg Prod.fst (aspect_of_runStage Reading.dataStarts (fun _ _ => ())
    (service.keepsBeside_const .data ()) hstage hrun)

/-- What is written down about a body that is looked at. -/
theorem dataStarts_of_hold {body : List UInt8}
    (hrun : (t.hold body).runStage service .data = (after, refusal)) :
    dataStarts after.journal = ((t.hold body).transaction, t.journal) :: dataStarts t.journal := by
  obtain ⟨checks, hchecks, hjournal⟩ := journal_of_runStage hrun
  rw [hjournal, hchecks.dataStarts_append]
  rfl

theorem Ended.dataStarts {outcome : BodyOutcome} (hended : Ended service t outcome after) :
    (outcome = .tooBig ∧ dataStarts after.journal = dataStarts t.journal) ∨
      ∃ body, outcome = .complete body ∧ dataStarts after.journal =
        ((t.hold body).transaction, t.journal) :: dataStarts t.journal := by
  cases hended with
  | tooBig =>
      refine .inl ⟨rfl, ?_⟩
      simp [MailIntake.dataStarts]
  | bodyRefused body mid r hdata =>
      refine .inr ⟨body, rfl, ?_⟩
      rw [← dataStarts_of_hold hdata]
      simp [MailIntake.dataStarts]
  | messageRefused body judged mid r hdata hhandler =>
      refine .inr ⟨body, rfl, ?_⟩
      rw [← dataStarts_of_hold hdata, ← dataStarts_of_runStage hhandler (by simp)]
      simp [MailIntake.dataStarts]
  | messageAccepted body judged mid hdata hhandler =>
      refine .inr ⟨body, rfl, ?_⟩
      rw [← dataStarts_of_hold hdata, ← dataStarts_of_runStage hhandler (by simp)]
      simp [MailIntake.dataStarts]

/-- A signal that ends a body has it looked at, and no other signal does. -/
theorem Move.dataStarts {signal : Signal} (hmove : Move service t signal after) :
    dataStarts after.journal = dataStarts t.journal ∨
      ∃ b body, signal = .byte b ∧ t.BodyRead b (.complete body) ∧
        dataStarts after.journal =
          ((t.hold body).transaction, t.journal) :: dataStarts t.journal := by
  rcases hmove.aspect Reading.dataStarts (fun _ _ => ()) (.inl rfl)
    (service.keepsBeside_const .data ()) with hsame | ⟨b, outcome, rfl, hread, hended⟩
  · exact .inl (congrArg Prod.fst hsame)
  · rcases hended.dataStarts with ⟨-, hsame⟩ | ⟨body, rfl, hmore⟩
    · exact .inl hsame
    · exact .inr ⟨b, body, rfl, hread, hmore⟩

theorem dataStarts_start (service : Service W) (tx : Transaction) (world : W) :
    dataStarts (start service tx world).journal = [] :=
  congrArg Prod.fst (aspect_start Reading.dataStarts (fun _ _ => ()) (.inl rfl)
    (service.keepsBeside_const .data ()) tx world)

end Turn

/-- Whether something holds wherever a stage began, of the transaction and of what had been written
down before. -/
def EachStart (stage : Stage) (holds : Transaction → List Event → Prop) : List Event → Prop
  | [] => True
  | e :: older => (∀ tx, e = .stage stage tx → holds tx older) ∧ EachStart stage holds older

section EachStart

variable {stage : Stage} {holds : Transaction → List Event → Prop} {older : List Event}

theorem eachStart_append {newer : List Event} (hnewer : ∀ tx, .stage stage tx ∉ newer) :
    EachStart stage holds (newer ++ older) ↔ EachStart stage holds older := by
  induction newer with
  | nil => rfl
  | cons e newer ih =>
      have hrest := ih fun tx hmem => hnewer tx (List.mem_cons_of_mem e hmem)
      have hfirst : ∀ tx, e = .stage stage tx → holds tx (newer ++ older) := by
        rintro tx rfl
        exact absurd List.mem_cons_self (hnewer tx)
      rw [List.cons_append, EachStart, hrest]
      exact and_iff_right hfirst

theorem eachStart_replied (reply : Reply) :
    EachStart stage holds (.replied reply :: older) ↔ EachStart stage holds older := by
  have hreplied : ∀ tx, .stage stage tx ∉ [Event.replied reply] := by simp
  exact eachStart_append hreplied

theorem EachStart.at_start {newer : List Event} {tx : Transaction}
    (heach : EachStart stage holds (newer ++ .stage stage tx :: older)) : holds tx older := by
  induction newer with
  | nil => exact heach.1 tx rfl
  | cons e newer ih => exact ih heach.2

def Reading.eachStart (stage : Stage) (holds : Transaction → List Event → Prop) :
    Reading stage Prop where
  read := EachStart stage holds
  skips e older he := by
    have hskipped : ∀ tx, .stage stage tx ∉ [e] := by
      intro tx hmem
      exact he (.inl ⟨tx, (List.mem_singleton.mp hmem).symm⟩)
    exact propext (eachStart_append hskipped)

end EachStart

def Event.starts (stage : Stage) : Event → Bool
  | .stage other _ => other = stage
  | _ => false

/-- A journal in which a stage began. -/
theorem exists_eq_append_of_starts {stage : Stage} {journal : List Event}
    (hany : journal.any (Event.starts stage)) :
    ∃ newer tx older, journal = newer ++ .stage stage tx :: older := by
  obtain ⟨e, hmem, hstarts⟩ := List.any_eq_true.mp hany
  obtain ⟨newer, older, hjournal⟩ := List.append_of_mem hmem
  cases e with
  | stage other tx =>
      have hother : other = stage := by simpa [Event.starts] using hstarts
      rw [hother] at hjournal
      exact ⟨newer, tx, older, hjournal⟩
  | command | overlong | checked | authenticated | replied => cases hstarts

/-- A journal in which a stage began at a place. -/
theorem exists_eq_append_of_starts_at {stage : Stage} {journal : List Event} {place : Nat}
    (hstarts : journal[place]?.any (Event.starts stage)) :
    ∃ tx, journal = journal.take place ++ .stage stage tx :: journal.drop (place + 1) := by
  obtain ⟨e, hplace, he⟩ := (Option.any_eq_true _ _).mp hstarts
  obtain ⟨hlt, hget⟩ := List.getElem?_eq_some_iff.mp hplace
  cases e with
  | stage other tx =>
      have hother : other = stage := by simpa [Event.starts] using he
      refine ⟨tx, ?_⟩
      rw [← hother, ← hget, List.getElem_cons_drop, List.take_append_drop]
  | command | overlong | checked | authenticated | replied => cases he

namespace Turn

variable {service : Service W} {t after : Turn W} {refusal : Option Refusal} {stage : Stage}
  {holds : Transaction → List Event → Prop}

/-- What a stage writes down does not concern another stage. -/
theorem eachStart_of_runStage {other : Stage} (hother : other ≠ stage)
    (hrun : t.runStage service other = (after, refusal)) :
    EachStart stage holds after.journal ↔ EachStart stage holds t.journal := by
  obtain ⟨newer, hnewer, hevents⟩ := newer_of_runStage hrun
  rw [hnewer]
  refine eachStart_append ?_
  intro tx hmem
  exact hother (Event.OfStage.unique (hevents _ hmem) (.inl ⟨tx, rfl⟩))

/-- What is to hold wherever a stage begins holds where this one begins. -/
theorem eachStart_of_holds (heach : EachStart stage holds t.journal)
    (hholds : holds t.transaction t.journal)
    (hrun : t.runStage service stage = (after, refusal)) :
    EachStart stage holds after.journal := by
  obtain ⟨checks, hchecks, hjournal⟩ := journal_of_runStage hrun
  have hskipped : ∀ tx, .stage stage tx ∉ checks := by
    intro tx hmem
    obtain ⟨place, answer, heq⟩ := hchecks.eq_checked hmem
    cases heq
  rw [hjournal, eachStart_append hskipped]
  refine ⟨?_, heach⟩
  intro tx htx
  cases htx
  exact hholds

/-- What holds behind a body that has passed holds wherever a message is handed on. -/
theorem Ended.eachHandler {outcome : BodyOutcome} (hended : Ended service t outcome after)
    (hholds : ∀ body judged, (t.hold body).runStage service .data = (judged, none) →
      holds judged.transaction judged.journal)
    (heach : EachStart .handler holds t.journal) : EachStart .handler holds after.journal := by
  have hlooked : ∀ {body : List UInt8} {judged : Turn W} {refusal : Option Refusal},
      (t.hold body).runStage service .data = (judged, refusal) →
        EachStart .handler holds judged.journal := fun hdata =>
    (eachStart_of_runStage (t := t.hold _) (by simp) hdata).mpr heach
  cases hended with
  | tooBig => exact (eachStart_replied _).mpr heach
  | bodyRefused body mid r hdata =>
      have hjudged := hlooked hdata
      exact (eachStart_replied _).mpr hjudged
  | messageRefused body judged mid r hdata hhandler =>
      have hmid := eachStart_of_holds (hlooked hdata) (hholds body judged hdata) hhandler
      exact (eachStart_replied _).mpr hmid
  | messageAccepted body judged mid hdata hhandler =>
      have hmid := eachStart_of_holds (hlooked hdata) (hholds body judged hdata) hhandler
      exact (eachStart_replied _).mpr hmid

theorem Move.eachHandler {signal : Signal} (hmove : Move service t signal after)
    (hholds : ∀ d body judged, t.phase = .body d →
      ((t.countRead 1).hold body).runStage service .data = (judged, none) →
        holds judged.transaction judged.journal)
    (heach : EachStart .handler holds t.journal) : EachStart .handler holds after.journal := by
  have hread := hmove.aspect (Reading.eachStart .handler holds) (fun _ _ => ()) (.inr rfl)
    (service.keepsBeside_const .handler ())
  rcases hread with hsame | ⟨b, outcome, -, ⟨d, hphase, -, -⟩, hended⟩
  · have hjournal : EachStart .handler holds after.journal = EachStart .handler holds t.journal :=
      congrArg Prod.fst hsame
    rw [hjournal]
    exact heach
  · exact hended.eachHandler (fun body judged => hholds d body judged hphase) heach

/-- No message is looked at before the first signal. -/
theorem start_eachStart (service : Service W) (hstage : stage.OfMessage)
    (holds : Transaction → List Event → Prop) (tx : Transaction) (world : W) :
    EachStart stage holds (start service tx world).journal := by
  have haspect := aspect_start (Reading.eachStart stage holds) (fun _ _ => ()) hstage
    (service.keepsBeside_const stage ()) tx world
  have hjournal : EachStart stage holds (start service tx world).journal =
      EachStart stage holds [] := congrArg Prod.fst haspect
  rw [hjournal]
  trivial

end Turn
end MailIntake
