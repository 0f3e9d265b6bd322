import MailIntake.Session.Basic
/-!
What running checkers does to a turn: it writes down which checkers were asked and what they said,
and of everything else only a checker can change the transaction and the world.  A view of the two
that every checker of a stage keeps is kept by the stage.
-/
namespace MailIntake

universe u v

variable {W : Type u} {A : Type v}

/-- A checker that leaves what a view shows as it is. -/
def Checker.Keeps (view : Transaction → W → A) (checker : Checker W) : Prop :=
  ∀ tx world, view (checker tx world).transaction (checker tx world).world = view tx world

/-- The checkers of a stage keep a view. -/
def Service.KeepsAt (service : Service W) (view : Transaction → W → A) (stage : Stage) : Prop :=
  ∀ checker ∈ service.pipelines.checkers stage, Checker.Keeps view checker

def Service.AuthenticatorKeeps (service : Service W) (view : Transaction → W → A) : Prop :=
  ∀ authenticator, service.authenticator = some authenticator →
    ∀ username password, Checker.Keeps view (authenticator username password)

/-- All checkers and the authenticator keep a view. -/
structure Service.Keeps (service : Service W) (view : Transaction → W → A) : Prop where
  stages : ∀ stage, service.KeepsAt view stage
  authenticator : service.AuthenticatorKeeps view

/-- What a stage writes down, the latest first, when it ends with or without a refusal. -/
inductive Verdicts (stage : Stage) : Option Refusal → List Event → Prop
  | nil : Verdicts stage none []
  | pass {checks : List Event} (earlier : Verdicts stage none checks) :
      Verdicts stage none (.checked stage checks.length none :: checks)
  | refuse {checks : List Event} (earlier : Verdicts stage none checks) (r : Refusal) :
      Verdicts stage (some r) (.checked stage checks.length (some r) :: checks)

/-- A stage writes down nothing but answers of its own checkers. -/
theorem Verdicts.eq_checked {stage : Stage} {refusal : Option Refusal} {checks : List Event}
    (hverdicts : Verdicts stage refusal checks) {e : Event} (he : e ∈ checks) :
    ∃ place answer, e = .checked stage place answer := by
  induction hverdicts with
  | nil => cases he
  | pass _ ih =>
      rcases List.mem_cons.mp he with rfl | he
      · exact ⟨_, _, rfl⟩
      · exact ih he
  | refuse _ _ ih =>
      rcases List.mem_cons.mp he with rfl | he
      · exact ⟨_, _, rfl⟩
      · exact ih he

namespace Turn

/-- The turn behind a question to one checker. -/
def asked (stage : Stage) (place : Nat) (checker : Checker W) (t : Turn W) : Turn W :=
  let verdict := checker t.transaction t.world
  { t with
    transaction := verdict.transaction
    world := verdict.world
    journal := .checked stage place verdict.refusal :: t.journal }

theorem check_cons_none (stage : Stage) (place : Nat) {checker : Checker W}
    (more : List (Checker W)) {t : Turn W}
    (hpass : (checker t.transaction t.world).refusal = none) :
    check stage place (checker :: more) t =
      check stage (place + 1) more (t.asked stage place checker) := by
  rw [check, hpass]
  simp only [asked, note, hpass]

theorem check_cons_some (stage : Stage) (place : Nat) {checker : Checker W}
    (more : List (Checker W)) {t : Turn W} {r : Refusal}
    (hrefuse : (checker t.transaction t.world).refusal = some r) :
    check stage place (checker :: more) t = (t.asked stage place checker, some r) := by
  rw [check, hrefuse]
  simp only [asked, note, hrefuse]

/-- What every question keeps is kept by asking all checkers. -/
theorem check_induction {motive : Turn W → Prop} (stage : Stage) (checkers : List (Checker W))
    (hasked : ∀ checker ∈ checkers, ∀ place t, motive t → motive (t.asked stage place checker))
    (place : Nat) {t : Turn W} (hstart : motive t) : motive (check stage place checkers t).1 := by
  induction checkers generalizing place t with
  | nil => exact hstart
  | cons checker more ih =>
      have hmore : ∀ checker ∈ more, ∀ place t, motive t → motive (t.asked stage place checker) :=
        fun checker hchecker => hasked checker (List.mem_cons_of_mem _ hchecker)
      have hnext := hasked checker List.mem_cons_self place t hstart
      cases hrefusal : (checker t.transaction t.world).refusal with
      | none =>
          rw [check_cons_none stage place more hrefusal]
          exact ih hmore (place + 1) hnext
      | some r =>
          rw [check_cons_some stage place more hrefusal]
          exact hnext

/-- A stage is the same on turns that differ in nothing that a question looks at or writes. -/
theorem check_map {f : Turn W → Turn W}
    (hseen : ∀ t, (f t).transaction = t.transaction ∧ (f t).world = t.world)
    (hasked : ∀ t stage place checker, (f t).asked stage place checker = f (t.asked stage place checker))
    (stage : Stage) (place : Nat) (checkers : List (Checker W)) (t : Turn W) :
    check stage place checkers (f t) =
      (f (check stage place checkers t).1, (check stage place checkers t).2) := by
  induction checkers generalizing place t with
  | nil => rfl
  | cons checker more ih =>
      have hsame : checker (f t).transaction (f t).world = checker t.transaction t.world := by
        rw [(hseen t).1, (hseen t).2]
      cases hrefusal : (checker t.transaction t.world).refusal with
      | none =>
          rw [check_cons_none stage place more hrefusal,
            check_cons_none stage place more (hsame ▸ hrefusal), hasked]
          exact ih (place + 1) (t.asked stage place checker)
      | some r =>
          rw [check_cons_some stage place more hrefusal,
            check_cons_some stage place more (hsame ▸ hrefusal), hasked]

theorem check_verdicts (stage : Stage) (checkers : List (Checker W)) {t : Turn W}
    {earlier older : List Event}
    (hearlier : Verdicts stage none earlier) (hjournal : t.journal = earlier ++ older) :
    ∃ checks, Verdicts stage (check stage earlier.length checkers t).2 checks ∧
      (check stage earlier.length checkers t).1.journal = checks ++ older := by
  -- A checker's place is the number of those before it, so these are kept in `earlier`.
  induction checkers generalizing t earlier with
  | nil => exact ⟨earlier, hearlier, hjournal⟩
  | cons checker more ih =>
      cases hrefusal : (checker t.transaction t.world).refusal with
      | none =>
          rw [check_cons_none stage earlier.length more hrefusal]
          refine ih hearlier.pass ?_
          simp [asked, hrefusal, hjournal]
      | some r =>
          rw [check_cons_some stage earlier.length more hrefusal]
          refine ⟨_, hearlier.refuse r, ?_⟩
          simp [asked, hrefusal, hjournal]

variable {service : Service W} {stage : Stage} {t after : Turn W} {refusal : Option Refusal}

/-- What a stage writes down: that it began, and what its checkers said. -/
theorem journal_of_runStage (hrun : t.runStage service stage = (after, refusal)) :
    ∃ checks, Verdicts stage refusal checks ∧
      after.journal = checks ++ .stage stage t.transaction :: t.journal := by
  have hchecks := check_verdicts stage (service.pipelines.checkers stage)
    (t := t.note (.stage stage t.transaction)) .nil rfl
  have hcheck : check stage 0 (service.pipelines.checkers stage)
      (t.note (.stage stage t.transaction)) = (after, refusal) := hrun
  rw [List.length_nil, hcheck] at hchecks
  exact hchecks

/-- What a stage leaves alone. -/
structure Leaves (before after : Turn W) : Prop where
  phase : after.phase = before.phase
  commands : after.commands = before.commands
  tally : after.tally = before.tally

theorem leaves_of_runStage (hrun : t.runStage service stage = (after, refusal)) :
    Leaves t after := by
  have hleaves := check_induction (motive := Leaves t) stage
    (service.pipelines.checkers stage)
    (fun _ _ _ _ h => ⟨h.phase, h.commands, h.tally⟩) 0
    (t := t.note (.stage stage t.transaction)) ⟨rfl, rfl, rfl⟩
  have hafter : (t.runStage service stage).1 = after := by rw [hrun]
  rw [← hafter]
  exact hleaves

/-- A stage keeps what its checkers keep. -/
theorem seen_of_runStage {view : Transaction → W → A} (hkeeps : service.KeepsAt view stage)
    (hrun : t.runStage service stage = (after, refusal)) :
    view after.transaction after.world = view t.transaction t.world := by
  have hafter : (t.runStage service stage).1 = after := by rw [hrun]
  rw [← hafter]
  refine check_induction stage _
    (motive := fun after => view after.transaction after.world = view t.transaction t.world)
    ?_ 0 rfl
  intro checker hchecker place before hbefore
  rw [← hbefore]
  exact hkeeps checker hchecker before.transaction before.world

end Turn
end MailIntake
