import MailIntake.Proofs.Session.Simulation
/-!
Two connections side by side.  What a connection does next depends on its protocol state, on the
message at hand and on what is read, and where a proxy may speak on whether a command has been
carried out.  Two connections that agree in these do the same from there on, whatever identifiers,
karma, metadata and counts they have (`Parallel.run`).
-/
namespace MailIntake

universe u

variable {W : Type u}

/-- Two events that only differ in identifiers and metadata. -/
inductive Event.Alike : Event → Event → Prop
  | same (e : Event) : Alike e e
  | stage (stage : Stage) {tx tx' : Transaction} (hown : tx.own = tx'.own) :
      Alike (.stage stage tx) (.stage stage tx')
  | farewell (id id' : TransactionId) :
      Alike (.replied ⟨221, farewell id⟩) (.replied ⟨221, farewell id'⟩)

/-- A checker for which only the protocol state and the message at hand count, and of its world only
what worlds that are `alike` have in common. -/
structure Checker.Respects (alike : W → W → Prop) (checker : Checker W) : Prop where
  refusal : ∀ {tx tx' world world'}, tx.own = tx'.own → alike world world' →
    (checker tx world).refusal = (checker tx' world').refusal
  own : ∀ {tx tx' world world'}, tx.own = tx'.own → alike world world' →
    (checker tx world).transaction.own = (checker tx' world').transaction.own
  world : ∀ {tx tx' world world'}, tx.own = tx'.own → alike world world' →
    alike (checker tx world).world (checker tx' world').world

/-- For all checkers and the authenticator nothing else counts. -/
structure Service.Respects (service : Service W) (alike : W → W → Prop) : Prop where
  stages : ∀ stage, ∀ checker ∈ service.pipelines.checkers stage, Checker.Respects alike checker
  authenticator : ∀ authenticator, service.authenticator = some authenticator →
    ∀ username password, Checker.Respects alike (authenticator username password)

namespace Turn

/-- Two connections that agree in everything that counts for what comes next, and in what they have
written down since their journals were `base` and `base'`. -/
structure Parallel (service : Service W) (alike : W → W → Prop) (base base' : List Event)
    (t t' : Turn W) : Prop where
  phase : t.phase = t'.phase
  own : t.transaction.own = t'.transaction.own
  world : alike t.world t'.world
  first : service.settings.enableProxyProtocol = true → (t.commands = 0 ↔ t'.commands = 0)
  journal : ∃ newer newer', t.journal = newer ++ base ∧ t'.journal = newer' ++ base' ∧
    List.Forall₂ Event.Alike newer newer'

namespace Parallel

variable {service : Service W} {alike : W → W → Prop} {base base' : List Event} {t t' : Turn W}

theorem note (h : Parallel service alike base base' t t') {e e' : Event} (he : e.Alike e') :
    Parallel service alike base base' (t.note e) (t'.note e') := by
  obtain ⟨newer, newer', hnewer, hnewer', halike⟩ := h.journal
  refine ⟨h.phase, h.own, h.world, h.first, e :: newer, e' :: newer', ?_, ?_, .cons he halike⟩
  · rw [note_journal, hnewer, List.cons_append]
  · rw [note_journal, hnewer', List.cons_append]

theorem mapTransaction (h : Parallel service alike base base' t t')
    {f f' : Transaction → Transaction} (hown : (f t.transaction).own = (f' t'.transaction).own) :
    Parallel service alike base base' (t.mapTransaction f) (t'.mapTransaction f') :=
  ⟨h.phase, hown, h.world, h.first, h.journal⟩

theorem replied (h : Parallel service alike base base' t t') {code code' : UInt16}
    {message message' : String}
    (halike : Event.Alike (.replied ⟨code, message⟩) (.replied ⟨code', message'⟩)) :
    Parallel service alike base base' (t.reply code message) (t'.reply code' message') := by
  have hnoted := h.note halike
  exact ⟨hnoted.phase, hnoted.own, hnoted.world, hnoted.first, hnoted.journal⟩

/-- A question to checkers or to the authenticator, for which nothing else counts. -/
theorem judged (h : Parallel service alike base base' t t') {checker : Checker W}
    (hrespects : Checker.Respects alike checker) (e : Option Refusal → Event) :
    let after (t : Turn W) : Turn W := { t with
      transaction := (checker t.transaction t.world).transaction
      world := (checker t.transaction t.world).world
      journal := e (checker t.transaction t.world).refusal :: t.journal }
    (checker t.transaction t.world).refusal = (checker t'.transaction t'.world).refusal ∧
      Parallel service alike base base' (after t) (after t') := by
  have hrefusal := hrespects.refusal h.own h.world
  have hnoted := h.note (.same (e (checker t.transaction t.world).refusal))
  refine ⟨hrefusal, h.phase, hrespects.own h.own h.world, hrespects.world h.own h.world, h.first,
    ?_⟩
  simp only [← hrefusal]
  exact hnoted.journal

/-- Where nothing else counts for checkers and the authenticator, every step keeps two connections
in agreement. -/
theorem simulation (hrespects : service.Respects alike) :
    Simulation service (Parallel service alike base base') where
  phase h := h.phase
  own h := h.own
  first h := h.first
  note h e _ := h.note (.same e)
  began h stage := h.note (.stage stage h.own)
  asked h stage checker hchecker place :=
    h.judged (hrespects.stages stage checker hchecker) (.checked stage place)
  questioned h authenticator hauthenticator username password :=
    h.judged (hrespects.authenticator authenticator hauthenticator username password)
      (.authenticated username password)
  mapPeer h f := h.mapTransaction (congrArg (Prod.map f id) h.own)
  mapEnvelope h f := h.mapTransaction (congrArg (Prod.map id f) h.own)
  mapMetadata h f := h.mapTransaction h.own
  finish h := h.mapTransaction h.own
  countRead h _ := ⟨h.phase, h.own, h.world, h.first, h.journal⟩
  countMessage h := ⟨h.phase, h.own, h.world, h.first, h.journal⟩
  countCommand h := ⟨h.phase, h.own, h.world, fun _ => by simp [Turn.countCommand], h.journal⟩
  inPhase h _ := ⟨rfl, h.own, h.world, h.first, h.journal⟩
  reply h code message := h.replied (.same _)
  farewell h := h.replied (.farewell _ _)

/-- Inputs lead two connections that agree to the same. -/
theorem run (hrespects : service.Respects alike) (h : Parallel service alike base base' t t')
    (inputs : List Input) :
    Parallel service alike base base' (t.run service inputs) (t'.run service inputs) :=
  (Linked.run ⟨simulation hrespects, h⟩ inputs).related

end Parallel
end Turn
end MailIntake
