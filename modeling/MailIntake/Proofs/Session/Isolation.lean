import MailIntake.Proofs.Session.Aliases
import MailIntake.Proofs.Session.Delivery
import MailIntake.Proofs.Session.Likeness
/-!
The messages of one connection do not know of each other.  Behind a RSET, or behind a body that has
been read to its end, all that is left of the past is who the client is: two connections with the
same client do the same from there on, whatever was said on them before (`run_alike_of_endsEmpty`).
-/
namespace MailIntake

universe u

variable {W : Type u}

def Line.verb? : Line → Option CommandLine.Verb
  | .text content => (CommandLine.parse content).verb?
  | .tooLong => none

namespace Turn

def empties (t : Turn W) : Signal → Bool
  | .byte b =>
      match t.phase with
      | .command reader =>
          b == LineReader.byteFeed && (reader.add [b]).finish.verb? == some .rset
      | .body decoder => decoder.endsWith b
      | .opening | .response _ _ | .handshake | .closed => false
  | .handshake _ | .ended | .expired => false

/-- Inputs at the end of which a RSET or the body of a message is complete. -/
def EndsEmpty (service : Service W) (start : Turn W) (inputs : List Input) : Prop :=
  ∃ front signal, inputs.flatMap Input.signals = front ++ [signal] ∧
    (start.heedAll service front).empties signal

/-- A connection that waits for a command with no message at hand, and not for its first one. -/
structure Emptied (t : Turn W) : Prop where
  phase : t.phase = .command {}
  envelope : t.transaction.envelope = {}
  commands : t.commands ≠ 0

variable {service : Service W} {t after : Turn W}

theorem Ended.emptied {outcome : BodyOutcome} (hended : Ended service t outcome after) :
    Emptied after := by
  have hresumes : Resumes.{u, 0} service t outcome after := hended.resumes
  refine ⟨hresumes.phase, hended.envelope, ?_⟩
  rw [hresumes.commands]
  exact Nat.succ_ne_zero _

/-- A RSET forgets the message at hand. -/
theorem emptied_of_reset {line : Line} (hverb : line.verb? = some .rset) :
    Emptied (t.takeLine service line) := by
  cases line with
  | tooLong => cases hverb
  | text text =>
      have hreset : (CommandLine.parse text).verb? = some .rset := hverb
      simp only [takeLine, dispatch, hreset, execute]
      exact ⟨rfl, rfl, Nat.succ_ne_zero _⟩

theorem emptied_of_empties {signal : Signal} (hempties : t.empties signal) :
    Emptied (t.heed service signal) := by
  cases signal with
  | handshake result | ended | expired => cases hempties
  | byte b =>
      rw [heed, takeByte]
      rw [empties] at hempties
      cases hphase : t.phase with
      | command reader =>
          simp only [hphase, Bool.and_eq_true, beq_iff_eq] at hempties
          obtain ⟨rfl, hverb⟩ := hempties
          simp only [if_true]
          exact emptied_of_reset hverb
      | body decoder =>
          simp only [hphase] at hempties
          simp only [hempties, if_true]
          exact (endBody_ended service _ _).emptied
      | opening | response step reader | handshake | closed =>
          simp only [hphase] at hempties
          cases hempties

theorem EndsEmpty.emptied {start : Turn W} {inputs : List Input}
    (hends : EndsEmpty service start inputs) : Emptied (start.run service inputs) := by
  obtain ⟨front, signal, hsignals, hempties⟩ := hends
  rw [run_eq_heedAll, hsignals, heedAll_concat]
  exact emptied_of_empties hempties

/-- Two connections without a message at hand that have the same client agree from now on. -/
theorem Emptied.parallel {alike : W → W → Prop} {t' : Turn W} (hemptied : Emptied t)
    (hemptied' : Emptied t') (hpeer : t.transaction.peer = t'.transaction.peer)
    (hworld : alike t.world t'.world) :
    Parallel service alike t.journal t'.journal t t' where
  phase := by rw [hemptied.phase, hemptied'.phase]
  own := by
    rw [Transaction.own, Transaction.own, hpeer, hemptied.envelope, hemptied'.envelope]
  world := hworld
  first _ := by simp [hemptied.commands, hemptied'.commands]
  journal := ⟨[], [], rfl, rfl, .nil⟩

/-- Take two connections to a service whose checkers look at nothing but the protocol state and the
message at hand, and let each of them have come to the end of a RSET or of a body.  If the client
is the same on both by then, they cannot be told apart any more: whatever arrives, they write down
the same, with the same replies and with the same transactions at all stages, identifiers and
metadata aside.  Nothing is asked of the senders, recipients, aliases, bodies and header fields of
before. -/
theorem run_alike_of_endsEmpty (service : Service W) {alike : W → W → Prop}
    (hrespects : service.Respects alike) (tx tx' : Transaction) (world world' : W)
    (history history' : List Input) :
    let start := start service tx world
    let start' := Turn.start service tx' world'
    let t := start.run service history
    let t' := start'.run service history'
    EndsEmpty service start history → EndsEmpty service start' history' →
      t.transaction.peer = t'.transaction.peer → alike t.world t'.world →
        ∀ inputs : List Input, ∃ newer newer',
          (t.run service inputs).journal = newer ++ t.journal ∧
          (t'.run service inputs).journal = newer' ++ t'.journal ∧
          List.Forall₂ Event.Alike newer newer' ∧
          (t.run service inputs).phase = (t'.run service inputs).phase := by
  intro start start' t t' hends hends' hpeer hworld inputs
  have hparallel : Parallel service alike t.journal t'.journal t t' :=
    hends.emptied.parallel hends'.emptied hpeer hworld
  have hmore := hparallel.run hrespects inputs
  obtain ⟨newer, newer', hnewer, hnewer', halike⟩ := hmore.journal
  exact ⟨newer, newer', hnewer, hnewer', halike, hmore.phase⟩

end Turn

namespace Sample

/-- Whether messages can be written in an office. -/
def writable (office : Office) : Bool :=
  match office.spool with
  | some (.directory _) => true
  | some .missing | none => false

/-- Both of two offices can write messages; what they have written before does not count. -/
def BothWrite (office office' : Office) : Prop :=
  writable office ∧ writable office'

/-- The lines with which a client names a recipient who is turned away, and starts again. -/
def startedAgain : List UInt8 :=
  Text.Utf8.encode "HELO c\r\nMAIL FROM:<>\r\nRCPT TO:<b@c>\r\nRSET\r\n"

theorem writable_deliver (tx : Transaction) {office : Office} (hwritable : writable office) :
    (Office.deliver tx office).refusal = none ∧ writable (Office.deliver tx office).world := by
  rw [writable] at hwritable
  split at hwritable
  · next files hspool =>
      rw [Turn.deliver_directory tx hspool]
      exact ⟨rfl, rfl⟩
  · cases hwritable
  · cases hwritable

theorem deliver_respects : Checker.Respects BothWrite Office.deliver where
  refusal _ hoffices := by
    rw [(writable_deliver _ hoffices.1).1, (writable_deliver _ hoffices.2).1]
  own hown _ := by
    rw [Office.deliver_transaction, Office.deliver_transaction]
    exact hown
  world _ hoffices := ⟨(writable_deliver _ hoffices.1).2, (writable_deliver _ hoffices.2).2⟩

theorem redirect_respects (candidate : ForwardPath) :
    Checker.Respects BothWrite (redirect candidate) where
  refusal _ _ := rfl
  own {tx tx'} _ _ hown _ := by
    obtain ⟨shared, peer, envelope⟩ := tx
    obtain ⟨shared', peer', envelope'⟩ := tx'
    cases hown
    rfl
  world _ hoffices := hoffices

theorem redirecting_respects : redirecting.Respects BothWrite where
  stages stage checker hchecker := by
    cases stage with
    | recipient candidate =>
        rw [List.mem_singleton.mp hchecker]
        exact redirect_respects candidate
    | handler =>
        rw [List.mem_singleton.mp hchecker]
        exact deliver_respects
    | connection | helo | sender | data | close => cases hchecker
  authenticator _ hauthenticator := nomatch hauthenticator

end Sample

namespace Turn

/-- A client whose message was taken over, and one who named a recipient with an alias and started
again. -/
theorem run_alike_of_endsEmpty_letter :
    let history := [.bytes (Sample.oneRecipient ++ Sample.letter)]
    let history' := [.bytes Sample.startedAgain]
    let inputs := [.bytes (Sample.oneRecipient ++ Sample.letter)]
    let t := (start Sample.redirecting (.start ⟨1⟩ "mx" Sample.place Sample.place)
      Sample.office).run Sample.redirecting history
    let t' := (start Sample.redirecting (.start ⟨2⟩ "mx" Sample.place Sample.place)
      Sample.office).run Sample.redirecting history'
    ∃ newer newer', (t.run Sample.redirecting inputs).journal = newer ++ t.journal ∧
      (t'.run Sample.redirecting inputs).journal = newer' ++ t'.journal ∧
      List.Forall₂ Event.Alike newer newer' ∧ newer.any (Event.starts .handler) := by
  intro history history' inputs t t'
  have hends : EndsEmpty Sample.redirecting (start Sample.redirecting
      (.start ⟨1⟩ "mx" Sample.place Sample.place) Sample.office) history :=
    ⟨(history.flatMap Input.signals).dropLast, .byte LineReader.byteFeed, by decide +kernel,
      by decide +kernel⟩
  have hends' : EndsEmpty Sample.redirecting (start Sample.redirecting
      (.start ⟨2⟩ "mx" Sample.place Sample.place) Sample.office) history' :=
    ⟨(history'.flatMap Input.signals).dropLast, .byte LineReader.byteFeed, by decide +kernel,
      by decide +kernel⟩
  have hpeer : t.transaction.peer = t'.transaction.peer := by decide +kernel
  have hworld : Sample.BothWrite t.world t'.world :=
    ⟨by decide +kernel, by decide +kernel⟩
  obtain ⟨newer, newer', hnewer, hnewer', halike, -⟩ := run_alike_of_endsEmpty Sample.redirecting
    Sample.redirecting_respects (.start ⟨1⟩ "mx" Sample.place Sample.place)
    (.start ⟨2⟩ "mx" Sample.place Sample.place) Sample.office Sample.office history history' hends
    hends' hpeer hworld inputs
  refine ⟨newer, newer', hnewer, hnewer', halike, ?_⟩
  have hboth : (newer ++ t.journal).countP (Event.starts .handler) = 2 := by
    rw [← hnewer]
    decide +kernel
  have hfirst : t.journal.countP (Event.starts .handler) = 1 := by decide +kernel
  rw [List.countP_append, hfirst] at hboth
  rw [List.any_eq_true, ← List.countP_pos_iff]
  omega

end Turn
end MailIntake
