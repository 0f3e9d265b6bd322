import MailIntake.Proofs.Session.Admission
/-!
A client's bytes reach the server in reads that have nothing to do with lines and bodies.  Where one
read ends and the next begins makes no difference to anything: not to replies and stages, not to
what is counted, and not to how the connection ends (`run_eq_of_flatten_eq`).
-/
namespace MailIntake

universe u

variable {W : Type u}

/-- Reads one after another, and the end of the input behind them. -/
def reads (cut : List (List UInt8)) : List Input :=
  cut.map .bytes ++ [.ended]

/-- Reads are the bytes in them. -/
theorem signals_reads (cut : List (List UInt8)) :
    (reads cut).flatMap Input.signals = cut.flatten.map .byte ++ [.ended] := by
  have hbytes : (cut.map Input.bytes).flatMap Input.signals = cut.flatten.map .byte := by
    induction cut with
    | nil => rfl
    | cons chunk cut ih =>
        rw [List.map_cons, List.flatMap_cons, ih, List.flatten_cons, List.map_append]
        rfl
  rw [reads, List.flatMap_append, hbytes]
  rfl

namespace Turn

variable (service : Service W)

/-- Inputs that come to the same signals come to the same end. -/
theorem run_congr {inputs others : List Input}
    (hsame : inputs.flatMap Input.signals = others.flatMap Input.signals) (t : Turn W) :
    t.run service inputs = t.run service others := by
  rw [run_eq_heedAll, run_eq_heedAll, hsame]

/-- No connection outlives its input. -/
theorem endInput_phase (t : Turn W) : (t.endInput service).phase = .closed := by
  cases hphase : t.phase with
  | opening | handshake =>
      simp only [endInput, endHandshake, hphase]
      exact close_phase
  | command reader | response step reader | body decoder =>
      simp only [endInput, hphase]
      exact close_phase
  | closed => simp only [endInput, hphase]

/-- However the bytes of a client are cut into reads, a connection has the same replies, the same
stages with the same transactions, the same counts and the same end.  Bytes behind a request for a
handshake are dropped wherever they stand, so this asks nothing of the service. -/
theorem run_eq_of_flatten_eq (tx : Transaction) (world : W) {cut other : List (List UInt8)}
    (hsame : cut.flatten = other.flatten) :
    let t := start service tx world
    t.run service (reads cut) = t.run service (reads other) ∧
      (t.run service (reads cut)).phase = .closed := by
  intro t
  have hsignals : (reads cut).flatMap Input.signals = (reads other).flatMap Input.signals := by
    rw [signals_reads, signals_reads, hsame]
  refine ⟨run_congr service hsignals t, ?_⟩
  rw [run_eq_heedAll, signals_reads, heedAll_append]
  exact endInput_phase service _

/-- A message that arrives at once and one that arrives byte by byte, body and all. -/
theorem run_eq_of_flatten_eq_letter :
    let bytes := Sample.opening ++ Sample.letter
    let whole := Sample.start.run Sample.service (reads [bytes])
    whole = Sample.start.run Sample.service (reads (bytes.map fun b => [b])) ∧
      whole.phase = .closed ∧ whole.tally.messages = 1 := by
  intro bytes whole
  have hsame : [bytes].flatten = (bytes.map fun b => [b]).flatten := by
    rw [← List.flatMap_def, List.flatMap_singleton', List.flatten_singleton]
  obtain ⟨hequal, hphase⟩ := run_eq_of_flatten_eq Sample.service
    (.start ⟨1⟩ "mx" Sample.place Sample.place) Sample.office hsame
  refine ⟨hequal, hphase, ?_⟩
  decide +kernel

end Turn
end MailIntake
