import MailIntake.Text.Ascii
import MailIntake.Text.Utf8
/-!
Xtext: a plus sign and two hexadecimal digits stand for a byte, every other byte for itself.  A
reader goes through the bytes by their indices, one byte or one escape at a time.
-/
namespace MailIntake.Text.Xtext

/-- The value of a byte that is a hexadecimal digit. -/
def digit? (b : UInt8) : Option Nat :=
  Ascii.hexDigit? (Char.ofNat b.toNat)

/-- The byte that the two hexadecimal digits from an index on stand for. -/
def escaped? (bytes : Array UInt8) (index : Nat) : Option UInt8 := do
  let high ← digit? (← bytes[index]?)
  let low ← digit? (← bytes[index + 1]?)
  return UInt8.ofNat (high * 16 + low)

/-- A reader of an xtext: the index of the byte that comes next, and what the bytes before it stand
for. -/
structure Reader where
  index : Nat := 0
  decoded : Array UInt8 := #[]
deriving DecidableEq, Repr

/-- What a reader comes to next. -/
inductive Step
  /-- A byte or an escape has been read. -/
  | next (r : Reader)
  /-- All bytes have been read. -/
  | done (decoded : Array UInt8)
  /-- A plus sign without two digits behind it. -/
  | refused
  /-- A byte was asked for that is not there. -/
  | overrun
deriving DecidableEq, Repr

namespace Reader

/-- Read the next byte or escape. -/
def step (bytes : Array UInt8) (r : Reader) : Step :=
  if r.index < bytes.size then
    match bytes[r.index]? with
    | none => .overrun
    | some b =>
        if b = 0x2B then
          match escaped? bytes (r.index + 1) with
          | some value => .next ⟨r.index + 3, r.decoded.push value⟩
          | none => .refused
        else .next ⟨r.index + 1, r.decoded.push b⟩
  else .done r.decoded

theorem index_lt_of_step {bytes : Array UInt8} {r next : Reader}
    (hstep : r.step bytes = .next next) : r.index < bytes.size ∧ r.index < next.index := by
  rw [step] at hstep
  split at hstep
  · next hindex =>
      refine ⟨hindex, ?_⟩
      split at hstep
      · cases hstep
      · split at hstep
        · split at hstep
          · cases hstep
            exact Nat.lt_add_of_pos_right (Nat.zero_lt_succ 2)
          · cases hstep
        · cases hstep
          exact Nat.lt_succ_self r.index
  · cases hstep

def run (bytes : Array UInt8) (r : Reader) : Option (Array UInt8) :=
  match _hstep : r.step bytes with
  | .next next => next.run bytes
  | .done decoded => some decoded
  | .refused | .overrun => none
termination_by bytes.size - r.index
decreasing_by
  have hlt := index_lt_of_step _hstep
  omega

theorem run_eq (bytes : Array UInt8) (r : Reader) :
    r.run bytes =
      match r.step bytes with
      | .next next => next.run bytes
      | .done decoded => some decoded
      | .refused | .overrun => none := by
  rw [run]
  split <;> next hstep => rw [hstep]

end Reader

/-- The text that an xtext stands for, if its bytes make one. -/
def decode? (text : String) : Option String :=
  (({} : Reader).run (Utf8.encode text).toArray).bind fun decoded => Utf8.decode? decoded.toList

example : decode? "a+2Bb+C3+A9" = some "a+bé" := by decide +kernel
example : decode? "+4" = none := by decide +kernel

end MailIntake.Text.Xtext
