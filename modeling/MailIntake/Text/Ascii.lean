import MailIntake.Text.Split
/-!
ASCII text: the blanks that separate words, letter case, digits in bases ten and sixteen, and the
decimal text of a number.  Characters beyond ASCII are never blanks, never digits and have no case
here.
-/
namespace MailIntake.Text.Ascii

/-- A blank is a space, a tab, a line feed, a form feed or a carriage return. -/
def isBlank (c : Char) : Bool :=
  c == ' ' || c == '\t' || c == '\n' || c == '\x0c' || c == '\r'

def upper (text : String) : String :=
  String.ofList (text.toList.map Char.toUpper)

/-- Whether two texts agree up to the case of ASCII letters. -/
def sameIgnoringCase (a b : String) : Bool :=
  upper a == upper b

/-- The non-empty words between blanks. -/
def words (text : String) : List String :=
  (Text.words isBlank text.toList).map String.ofList

/-- The value of a decimal digit. -/
def digit? (c : Char) : Option Nat :=
  if '0' ≤ c ∧ c ≤ '9' then some (c.toNat - '0'.toNat) else none

/-- The value of a hexadecimal digit of either case. -/
def hexDigit? (c : Char) : Option Nat :=
  if '0' ≤ c ∧ c ≤ '9' then some (c.toNat - '0'.toNat)
  else if 'a' ≤ c ∧ c ≤ 'f' then some (c.toNat - 'a'.toNat + 10)
  else if 'A' ≤ c ∧ c ≤ 'F' then some (c.toNat - 'A'.toNat + 10)
  else none

/-- Letters and digits of ASCII. -/
def isAlphanum (c : Char) : Bool :=
  ('0' ≤ c ∧ c ≤ '9') ∨ ('a' ≤ c ∧ c ≤ 'z') ∨ ('A' ≤ c ∧ c ≤ 'Z')

/-- The number written by a non-empty run of decimal digits, of any length. -/
def number? : List Char → Option Nat
  | [] => none
  | digits =>
      digits.foldlM (fun value c => (digit? c).map fun d => value * 10 + d) 0

/-- The number that a decimal text below `bound` denotes; one plus sign may stand before it. -/
def boundedNumber? (bound : Nat) (text : List Char) : Option Nat :=
  let digits :=
    match text with
    | '+' :: rest => rest
    | _ => text
  match number? digits with
  | some value => if value < bound then some value else none
  | none => none

/-- The hexadecimal digit of a value below sixteen, in lower case. -/
def hexDigit (value : Nat) : Char :=
  if value < 10 then Char.ofNat ('0'.toNat + value) else Char.ofNat ('a'.toNat + (value - 10))

/-- The hexadecimal text of a number in lower case, without leading zeros. -/
def hexText (value : Nat) : String :=
  String.ofList (Nat.toDigits 16 value)

/-- Two hexadecimal digits in lower case. -/
def hexByte (byte : UInt8) : List Char :=
  [hexDigit (byte.toNat / 16), hexDigit (byte.toNat % 16)]

/-- A decimal text filled up on the left with zeros to at least `width` digits. -/
def paddedNumber (width value : Nat) : String :=
  let digits := Nat.toDigits 10 value
  String.ofList (List.replicate (width - digits.length) '0' ++ digits)

example : words " MAIL  FROM:<a@b>\x0b\r" = ["MAIL", "FROM:<a@b>\x0b"] := by decide +kernel
example : boundedNumber? 65536 ['+', '0', '2', '5'] = some 25 := by decide
example : boundedNumber? 65536 ['6', '5', '5', '3', '6'] = none := by decide

end MailIntake.Text.Ascii
