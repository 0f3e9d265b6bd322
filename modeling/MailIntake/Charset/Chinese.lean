import MailIntake.Charset.DoubleByte
import MailIntake.Charset.Table.Gb2312
import MailIntake.Text.Ascii
/-!
GB 18030, where a character takes one, two or four bytes, and every character of Unicode has a place.
-/
namespace MailIntake.Charset.Gb18030

open Text

def hexNumber (digits : List Char) : Nat :=
  digits.foldl (fun value c => value * 16 + (Ascii.hexDigit? c).getD 0) 0

/-- The runs of characters with four bytes, as places and code points. -/
def runs : List (Nat × Nat) :=
  (gbRunLines.flatMap fun text => words (· == ' ') text.toList).filterMap fun run =>
    (cutOnce (· == '-') run).map fun (place, char) => (hexNumber place, hexNumber char)

/-- The end of the places for characters that two bytes could not hold either. -/
def basicEnd : Nat := 39420

/-- The first place of the characters beyond the basic plane. -/
def astralStart : Nat := 189000

/-- The character of four bytes at a place. -/
def ofPlace? (place : Nat) : Option Char :=
  if place < basicEnd then
    if place = 7457 then some '\ue7c7'
    else
      let (start, first) := runs.foldl (fun best run => if run.1 ≤ place then run else best) (0, 0)
      some (Char.ofNat (first + (place - start)))
  else if astralStart ≤ place ∧ place < astralStart + 0x100000 then
    some (Char.ofNat (0x10000 + (place - astralStart)))
  else none

def quad? (a b c d : UInt8) : Option Char := do
  ofPlace? <|
    (((← within? 0x81 0xFE a) * 10 + (← within? 0x30 0x39 b)) * 126 + (← within? 0x81 0xFE c)) * 10
      + (← within? 0x30 0x39 d)

/-- The ideographs that GB 2312 leaves out. -/
def leftOut : Array Char := gb2312.leftOut 0x4E00 20902

/-- The ideograph with a number among those that GB 2312 leaves out. -/
def ideograph? (n : Nat) : Option Char :=
  if n < leftOut.size then leftOut[n]? else gbLast.get? (n - leftOut.size)

/-- The character of two bytes of which the second one is in the upper part of its range: GB 2312, and
two areas for characters of one's own. -/
def upper? (lead : UInt8) (column : Nat) : Option Char :=
  match within? 0xAA 0xAF lead, within? 0xF8 0xFE lead with
  | some row, _ => some (Char.ofNat (0xE000 + row * 94 + column))
  | _, some row => some (Char.ofNat (0xE234 + row * 94 + column))
  | none, none => (within? 0xA1 0xF7 lead).bind fun row => gb2312.get? (row * 94 + column)

/-- The character of two bytes of which the second one is in the lower part of its range: an area for
characters of one's own, symbols, and ideographs. -/
def lower? (lead : UInt8) (column : Nat) : Option Char :=
  match within? 0xA1 0xA7 lead, within? 0xA8 0xA9 lead with
  | some row, _ =>
      if row = 2 ∧ column = 95 then some '\u3000'
      else some (Char.ofNat (0xE4C6 + row * 96 + column))
  | _, some row => gbSymbols.get? (row * 96 + column)
  | none, none => (within? 0xAA 0xFE lead).bind fun row => ideograph? (32 * 190 + row * 96 + column)

def pair? (lead trail : UInt8) : Option Char := do
  let column ← trailFrom40? 0xFE trail
  match within? 0x81 0xA0 lead with
  | some row => ideograph? (row * 190 + column)
  | none => if column < 96 then lower? lead column else upper? lead (column - 96)

/-- The characters that bytes denote.  The count bounds how many there are. -/
def decodeFrom : Nat → List UInt8 → List Char
  | 0, _ => []
  | _ + 1, [] => []
  | more + 1, a :: rest =>
      if a < 0x80 then Char.ofNat a.toNat :: decodeFrom more rest
      else if a = 0x80 then '€' :: decodeFrom more rest
      else if a = 0xFF then unknown :: decodeFrom more rest
      else
        match rest with
        | [] => [unknown]
        | b :: behind =>
            if (within? 0x30 0x39 b).isNone then
              match pair? a b with
              | some char => char :: decodeFrom more behind
              | none => unknown :: decodeFrom more (if b < 0x80 then rest else behind)
            else
              match behind with
              | [] => [unknown]
              | c :: behind =>
                  if (within? 0x81 0xFE c).isNone then unknown :: decodeFrom more rest
                  else
                    match behind with
                    | [] => [unknown]
                    | d :: behind =>
                        if (within? 0x30 0x39 d).isNone then unknown :: decodeFrom more rest
                        else (quad? a b c d).getD unknown :: decodeFrom more behind

def decode (bytes : List UInt8) : List Char :=
  decodeFrom bytes.length bytes

example : decode [0x61, 0x80, 0xFF, 0x81] = ['a', '€', unknown, unknown] := by decide +kernel

end MailIntake.Charset.Gb18030
