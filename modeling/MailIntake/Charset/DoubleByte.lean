import MailIntake.Charset.Table.Big5
import MailIntake.Charset.Table.Jis0208
import MailIntake.Charset.Table.KsX1001
/-!
Character sets in which a character takes one byte or two: Shift_JIS, Big5 and EUC-KR.  Two bytes
without a character count as one unknown character; but a second byte of ASCII is not lost, since it
is read again on its own.
-/
namespace MailIntake.Charset

/-- A character set of single bytes and of pairs. -/
structure DoubleByte where
  /-- The character of a byte beyond ASCII that stands alone. -/
  single? : UInt8 → Option Char
  /-- Whether a byte is the first one of a pair. -/
  isLead : UInt8 → Bool
  /-- The characters of a pair. -/
  pair? : UInt8 → UInt8 → Option (List Char)

def DoubleByte.decode (set : DoubleByte) : List UInt8 → List Char
  | [] => []
  | a :: rest =>
      if a < 0x80 then Char.ofNat a.toNat :: set.decode rest
      else if set.isLead a then
        match rest with
        | [] => [unknown]
        | b :: more =>
            match set.pair? a b with
            | some chars => chars ++ set.decode more
            | none => unknown :: if b < 0x80 then set.decode (b :: more) else set.decode more
      else (set.single? a).getD unknown :: set.decode rest

def katakana (n : Nat) : Char :=
  Char.ofNat (0xFF61 + n)

/-- A byte within bounds, as the number of places behind the lower one. -/
def within? (low high b : UInt8) : Option Nat :=
  if low ≤ b ∧ b ≤ high then some (b.toNat - low.toNat) else none

/-- The place in a row of a trail byte from 0x40 on: 0x7F is left out. -/
def trailFrom40? (high b : UInt8) : Option Nat :=
  match within? 0x40 0x7E b with
  | some n => some n
  | none => (within? 0x80 high b).map (· + 63)

namespace ShiftJis

/-- The row of a lead byte; the rows lie on both sides of the narrow Katakana. -/
def row? (lead : UInt8) : Option Nat :=
  match within? 0x81 0x9F lead with
  | some n => some n
  | none => (within? 0xE0 0xFC lead).map (· + 31)

/-- The first place of the area for characters of one's own. -/
def ownArea : Nat := 8836

/-- The character of a pair: a row holds two of the table's rows.  Ten rows behind the ideographs are
for characters of one's own. -/
def pair? (lead trail : UInt8) : Option Char := do
  let place := (← row? lead) * 188 + (← trailFrom40? 0xFC trail)
  if ownArea ≤ place ∧ place < ownArea + 1880 then
    return Char.ofNat (0xE000 + (place - ownArea))
  else jis0208.get? place

end ShiftJis

def shiftJis : DoubleByte where
  single? b := if b = 0x80 then some '\x80' else (within? 0xA1 0xDF b).map katakana
  isLead b := (ShiftJis.row? b).isSome
  pair? lead trail := (ShiftJis.pair? lead trail).map fun c => [c]

namespace Big5

/-- The place in a row of a trail byte. -/
def trail? (b : UInt8) : Option Nat :=
  match within? 0x40 0x7E b with
  | some n => some n
  | none => (within? 0xA1 0xFE b).map (· + 63)

/-- The letters that take two characters, by place. -/
def composed : List (Nat × List Char) :=
  [(1133, ['Ê', '\u0304']), (1135, ['Ê', '\u030c']), (1164, ['ê', '\u0304']),
    (1166, ['ê', '\u030c'])]

def pair? (lead trail : UInt8) : Option (List Char) := do
  let place := (← within? 0x81 0xFE lead) * 157 + (← trail? trail)
  match composed.lookup place with
  | some chars => return chars
  | none => (table.get? place).map fun c => [c]

end Big5

def big5 : DoubleByte where
  single? _ := none
  isLead b := (within? 0x81 0xFE b).isSome
  pair? := Big5.pair?

namespace EucKr

/-- The Hangul syllables that the standard leaves out. -/
def leftOut : Array Char := ksX1001.leftOut 0xAC00 11172

/-- The place in a row of a trail byte outside of the standard: letters and bytes beyond ASCII. -/
def trail? (b : UInt8) : Option Nat :=
  match within? 0x41 0x5A b, within? 0x61 0x7A b, within? 0x81 0xFE b with
  | some n, _, _ => some n
  | _, some n, _ => some (n + 26)
  | _, _, some n => some (n + 52)
  | none, none, none => none

/-- The character of a pair.  The places outside of the standard hold, row by row, the syllables that
it leaves out. -/
def pair? (lead trail : UInt8) : Option Char :=
  match within? 0xA1 0xFE lead, within? 0xA1 0xFE trail with
  | some row, some column => ksX1001.get? (row * 94 + column)
  | some row, none => (trail? trail).bind fun column => leftOut[32 * 178 + row * 84 + column]?
  | none, _ => do
      let row ← within? 0x81 0xA0 lead
      leftOut[row * 178 + (← trail? trail)]?

end EucKr

def eucKr : DoubleByte where
  single? _ := none
  isLead b := (within? 0x81 0xFE b).isSome
  pair? lead trail := (EucKr.pair? lead trail).map fun c => [c]

example : shiftJis.decode [0xB1, 0x81, 0x20, 0xFF] = ['ｱ', unknown, ' ', unknown] := by
  decide +kernel

end MailIntake.Charset
