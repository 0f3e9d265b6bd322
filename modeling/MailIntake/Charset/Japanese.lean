import MailIntake.Charset.DoubleByte
import MailIntake.Charset.Table.Jis0212
/-!
EUC-JP, where a character takes up to three bytes, and ISO-2022-JP, where escape sequences say how
the bytes behind them are read.
-/
namespace MailIntake.Charset

/-- The character of a table at a row and a column, given as bytes from `base` on. -/
def Table.cell? (table : Table) (base row column : UInt8) : Option Char := do
  table.get? ((← within? base (base + 93) row) * 94 + (← within? base (base + 93) column))

/-- The characters that bytes denote in EUC-JP.  In front of a narrow Katakana stands 0x8E, in front
of a character of JIS X 0212 stands 0x8F. -/
def decodeEucJp : List UInt8 → List Char
  | [] => []
  | a :: rest =>
      if a < 0x80 then Char.ofNat a.toNat :: decodeEucJp rest
      else if a = 0x8E ∨ a = 0x8F ∨ (within? 0xA1 0xFE a).isSome then
        match rest with
        | [] => [unknown]
        | b :: more =>
            match if a = 0x8E then within? 0xA1 0xDF b else none with
            | some n => katakana n :: decodeEucJp more
            | none =>
                if a = 0x8F ∧ (within? 0xA1 0xFE b).isSome then
                  match more with
                  | [] => [unknown]
                  | c :: more =>
                      match jis0212.cell? 0xA1 b c with
                      | some char => char :: decodeEucJp more
                      | none =>
                          unknown ::
                            if c < 0x80 then decodeEucJp (c :: more) else decodeEucJp more
                else
                  match jis0208.cell? 0xA1 a b with
                  | some char => char :: decodeEucJp more
                  | none =>
                      unknown :: if b < 0x80 then decodeEucJp (b :: more) else decodeEucJp more
      else unknown :: decodeEucJp rest

namespace Iso2022Jp

/-- How bytes are read. -/
inductive Mode
  | ascii
  /-- ASCII with a Yen sign and an overline. -/
  | roman
  | katakana
  /-- Two bytes for each character of JIS X 0208. -/
  | pairs
deriving DecidableEq, Repr

/-- The mode of the escape sequence at the head of the bytes, without its first byte, and what
follows it. -/
def escape? : List UInt8 → Option (Mode × List UInt8)
  | 0x28 :: 0x42 :: rest => some (.ascii, rest)
  | 0x28 :: 0x4A :: rest => some (.roman, rest)
  | 0x28 :: 0x49 :: rest => some (.katakana, rest)
  | 0x24 :: 0x40 :: rest | 0x24 :: 0x42 :: rest => some (.pairs, rest)
  | _ => none

def single? (mode : Mode) (b : UInt8) : Option Char :=
  match mode with
  | .katakana => (within? 0x21 0x5F b).map Charset.katakana
  | .pairs => none
  | .ascii | .roman =>
      if 0x80 ≤ b ∨ b = 0x0E ∨ b = 0x0F then none
      else if mode = .roman ∧ b = 0x5C then some '¥'
      else if mode = .roman ∧ b = 0x7E then some '‾'
      else some (Char.ofNat b.toNat)

/-- The characters that bytes denote.  `idle` says that an escape sequence has just been read: a
second one right behind it counts as an unknown character.  The count bounds how many characters and
escape sequences there are. -/
def decodeFrom : Nat → Mode → Bool → List UInt8 → List Char
  | 0, _, _, _ => []
  | _ + 1, _, _, [] => []
  | more + 1, mode, idle, a :: rest =>
      if a = 0x1B then
        match escape? rest with
        | some (next, rest) =>
            (if idle then [unknown] else []) ++ decodeFrom more next true rest
        | none => unknown :: decodeFrom more mode false rest
      else if mode = .pairs ∧ (within? 0x21 0x7E a).isSome then
        match rest with
        | [] => [unknown]
        | b :: behind =>
            if b = 0x1B then unknown :: decodeFrom more mode false rest
            else (jis0208.cell? 0x21 a b).getD unknown :: decodeFrom more mode false behind
      else (single? mode a).getD unknown :: decodeFrom more mode false rest

end Iso2022Jp

def decodeIso2022Jp (bytes : List UInt8) : List Char :=
  Iso2022Jp.decodeFrom bytes.length .ascii false bytes

example : decodeEucJp [0x61, 0x8E, 0xB1, 0x8E] = ['a', 'ｱ', unknown] := by decide +kernel
example : decodeIso2022Jp [0x1B, 0x28, 0x4A, 0x5C, 0x1B, 0x28, 0x42, 0x5C] = ['¥', '\\'] := by
  decide +kernel

end MailIntake.Charset
