import MailIntake.Charset.Table
import MailIntake.Text.Base64
/-!
UTF-16, whose units are two bytes, and UTF-7, where such units stand in base64 between a plus sign
and a minus sign.  A surrogate without its partner has no character, and what is left over at the
end counts as one unknown character.  Base64 that does not end on a byte with all bits in excess
zero is cut back to where it does, and one more unknown character stands for what was cut off.
-/
namespace MailIntake.Charset

/-- The units of sixteen bits of a byte sequence, and whether a byte is left over. -/
def units16 (big : Bool) : List UInt8 → List Nat × Bool
  | a :: b :: rest =>
      let (units, odd) := units16 big rest
      ((if big then a.toNat * 256 + b.toNat else b.toNat * 256 + a.toNat) :: units, odd)
  | [_] => ([], true)
  | [] => ([], false)

/-- Whether a unit is the first one of two. -/
def isHighSurrogate (unit : Nat) : Bool :=
  0xD800 ≤ unit && unit < 0xDC00

/-- Whether a unit is the second one of two. -/
def isLowSurrogate (unit : Nat) : Bool :=
  0xDC00 ≤ unit && unit < 0xE000

/-- The characters of sixteen-bit units; `odd` says that something is left over behind them. -/
def ofUnits16 (odd : Bool) : List Nat → List Char
  | [] => if odd then [unknown] else []
  | [unit] =>
      if isHighSurrogate unit then [unknown]
      else
        (if isLowSurrogate unit then unknown else Char.ofNat unit) ::
          if odd then [unknown] else []
  | first :: second :: rest =>
      if isHighSurrogate first ∧ isLowSurrogate second then
        Char.ofNat (0x10000 + (first - 0xD800) * 0x400 + (second - 0xDC00)) :: ofUnits16 odd rest
      else if isHighSurrogate first ∨ isLowSurrogate first then
        unknown :: ofUnits16 odd (second :: rest)
      else Char.ofNat first :: ofUnits16 odd (second :: rest)

def decodeUtf16 (big : Bool) (bytes : List UInt8) : List Char :=
  let (units, odd) := units16 big bytes
  ofUnits16 odd units

namespace Utf7

def sextet? (b : UInt8) : Option Nat :=
  Text.Base64.value? (Char.ofNat b.toNat)

/-- The bytes of sextets, and whether all of them stand for bytes.  Sextets at the end that leave
bits over which are not zero stand for none, and neither does a single one. -/
def bytesOf : List Nat → List UInt8 × Bool
  | a :: b :: c :: d :: rest =>
      let (bytes, complete) := bytesOf rest
      (UInt8.ofNat (a * 4 + b / 16) :: UInt8.ofNat (b % 16 * 16 + c / 4)
        :: UInt8.ofNat (c % 4 * 64 + d) :: bytes, complete)
  | [] => ([], true)
  | [_] => ([], false)
  | [a, b] => if b % 16 = 0 then ([UInt8.ofNat (a * 4 + b / 16)], true) else ([], false)
  | [a, b, c] =>
      if c % 4 = 0 then
        ([UInt8.ofNat (a * 4 + b / 16), UInt8.ofNat (b % 16 * 16 + c / 4)], true)
      else if b % 16 = 0 then ([UInt8.ofNat (a * 4 + b / 16)], false)
      else ([], false)

def decodeRun (run : List UInt8) : List Char :=
  let (bytes, complete) := bytesOf (run.filterMap sextet?)
  decodeUtf16 true bytes ++ if complete then [] else [unknown]

/-- The characters that bytes denote.  A plus sign in front of a minus sign stands for itself.  The
count bounds how many characters and runs there are. -/
def decodeFrom : Nat → List UInt8 → List Char
  | 0, _ => []
  | _ + 1, [] => []
  | more + 1, a :: rest =>
      if a = 0x2B then
        let run := rest.takeWhile fun b => (sextet? b).isSome
        match run, rest.drop run.length with
        | [], 0x2D :: behind => '+' :: decodeFrom more behind
        | [], behind => unknown :: decodeFrom more behind
        | run, 0x2D :: behind => decodeRun run ++ decodeFrom more behind
        | run, behind => decodeRun run ++ decodeFrom more behind
      else (if a < 0x80 then Char.ofNat a.toNat else unknown) :: decodeFrom more rest

end Utf7

def decodeUtf7 (bytes : List UInt8) : List Char :=
  Utf7.decodeFrom bytes.length bytes

example : decodeUtf7 "1 +- +AOk-.".toUTF8.toList = "1 + é.".toList := by decide +kernel
example : decodeUtf7 "+AGF-+ZeVnLI-".toUTF8.toList = ['\ufffd', '日', '\ufffd', '\ufffd'] := by
  decide +kernel
example : decodeUtf16 true [0xD8, 0x00, 0x61] = ['\ufffd'] := by decide +kernel

end MailIntake.Charset
