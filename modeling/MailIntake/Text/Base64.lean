/-!
Base64 with the standard alphabet and required padding.  Reading is strict: the unused bits of the
last character before padding must be zero.  Padding is looked at block by block, so one text may
hold several padded blocks.
-/
namespace MailIntake.Text.Base64

/-- The character of a value below 64. -/
def digit (value : Nat) : Char :=
  if value < 26 then Char.ofNat ('A'.toNat + value)
  else if value < 52 then Char.ofNat ('a'.toNat + (value - 26))
  else if value < 62 then Char.ofNat ('0'.toNat + (value - 52))
  else if value = 62 then '+'
  else '/'

/-- The value of a character of the alphabet. -/
def value? (c : Char) : Option Nat :=
  if 'A' ≤ c ∧ c ≤ 'Z' then some (c.toNat - 'A'.toNat)
  else if 'a' ≤ c ∧ c ≤ 'z' then some (c.toNat - 'a'.toNat + 26)
  else if '0' ≤ c ∧ c ≤ '9' then some (c.toNat - '0'.toNat + 52)
  else if c = '+' then some 62
  else if c = '/' then some 63
  else none

/-- The bytes in groups of three, each as four characters; a group that is not full is padded. -/
def encode : List UInt8 → List Char
  | a :: b :: c :: rest =>
      digit (a.toNat / 4)
        :: digit (a.toNat % 4 * 16 + b.toNat / 16)
        :: digit (b.toNat % 16 * 4 + c.toNat / 64)
        :: digit (c.toNat % 64)
        :: encode rest
  | [a, b] =>
      [digit (a.toNat / 4), digit (a.toNat % 4 * 16 + b.toNat / 16), digit (b.toNat % 16 * 4), '=']
  | [a] => [digit (a.toNat / 4), digit (a.toNat % 4 * 16), '=', '=']
  | [] => []

/-- The bytes of one block of four characters. -/
def decodeBlock (w x y z : Char) : Option (List UInt8) := do
  let a ← value? w
  let b ← value? x
  let first := UInt8.ofNat (a * 4 + b / 16)
  if y = '=' then
    if z = '=' ∧ b % 16 = 0 then return [first] else none
  else
    let c ← value? y
    let second := UInt8.ofNat (b % 16 * 16 + c / 4)
    if z = '=' then
      if c % 4 = 0 then return [first, second] else none
    else
      let d ← value? z
      return [first, second, UInt8.ofNat (c % 4 * 64 + d)]

/-- The bytes that a text denotes. -/
def decode? : List Char → Option (List UInt8)
  | [] => some []
  | w :: x :: y :: z :: rest => do
      let block ← decodeBlock w x y z
      let more ← decode? rest
      return block ++ more
  | _ => none

example : decode? "AA==AAE=".toList = some [0, 0, 1] := by decide +kernel
example : decode? "AB==".toList = none := by decide +kernel

end MailIntake.Text.Base64
