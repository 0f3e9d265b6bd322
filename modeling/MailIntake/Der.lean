/-!
The binary form of keys and certificates: a value is a tag, the length of its content, and the
content, which may be a row of values again.  Every length and every number is written in as few
bytes as can be, so that a value has one form only.
-/
namespace MailIntake.Der

namespace Tag

def boolean : UInt8 := 0x01

def integer : UInt8 := 0x02

/-- A row of bits, behind a byte that says how many at the end do not count. -/
def bitString : UInt8 := 0x03

def octetString : UInt8 := 0x04

def null : UInt8 := 0x05

/-- A name of something in the register of names. -/
def objectId : UInt8 := 0x06

def sequence : UInt8 := 0x30

def part (number : UInt8) : UInt8 := 0xA0 + number

/-- The same for a part that is no row of values. -/
def plainPart (number : UInt8) : UInt8 := 0x80 + number

end Tag

/-! ## Numbers -/

/-- The number that bytes stand for, the highest first. -/
def ofBytes (bytes : List UInt8) : Nat :=
  bytes.foldl (fun n b => n * 256 + b.toNat) 0

/-- The last `width` bytes of a number, the highest first. -/
def toBytes : (width n : Nat) → List UInt8
  | 0, _ => []
  | width + 1, n => toBytes width (n / 256) ++ [UInt8.ofNat n]

def size (n : Nat) : Nat :=
  if n = 0 then 0 else n.log2 / 8 + 1

/-- The number that the content of a whole number stands for, if it is not below zero. -/
def natural? : List UInt8 → Option Nat
  | [] => none
  | [b] => if b < 0x80 then some b.toNat else none
  | a :: b :: rest =>
      if 0x80 ≤ a ∨ a = 0 ∧ b < 0x80 then none else some (ofBytes (a :: b :: rest))

/-! ## Reading -/

/-- What takes values from the head of data. -/
abbrev Reader := StateT (List UInt8) Option

/-- The length at the head of the data. -/
def length? : List UInt8 → Option (Nat × List UInt8)
  | [] => none
  | first :: rest =>
      if first < 0x80 then some (first.toNat, rest)
      else
        let count := first.toNat - 0x80
        let digits := rest.take count
        if count = 0 ∨ 4 < count ∨ digits.length < count then none
        else if digits.head? = some 0 ∨ ofBytes digits < 0x80 then none
        else some (ofBytes digits, rest.drop count)

def value (tag : UInt8) : Reader (List UInt8)
  | [] => none
  | first :: rest => do
      let (length, rest) ← length? rest
      if first ≠ tag ∨ rest.length < length then none
      else return (rest.take length, rest.drop length)

/-- The content of a value with a tag, if the data go on with one. -/
def value? (tag : UInt8) : Reader (Option (List UInt8)) := fun data =>
  if data.head? = some tag then (value tag data).map fun (content, rest) => (some content, rest)
  else some (none, data)

/-- What a reader takes from data that hold nothing else. -/
def whole {A : Type} (reader : Reader A) (data : List UInt8) : Option A :=
  match reader data with
  | some (a, []) => some a
  | _ => none

def head {A : Type} (reader : Reader A) (data : List UInt8) : Option A :=
  (reader data).map Prod.fst

/-- What a reader takes from the content of a row of values. -/
def row {A : Type} (reader : Reader A) : Reader A := do
  whole reader (← value Tag.sequence)

/-- A whole number that is not below zero. -/
def natural : Reader Nat := do
  natural? (← value Tag.integer)

/-! ## Writing -/

def lengthBytes (n : Nat) : List UInt8 :=
  if n < 0x80 then [UInt8.ofNat n] else UInt8.ofNat (0x80 + size n) :: toBytes (size n) n

def write (tag : UInt8) (content : List UInt8) : List UInt8 :=
  tag :: lengthBytes content.length ++ content

/-- A whole number as it is written: its highest bit says that it is not below zero. -/
def writeNatural (n : Nat) : List UInt8 :=
  write Tag.integer (toBytes (n.log2 / 8 + if n.log2 % 8 = 7 then 2 else 1) n)

/-- A row of bits that fill whole bytes. -/
def writeBits (bytes : List UInt8) : List UInt8 :=
  write Tag.bitString (0 :: bytes)

example : whole (row natural) [0x30, 0x03, 0x02, 0x01, 0x7F] = some 127 := by decide +kernel
example : writeNatural 128 = [0x02, 0x02, 0x00, 0x80] := by decide +kernel
example : (whole natural (writeNatural 65537), whole natural (writeNatural 0)) =
    (some 65537, some 0) := by decide +kernel

end MailIntake.Der
