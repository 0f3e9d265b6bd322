/-!
UTF-8 over lists of bytes.  One scanner cuts any byte sequence into characters and faults; a fault
covers the longest run of bytes that begins a character and cannot be completed, and at least one
byte.  Strict decoding wants no fault, lossy decoding writes the replacement character for each.
-/
namespace MailIntake.Text.Utf8

def encode (text : String) : List UInt8 :=
  text.toList.flatMap String.utf8EncodeChar

/-- A character that has begun: its value bits so far, how many bytes are still owed, and the least
and greatest value of the next one. -/
structure Begun where
  bits : Nat
  owed : Nat
  low : UInt8
  high : UInt8

/-- What a byte is when a character may begin. -/
inductive Lead
  | char (c : Char)
  | opens (begun : Begun)
  | fault

/-- The first byte of a character.  The bounds on the second byte leave out overlong forms,
surrogates and everything above U+10FFFF. -/
def lead (b : UInt8) : Lead :=
  if b < 0x80 then .char (Char.ofNat b.toNat)
  else if b < 0xC2 then .fault
  else if b < 0xE0 then .opens ⟨b.toNat % 32, 1, 0x80, 0xBF⟩
  else if b < 0xF0 then
    .opens ⟨b.toNat % 16, 2, if b == 0xE0 then 0xA0 else 0x80, if b == 0xED then 0x9F else 0xBF⟩
  else if b < 0xF5 then
    .opens ⟨b.toNat % 8, 3, if b == 0xF0 then 0x90 else 0x80, if b == 0xF4 then 0x8F else 0xBF⟩
  else .fault

/-- What a byte completes when no character has begun, and the character that it begins. -/
def enter (b : UInt8) : List (Option Char) × Option Begun :=
  match lead b with
  | .char c => ([some c], none)
  | .opens begun => ([], some begun)
  | .fault => ([none], none)

/-- What the next byte completes.  A byte that cannot continue the character begun makes a fault of
it and is then read as a first byte. -/
def step (pending : Option Begun) (b : UInt8) : List (Option Char) × Option Begun :=
  match pending with
  | none => enter b
  | some begun =>
      if begun.low ≤ b && b ≤ begun.high then
        let bits := begun.bits * 64 + b.toNat % 64
        if begun.owed ≤ 1 then ([some (Char.ofNat bits)], none)
        else ([], some ⟨bits, begun.owed - 1, 0x80, 0xBF⟩)
      else
        let (pieces, next) := enter b
        (none :: pieces, next)

/-- The pieces that bytes complete after `pending`; a character left unfinished is a fault. -/
def scanFrom : Option Begun → List UInt8 → List (Option Char)
  | none, [] => []
  | some _, [] => [none]
  | pending, b :: rest => (step pending b).1 ++ scanFrom (step pending b).2 rest

/-- The characters of a byte sequence in order, `none` standing for a fault. -/
def scan (bytes : List UInt8) : List (Option Char) :=
  scanFrom none bytes

/-- The text of a byte sequence, if it is valid throughout. -/
def decode? (bytes : List UInt8) : Option String :=
  ((scan bytes).mapM id).map String.ofList

/-- The text of a byte sequence with U+FFFD in the place of every fault. -/
def decodeLossy (bytes : List UInt8) : String :=
  String.ofList ((scan bytes).map fun piece => piece.getD '\uFFFD')

/-- The text whose characters are the bytes themselves: every byte is a code point below 256. -/
def decodeLatin1 (bytes : List UInt8) : String :=
  String.ofList (bytes.map fun b => Char.ofNat b.toNat)

example : decode? (encode "aé日😀") = some "aé日😀" := by decide +kernel
example : decodeLossy [0x61, 0xE6, 0x97, 0x62, 0xFF, 0xF0, 0x9F] = "a\uFFFDb\uFFFD\uFFFD" := by
  decide +kernel
example : decode? [0xED, 0xA0, 0x80] = none := by decide +kernel

end MailIntake.Text.Utf8
