import MailIntake.Text.Base64
import MailIntake.Text.Split
import MailIntake.Text.Utf8
/-!
Files of keys and certificates: blocks of base64 between a line that begins them and one that ends
them, each under a label.  Text between blocks and blocks under unknown labels are passed over; the
first thing that does not fit ends the reading.
-/
namespace MailIntake.Pem

open Text

/-- A block: its label and its content. -/
structure Block where
  label : String
  content : List UInt8
deriving DecidableEq, Repr

/-- What does not fit. -/
inductive Error
  /-- The file ends inside a block. -/
  | missingEnd (label : List UInt8)
  /-- A line begins a block in an unknown form. -/
  | illegalStart (line : List UInt8)
  /-- A character in a block is not of base64. -/
  | invalidCharacter (byte : UInt8)
  /-- There is padding in front of the last four characters of a block. -/
  | prematurePadding
  /-- The last characters of a block do not fit. -/
  | invalidPadding
deriving DecidableEq, Repr

def renderBytes (bytes : List UInt8) : String :=
  "[" ++ ", ".intercalate (bytes.map fun b => toString b.toNat) ++ "]"

def Error.message : Error → String
  | .missingEnd label => "missing section end marker: " ++ renderBytes label
  | .illegalStart line => "illegal section start: " ++ renderBytes line
  | .invalidCharacter byte =>
      "base64 decode error: InvalidCharacter(" ++ toString byte.toNat ++ ")"
  | .prematurePadding => "base64 decode error: PrematurePadding"
  | .invalidPadding => "base64 decode error: InvalidTrailingPadding"

def labels : List String :=
  ["CERTIFICATE", "PUBLIC KEY", "RSA PRIVATE KEY", "PRIVATE KEY", "EC PRIVATE KEY", "X509 CRL",
    "CERTIFICATE REQUEST", "ECHCONFIG"]

def keyLabels : List String :=
  ["RSA PRIVATE KEY", "PRIVATE KEY", "EC PRIVATE KEY"]

def isLineEnd (b : UInt8) : Bool :=
  b == 0x0A || b == 0x0D

def lines (file : List UInt8) : List (List UInt8) :=
  splitOn isLineEnd file

def beginMark : List UInt8 := Utf8.encode "-----BEGIN "

def endMark (label : List UInt8) : List UInt8 :=
  Utf8.encode "-----END " ++ label ++ Utf8.encode "-----"

/-- A line without the dashes and spaces at its end, and how many dashes these were. -/
def withoutDashes (line : List UInt8) : List UInt8 × Nat :=
  let tail := line.reverse.takeWhile fun b => b == 0x2D || b == 0x20
  let blanks := tail.reverse.takeWhile (· == 0x20)
  (line.take (line.length - tail.length) ++ blanks, tail.count 0x2D)

/-- The label in a line behind the mark that begins a block: five dashes end it. -/
def label? (line : List UInt8) : Option (List UInt8) :=
  let (front, dashes) := withoutDashes line
  if dashes = 5 then some (front.drop beginMark.length) else none

def isBlankByte (b : UInt8) : Bool :=
  b == 0x20 || (0x09 ≤ b && b ≤ 0x0D)

/-- One character of a block: the value of its six bits, or nothing for padding. -/
abbrev Sextet := Option Nat

/-- The six bits that a byte stands for. -/
def sextet (b : UInt8) : Except Error Sextet :=
  if b = 0x3D then .ok none
  else
    match Base64.value? (Char.ofNat b.toNat) with
    | some n => .ok (some n)
    | none => .error (.invalidCharacter b)

def firstBytes (count a b c d : Nat) : List UInt8 :=
  let bits := ((a * 64 + b) * 64 + c) * 64 + d
  [UInt8.ofNat (bits / 65536), UInt8.ofNat (bits / 256), UInt8.ofNat bits].take count

/-- The bytes of sextets in groups of four without padding. -/
def wholeGroups : List Sextet → Except Error (List UInt8)
  | some a :: some b :: some c :: some d :: rest =>
      (wholeGroups rest).map (firstBytes 3 a b c d ++ ·)
  | [] => .ok []
  | _ => .error .prematurePadding

/-- The bytes of the last sextets: padding may be left out, and bits in excess do not count. -/
def lastGroup : List Sextet → Except Error (List UInt8)
  | [] => .ok []
  | [some a, some b, some c, some d] => .ok (firstBytes 3 a b c d)
  | [some a, some b, some c, none] | [some a, some b, some c] => .ok (firstBytes 2 a b c 0)
  | [some a, some b, none, none] | [some a, some b] => .ok (firstBytes 1 a b 0 0)
  | _ => .error .invalidPadding

/-- The bytes of up to eight last sextets. -/
def lastGroups (held : List Sextet) : Except Error (List UInt8) := do
  if 4 < held.length then
    let first ← wholeGroups (held.take 4)
    let last ← lastGroup (held.drop 4)
    return first ++ last
  else lastGroup held

/-- The bytes of the sextets that are held back and of the text behind them.  Eight sextets are
looked at together, as soon as another one follows. -/
def decodeFrom (held : List Sextet) : List UInt8 → Except Error (List UInt8)
  | [] => lastGroups held
  | b :: rest =>
      if isBlankByte b then decodeFrom held rest
      else do
        let s ← sextet b
        if held.length < 8 then decodeFrom (held ++ [s]) rest
        else
          let bytes ← wholeGroups held
          let more ← decodeFrom [s] rest
          return bytes ++ more

/-- The bytes that the text of a block denotes. -/
def decode (text : List UInt8) : Except Error (List UInt8) :=
  decodeFrom [] text

/-- A block that has begun. -/
structure Open where
  label : List UInt8
  /-- The lines read so far, the last one first. -/
  lines : List (List UInt8) := []

def Open.text (block : Open) : List UInt8 :=
  block.lines.reverse.flatten

/-- What is read from lines: blocks in order, up to the first thing that does not fit. -/
def scan : Option Open → List (List UInt8) → List (Except Error Block)
  | none, [] => []
  | some block, [] => [.error (.missingEnd block.label)]
  | state, line :: rest =>
      if beginMark.isPrefixOf line then
        match label? line with
        | none => [.error (.illegalStart line)]
        | some label => scan (some ⟨label, (state.map Open.lines).getD []⟩) rest
      else
        match state with
        | none => scan none rest
        | some block =>
            if (endMark block.label).isPrefixOf line then
              let label := Utf8.decodeLossy block.label
              if label ∈ labels then
                match decode block.text with
                | .error e => [.error e]
                | .ok content => .ok ⟨label, content⟩ :: scan none rest
              else scan none rest
            else scan (some { block with lines := line :: block.lines }) rest

def read (file : List UInt8) : List (Except Error Block) :=
  scan none (lines file)

/-- The first private key in a file; nothing behind it is looked at. -/
def firstKey? (file : List UInt8) : Option Block :=
  ((read file).filterMap Except.toOption).find? (·.label ∈ keyLabels)

/-- The certificates in a file, all of which has to fit. -/
def certificates (file : List UInt8) : Except Error (List (List UInt8)) := do
  let blocks ← (read file).mapM id
  return (blocks.filter (·.label == "CERTIFICATE")).map Block.content

example :
    (certificates (Utf8.encode ("x\n-----BEGIN CERTIFICATE-----\nMAA=\n"
      ++ "-----END CERTIFICATE-----\n"))).toOption = some [[0x30, 0x00]] := by decide +kernel
example : (decode (Utf8.encode "MA B")).toOption = some [0x30, 0x00] := by decide +kernel
example : (decode (Utf8.encode "MAA=MAA=")).toOption = none := by decide +kernel

end MailIntake.Pem
