import MailIntake.Charset
import MailIntake.Text.Blank
import MailIntake.Text.Base64
/-!
Encoded words in header texts: `=?charset?B?...?=` and `=?charset?Q?...?=` between boundaries.  A
word that cannot be decoded stays as it is.  Blanks between two neighbouring encoded words are
dropped, and the line ends of a folded text become spaces.
-/
namespace MailIntake.EncodedWord

open Text

/-- A piece of a header text. -/
inductive Token
  /-- Text that is not encoded. -/
  | text (chars : List Char)
  /-- Nothing but blanks. -/
  | blanks (chars : List Char)
  /-- The end of a line inside the text. -/
  | newline
  /-- An encoded word, decoded. -/
  | word (chars : List Char)

/-- Characters that may stand next to an encoded word. -/
def isBoundary (c : Char) : Bool :=
  isBlank c || c == '"' || c == '(' || c == ')' || c == '<' || c == '>' || c == ','

/-- Whether the line has a boundary where `offset` points.  The offset is in bytes and counts
characters here; behind the end of the line everything is a boundary. -/
def boundaryAt (chars : Array Char) (offset : Nat) : Bool :=
  (chars[offset]?).all isBoundary

/-- Bytes of a run of characters. -/
def byteLength (chars : List Char) : Nat :=
  chars.foldl (fun length c => length + c.utf8Size) 0

/-- What stands before and after the first occurrence of two characters in a row. -/
def cutAtPair (a b : Char) : List Char → Option (List Char × List Char)
  | c :: d :: rest =>
      if c = a ∧ d = b then some ([], rest)
      else (cutAtPair a b (d :: rest)).map fun (before, after) => (c :: before, after)
  | _ => none

/-- Characters that quoted-printable text may hold. -/
def isPrintable (c : Char) : Bool :=
  c == '\t' || c == '\r' || c == '\n' || (' ' ≤ c && c ≤ '~')

def byteOf (c : Char) : UInt8 :=
  UInt8.ofNat c.toNat

/-- The bytes of a line of quoted-printable text.  An escape without two hexadecimal digits stands
for itself; one that is cut off after the equals sign stands for nothing. -/
def unescape : List Char → List UInt8
  | '=' :: high :: low :: rest =>
      match Ascii.hexDigit? high, Ascii.hexDigit? low with
      | some h, some l => UInt8.ofNat (h * 16 + l) :: unescape rest
      | _, _ => byteOf '=' :: byteOf high :: byteOf low :: unescape rest
  | ['=', high] => [byteOf '=', byteOf high]
  | ['='] => []
  | c :: rest => byteOf c :: unescape rest
  | [] => []

/-- The bytes of the Q encoding: underscores are spaces, and blanks at the end are kept. -/
def decodeQ (input : List Char) : List UInt8 :=
  let spaced := input.map fun c => if c = '_' then ' ' else c
  let trimmed := dropTailWhile isBlank spaced
  let kept := dropTailWhile isBlank (trimmed.filter isPrintable)
  unescape kept ++ Utf8.encode (String.ofList (spaced.drop trimmed.length))

/-- The bytes of the B encoding; line ends inside it do not count. -/
def decodeB (input : List Char) : Option (List UInt8) :=
  Base64.decode? (input.filter fun c => c != '\r' && c != '\n')

def decodeWord (inside : List Char) : Option (List Char) := do
  let (charset, rest) ← cutOnce (· == '?') inside
  let (coding, input) ← cutOnce (· == '?') rest
  let bytes ←
    if coding = ['B'] ∨ coding = ['b'] then decodeB input
    else if coding = ['Q'] ∨ coding = ['q'] then some (decodeQ input)
    else none
  let encoding ← Charset.ofLabel? (String.ofList charset)
  return (encoding.decode bytes).toList

/-- A piece of text, told apart from blanks. -/
def plainToken (chars : List Char) : Token :=
  if chars.all isBlank then .blanks chars else .text chars

/-- The first place in `rest` where `?=` stands before a boundary of the line: what stands before
it and after it.  `before` is what was passed already, and `offset` counts the bytes of the line
before `rest`.  The count bounds how many places are tried. -/
def closing (line : Array Char) : Nat → Nat → List Char → List Char →
    Option (List Char × List Char)
  | 0, _, _, _ => none
  | more + 1, offset, before, rest =>
      match cutAtPair '?' '=' rest with
      | none => none
      | some (inside, after) =>
          let behind := offset + byteLength inside + 2
          if boundaryAt line behind then some (before ++ inside, after)
          else closing line more behind (before ++ inside ++ ['?', '=']) after

/-- The pieces of `rest`, the end of a line; `offset` counts the bytes of the line before it. -/
def lineTokens (line : Array Char) : Nat → Nat → List Char → List Token
  | 0, _, rest => [plainToken rest]
  | more + 1, offset, rest =>
      match cutAtPair '=' '?' rest with
      | none => [plainToken rest]
      | some (before, after) =>
          let opening := offset + byteLength before
          if 0 < opening ∧ ¬ boundaryAt line (opening - 1) then
            .text (before ++ ['=', '?']) :: lineTokens line more (opening + 2) after
          else
            plainToken before ::
              match closing line (line.size + 1) (opening + 2) [] after with
              | none => .text ['=', '?'] :: lineTokens line more (opening + 2) after
              | some (inside, behind) =>
                  (match decodeWord inside with
                    | some chars => .word chars
                    | none => .text ('=' :: '?' :: inside ++ ['?', '=']))
                    :: lineTokens line more (opening + 4 + byteLength inside) behind

def tokens (line : List Char) : List Token :=
  lineTokens line.toArray line.length 0 line

/-- What is held back behind an encoded word until it is known whether another one follows. -/
inductive Held
  | nothing
  | afterWord
  | blanks (chars : List Char)
  | newline (chars : List Char)

/-- The text of the pieces: blanks and line ends between two encoded words are dropped, every other
line end is a space. -/
def assemble : Held → List Token → List Char
  | _, [] => []
  | held, .text chars :: rest =>
      (match held with
        | .blanks b => b
        | .newline b => b
        | .nothing | .afterWord => []) ++ chars ++ assemble .nothing rest
  | .afterWord, .blanks b :: rest => assemble (.blanks b) rest
  | _, .blanks b :: rest => b ++ assemble .nothing rest
  | .blanks b, .newline :: rest => assemble (.newline (b ++ [' '])) rest
  | .afterWord, .newline :: rest => assemble (.newline [' ']) rest
  | _, .newline :: rest => ' ' :: assemble .nothing rest
  | _, .word chars :: rest => chars ++ assemble .afterWord rest

/-- The text of a folded header value. -/
def decode (lines : List (List Char)) : String :=
  let pieces := lines.map fun line => tokens (line.dropWhile isBlank)
  String.ofList (assemble .nothing (joinWith [.newline] pieces))

example : decode ["=?utf-8?q?caf=C3=A9_x?=".toList] = "café x" := by decide +kernel
example : decode ["=?UTF-8?B?w6k=?=".toList, " =?UTF-8?B?w6k=?=".toList] = "éé" := by
  decide +kernel
example : decode ["a=?UTF-8?B?w6k=?=b".toList] = "a=?UTF-8?B?w6k=?=b" := by decide +kernel

end MailIntake.EncodedWord
