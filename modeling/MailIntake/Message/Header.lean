import MailIntake.Reply
import MailIntake.Message.EncodedWord
/-!
The header fields of a message.  A field is a key up to the first colon and a value that goes on
over lines that begin with a space or a tab; a line without a colon is a key with an empty value.
The fields end with an empty line or with the message.
-/
namespace MailIntake

open Text

/-- A header field, its value unfolded and decoded. -/
structure Header where
  key : String
  value : String
deriving DecidableEq, Repr

namespace Header

/-- Bytes with a meaning in headers. -/
def byteSpace : UInt8 := 0x20

@[inherit_doc byteSpace]
def byteTab : UInt8 := 0x09

@[inherit_doc byteSpace]
def byteColon : UInt8 := 0x3A

@[inherit_doc byteSpace]
def byteReturn : UInt8 := 0x0D

@[inherit_doc byteSpace]
def byteFeed : UInt8 := 0x0A

/-- What is wrong with a header block. -/
inductive Error
  /-- A field begins with a space. -/
  | startsWithSpace
  /-- A carriage return without a line feed stands where a field may begin. -/
  | loneReturn
deriving DecidableEq, Repr

/-- A field as its bytes stand in the message. -/
structure Raw where
  key : List UInt8
  value : List UInt8
deriving DecidableEq, Repr

/-- The bytes up to the end of the first line that is not followed by a continuation line, and the
bytes behind it. -/
def takeFolded : List UInt8 → List UInt8 × List UInt8
  | [] => ([], [])
  | b :: rest =>
      let goesOn : Bool :=
        match rest with
        | c :: _ => c == byteSpace || c == byteTab
        | [] => false
      if b = byteFeed ∧ ¬ goesOn then ([b], rest)
      else
        let (value, behind) := takeFolded rest
        (b :: value, behind)

def endsKey (b : UInt8) : Bool :=
  b == byteColon || b == byteFeed

def isLineEndByte (b : UInt8) : Bool :=
  b == byteReturn || b == byteFeed

/-- The field at the head of a header block, and what follows it. -/
def read (data : List UInt8) : Raw × List UInt8 :=
  let key := data.takeWhile fun b => !endsKey b
  match data.dropWhile fun b => !endsKey b with
  | [] => (⟨key, []⟩, [])
  | b :: rest =>
      if b = byteFeed then (⟨key, []⟩, rest)
      else
        let (value, behind) := takeFolded (rest.dropWhile (· == byteSpace))
        (⟨key, dropTailWhile isLineEndByte value⟩, behind)

/-- The fields at the head of a message and what follows them.  The count bounds how many fields
are read; the length of the message is enough. -/
def readAll : Nat → List UInt8 → Except Error (List Raw × List UInt8)
  | 0, data => .ok ([], data)
  | _ + 1, [] => .ok ([], [])
  | more + 1, b :: rest =>
      if b = byteFeed then .ok ([], rest)
      else if b = byteReturn then
        match rest with
        | c :: body => if c = byteFeed then .ok ([], body) else .error .loneReturn
        | [] => .error .loneReturn
      else if b = byteSpace then .error .startsWithSpace
      else do
        let (field, behind) := read (b :: rest)
        let (fields, body) ← readAll more behind
        return (field :: fields, body)

/-- The fields of a message as they stand in it, and its body. -/
def split (message : List UInt8) : Except Error (List Raw × List UInt8) :=
  readAll (message.length + 1) message

/-- A field with its key and its value as text: the value is UTF-8, or Latin-1 if it is not valid
UTF-8. -/
def ofRaw (raw : Raw) : Header :=
  let value :=
    match Utf8.decode? raw.value with
    | some text => text
    | none => Utf8.decodeLatin1 raw.value
  ⟨Utf8.decodeLatin1 raw.key, EncodedWord.decode (textLines value.toList)⟩

/-- The header fields of a message; one fault in the block leaves none. -/
def ofMessage (message : List UInt8) : List Header :=
  match split message with
  | .ok (fields, _) => fields.map ofRaw
  | .error _ => []

/-- The value of the first field with the given key in any case. -/
def find? (headers : List Header) (key : String) : Option String :=
  (headers.find? fun h => Ascii.sameIgnoringCase h.key key).map Header.value

end Header
end MailIntake
