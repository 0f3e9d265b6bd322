import MailIntake.Message.Header
/-!
The parts of a multipart message.  The header `Content-Type` names a boundary; the lines that begin
with it separate the parts, and each part is a message of its own.
-/
namespace MailIntake.Mime

open Text

/-- Parameters of a header value, keys in lower case. -/
abbrev Params := List (String × String)

/-- The text in lower case, as far as ASCII goes. -/
def lower (text : List Char) : List Char :=
  text.map Char.toLower

/-- The characters without the blanks at either end. -/
def trimChars (text : List Char) : List Char :=
  dropTailWhile isBlank (text.dropWhile isBlank)

/-- A parameter's value without the quotes around it. -/
def unquoted (value : List Char) : List Char :=
  match value with
  | '"' :: rest => if rest.getLast? = some '"' then rest.dropLast else value
  | _ => value

/-- A parameter: a key, an equals sign and a value. -/
def param? (text : List Char) : Option (String × String) :=
  (cutOnce (· == '=') text).map fun (key, value) =>
    (String.ofList (lower (trimChars key)), String.ofList (unquoted (trimChars value)))

/-- The value in front of the first semicolon, in lower case, and the parameters behind it. -/
def parseValue (text : String) : String × Params :=
  match splitOn (· == ';') text.toList with
  | [] => ("", [])
  | value :: params => (String.ofList (lower (trimChars value)), params.filterMap param?)

/-- The value of a parameter; of several with one key the last one counts. -/
def Params.get? (params : Params) (key : String) : Option String :=
  (params.reverse.find? fun p => p.1 == key).map Prod.snd

/-- The bytes of a percent-encoded text; what is no escape stands for itself. -/
def percentDecode : List Char → List UInt8
  | '%' :: high :: low :: rest =>
      match Ascii.hexDigit? high, Ascii.hexDigit? low with
      | some h, some l => UInt8.ofNat (h * 16 + l) :: percentDecode rest
      | _, _ => 0x25 :: percentDecode (high :: low :: rest)
  | c :: rest => String.utf8EncodeChar c ++ percentDecode rest
  | [] => []

/-- The charset in front of the first apostrophe of an extended value. -/
def extendedCharset (value : String) : String :=
  String.ofList ((splitOn (· == '\'') value.toList).headD [])

/-- An extended value without its charset and language. -/
def withoutCharset (value : String) : List Char :=
  match splitOn (· == '\'') value.toList with
  | _ :: _ :: rest => joinWith ['\''] rest
  | _ => []

def decodeExtended (value : String) : Option String :=
  (Charset.ofLabel? (extendedCharset value)).map fun encoding =>
    encoding.decode (percentDecode (withoutCharset value))

/-- One segment of a continued parameter, given plainly or extended.  If the first segment is
extended, its charset is that of all; otherwise each extended segment names its own. -/
def segment? (params : Params) (key : String) (n : Nat) : Option String :=
  let name := key ++ "*" ++ toString n
  match params.get? name with
  | some plain => some plain
  | none => do
      let value ← params.get? (name ++ "*")
      match params.get? (key ++ "*0"), params.get? (key ++ "*0*") with
      | none, some first =>
          if n = 0 then decodeExtended value
          else
            let encoding ← Charset.ofLabel? (extendedCharset first)
            return encoding.decode (percentDecode value.toList)
      | _, _ => decodeExtended value

/-- The segments of a continued parameter from number `n` on.  The count bounds how many there
are. -/
def segments (params : Params) (key : String) : Nat → Nat → List String
  | 0, _ => []
  | more + 1, n =>
      match segment? params key n with
      | some segment => segment :: segments params key more (n + 1)
      | none => []

/-- The value of a parameter that may be given plainly, extended or in continued segments. -/
def Params.extended? (params : Params) (key : String) : Option String :=
  match params.get? key, (params.get? (key ++ "*")).bind decodeExtended with
  | some value, _ => some value
  | none, some value => some value
  | none, none =>
      match segments params key params.length 0 with
      | [] => none
      | found => some (String.join found)

/-- The data behind a mark at their head.  There have to be some: a mark at the very end does not
count. -/
def behindMark? (mark data : List UInt8) : Option (List UInt8) :=
  match afterHead? mark data with
  | some [] => none
  | found => found

/-- What stands before and behind the first line that begins with `mark`; `fresh` says that the
data begin a line. -/
def cutAtLine (mark : List UInt8) : Bool → List UInt8 → Option (List UInt8 × List UInt8)
  | fresh, data =>
      match if fresh then behindMark? mark data else none with
      | some rest => some ([], rest)
      | none =>
          match data with
          | [] => none
          | b :: rest =>
              (cutAtLine mark (b == Header.byteFeed) rest).map fun (before, after) =>
                (b :: before, after)

/-- The data without the line end at their end, if there is one. -/
def withoutLineEnd (data : List UInt8) : List UInt8 :=
  match data.reverse with
  | a :: b :: rest =>
      if a = Header.byteFeed then
        if b = Header.byteReturn then rest.reverse else (b :: rest).reverse
      else data
  | [a] => if a = Header.byteFeed then [] else data
  | [] => data

/-- The parts behind a boundary: each begins on the next line, if there is anything on it, and goes
on to the next boundary, the last one to a boundary with two dashes behind it or to the end.  The
count bounds how many parts there are. -/
def partsFrom (mark : List UInt8) : Nat → List UInt8 → List (List UInt8)
  | 0, _ => []
  | more + 1, data =>
      match cutOnce (· == Header.byteFeed) data with
      | none | some (_, []) => []
      | some (_, start) =>
          match cutAtLine mark true start with
          | none => [start]
          | some (part, behind) =>
              withoutLineEnd part ::
                match behind with
                | a :: b :: _ =>
                    if a = 0x2D ∧ b = 0x2D then [] else partsFrom mark more behind
                | _ => []

def boundary? (fields : List Header.Raw) : Option (List UInt8) := do
  let value ← Header.find? (fields.map Header.ofRaw) "Content-Type"
  let (kind, params) := parseValue value
  let _ ← afterHead? "multipart/".toList kind.toList
  let boundary ← params.extended? "boundary"
  return 0x2D :: 0x2D :: Utf8.encode boundary

def parts (fields : List Header.Raw) (body : List UInt8) : List (List UInt8) :=
  match boundary? fields with
  | none => []
  | some mark =>
      match cutAtLine mark true body with
      | none => []
      | some (_, behind) => partsFrom mark (behind.length + 1) behind

/-- How many header fields and how many parts a message has.  Every part must be a message in
itself, as must the parts of a part.  The count bounds how deep parts are nested. -/
def countFrom : Nat → List UInt8 → Except Header.Error (Nat × Nat)
  | 0, _ => .ok (0, 0)
  | deeper + 1, message => do
      let (fields, body) ← Header.split message
      let inner := parts fields body
      inner.forM fun part => do
        let _ ← countFrom deeper part
      return (fields.length, inner.length)

/-- How many header fields and how many parts a message has. -/
def count (message : List UInt8) : Except Header.Error (Nat × Nat) :=
  countFrom (message.length + 1) message

end MailIntake.Mime
