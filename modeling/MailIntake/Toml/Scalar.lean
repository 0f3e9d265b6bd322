import MailIntake.Toml.Moment
import MailIntake.Value
/-!
The scalar values of TOML texts: quoted strings of all four kinds, truth values, numbers, and dates
and times.  A reader takes its value from the head of the text and gives what follows it.
-/
namespace MailIntake.Toml

open Text

/-- Characters that comments and strings may hold in one line: no control character but the tab. -/
def isPlain (c : Char) : Bool :=
  c == '\t' || (0x20 ≤ c.toNat && c.toNat != 0x7f)

def isSpace (c : Char) : Bool :=
  c == ' ' || c == '\t'

/-- The text behind the spaces and tabs at its head. -/
def skipSpaces (text : List Char) : List Char :=
  text.dropWhile isSpace

/-- The text behind a line end: a line feed, with or without a carriage return before it. -/
def newline? : List Char → Option (List Char)
  | '\n' :: rest => some rest
  | '\r' :: '\n' :: rest => some rest
  | _ => none

/-- The number that exactly `count` hexadecimal digits write. -/
def hexNumber? (count : Nat) (text : List Char) : Option (Nat × List Char) := do
  let digits := text.take count
  if digits.length < count then none
  else
    let values ← digits.mapM Ascii.hexDigit?
    return (values.foldl (fun n d => n * 16 + d) 0, text.drop count)

/-- The character with a code point, if there is one. -/
def char? (n : Nat) : Option Char :=
  if h : n.isValidChar then some (Char.ofNatAux n h) else none

/-- The character that an escape denotes; `text` begins behind the backslash. -/
def escape : Read Char
  | 'b' :: rest => some ('\x08', rest)
  | 't' :: rest => some ('\t', rest)
  | 'n' :: rest => some ('\n', rest)
  | 'f' :: rest => some ('\x0c', rest)
  | 'r' :: rest => some ('\r', rest)
  | 'e' :: rest => some ('\x1b', rest)
  | '"' :: rest => some ('"', rest)
  | '\\' :: rest => some ('\\', rest)
  | 'x' :: rest => do
      let (n, rest) ← hexNumber? 2 rest
      return (← char? n, rest)
  | 'u' :: rest => do
      let (n, rest) ← hexNumber? 4 rest
      return (← char? n, rest)
  | 'U' :: rest => do
      let (n, rest) ← hexNumber? 8 rest
      return (← char? n, rest)
  | _ => none

/-- The inside of a basic string and what follows its closing quote.  The count bounds how many
characters are read. -/
def basicBody : Nat → Read (List Char)
  | 0, _ => none
  | _ + 1, [] => none
  | _ + 1, '"' :: rest => some ([], rest)
  | more + 1, '\\' :: rest => do
      let (c, rest) ← escape rest
      let (body, rest) ← basicBody more rest
      return (c :: body, rest)
  | more + 1, c :: rest =>
      if isPlain c then do
        let (body, rest) ← basicBody more rest
        return (c :: body, rest)
      else none

/-- The inside of a literal string and what follows its closing quote. -/
def literalBody : Read (List Char)
  | [] => none
  | '\'' :: rest => some ([], rest)
  | c :: rest =>
      if isPlain c then do
        let (body, rest) ← literalBody rest
        return (c :: body, rest)
      else none

/-- The text behind blanks and line ends at its head. -/
def skipBlankLines : List Char → List Char
  | '\n' :: rest => skipBlankLines rest
  | '\r' :: '\n' :: rest => skipBlankLines rest
  | ' ' :: rest => skipBlankLines rest
  | '\t' :: rest => skipBlankLines rest
  | text => text

/-- The text behind blanks and line ends that a backslash at the end of a line takes out; there
must be a line end before the next other character. -/
def foldedLine? (text : List Char) : Option (List Char) :=
  (newline? (skipSpaces text)).map skipBlankLines

/-- What three quotes or more at the head of a text end: one or two quotes in excess of three belong
to the string. -/
def closing? (quote : Char) (text : List Char) : Option (List Char × List Char) :=
  let run := (text.takeWhile (· == quote)).length
  if run < 3 then none
  else if run ≤ 5 then some (List.replicate (run - 3) quote, text.drop run)
  else some ([quote, quote], text.drop 5)

/-- The inside of a basic string over several lines. -/
def basicLines : Nat → Read (List Char)
  | 0, _ => none
  | _ + 1, [] => none
  | more + 1, c :: rest =>
      match closing? '"' (c :: rest) with
      | some (last, behind) => some (last, behind)
      | none =>
          if c = '\\' then
            match foldedLine? rest with
            | some behind => basicLines more behind
            | none => do
                let (d, rest) ← escape rest
                let (body, rest) ← basicLines more rest
                return (d :: body, rest)
          else
            match newline? (c :: rest) with
            | some behind => do
                let (body, rest) ← basicLines more behind
                return ((if c = '\r' then ['\r', '\n'] else ['\n']) ++ body, rest)
            | none =>
                if isPlain c then do
                  let (body, rest) ← basicLines more rest
                  return (c :: body, rest)
                else none

/-- The inside of a literal string over several lines. -/
def literalLines : Nat → Read (List Char)
  | 0, _ => none
  | _ + 1, [] => none
  | more + 1, c :: rest =>
      match closing? '\'' (c :: rest) with
      | some (last, behind) => some (last, behind)
      | none =>
          match newline? (c :: rest) with
          | some behind => do
              let (body, rest) ← literalLines more behind
              return ((if c = '\r' then ['\r', '\n'] else ['\n']) ++ body, rest)
          | none =>
              if isPlain c then do
                let (body, rest) ← literalLines more rest
                return (c :: body, rest)
              else none

/-- The text without a line end at its head. -/
def skipNewline (text : List Char) : List Char :=
  (newline? text).getD text

def lineString : Read String
  | '"' :: rest => (basicBody (rest.length + 1) rest).map fun (s, rest) => (String.ofList s, rest)
  | '\'' :: rest => (literalBody rest).map fun (s, rest) => (String.ofList s, rest)
  | _ => none

def anyString : Read String
  | '"' :: '"' :: '"' :: rest =>
      (basicLines (rest.length + 1) (skipNewline rest)).map fun (s, rest) =>
        (String.ofList s, rest)
  | '\'' :: '\'' :: '\'' :: rest =>
      (literalLines (rest.length + 1) (skipNewline rest)).map fun (s, rest) =>
        (String.ofList s, rest)
  | text => lineString text

/-- Digits without their underscores, each of which must stand between two digits. -/
def ungrouped? (isDigit : Char → Bool) : List Char → Option (List Char)
  | [] => none
  | [c] => if isDigit c then some [c] else none
  | c :: '_' :: rest =>
      if isDigit c then (ungrouped? isDigit rest).map (c :: ·) else none
  | c :: rest => if isDigit c then (ungrouped? isDigit rest).map (c :: ·) else none

/-- The number that digits in a base write. -/
def inBase? (base : Nat) (digits : List Char) : Option Nat := do
  let isDigit (c : Char) : Bool := (Ascii.hexDigit? c).any (· < base)
  let digits ← ungrouped? isDigit digits
  return digits.foldl (fun n c => n * base + (Ascii.hexDigit? c).getD 0) 0

/-- A sign at the head of a text, and what follows it. -/
def signed (text : List Char) : Bool × List Char :=
  match text with
  | '-' :: rest => (true, rest)
  | '+' :: rest => (false, rest)
  | _ => (false, text)

/-- A whole decimal number without a leading zero. -/
def whole? (text : List Char) : Option Nat :=
  match text with
  | '0' :: _ :: _ => none
  | _ => inBase? 10 text

/-- An integer in one of the four bases; only decimal ones have a sign. -/
def integer? (text : List Char) : Option Int :=
  match text with
  | '0' :: 'x' :: digits => (inBase? 16 digits).map Int.ofNat
  | '0' :: 'o' :: digits => (inBase? 8 digits).map Int.ofNat
  | '0' :: 'b' :: digits => (inBase? 2 digits).map Int.ofNat
  | _ =>
      let (negative, digits) := signed text
      (whole? digits).map fun n => if negative then -(n : Int) else n

/-- A number with a fraction, an exponent or both. -/
def float? (text : List Char) : Option Float := do
  let (negative, text) := signed text
  let sign (x : Float) : Float := if negative then -x else x
  if text = "inf".toList then return sign (1.0 / 0.0)
  if text = "nan".toList then return 0.0 / 0.0
  let isExponentMark (c : Char) : Bool := c == 'e' || c == 'E'
  let (mantissa, exponent) :=
    match cutOnce isExponentMark text with
    | some (mantissa, exponent) => (mantissa, some exponent)
    | none => (text, none)
  let (front, fraction) :=
    match cutOnce (· == '.') mantissa with
    | some (front, fraction) => (front, some fraction)
    | none => (mantissa, none)
  if exponent.isNone ∧ fraction.isNone then none
  let _ ← whole? front
  let frontDigits ← ungrouped? Char.isDigit front
  let fractionDigits ←
    match fraction with
    | some digits => ungrouped? Char.isDigit digits
    | none => some []
  let power : Int ←
    match exponent with
    | some text =>
        let (minus, digits) := signed text
        (inBase? 10 digits).map fun n => if minus then -(n : Int) else n
    | none => some 0
  let n ← Ascii.number? (frontDigits ++ fractionDigits)
  let shift := power - fractionDigits.length
  let x := Float.ofScientific n (shift < 0) shift.natAbs
  if x.isInf then none else return sign x

def isScalarChar (c : Char) : Bool :=
  Ascii.isAlphanum c || c == '_' || c == '-' || c == '+' || c == '.' || c == ':'

/-- A scalar without quotes.  A date may be followed by a space and a time. -/
def scalar : Read Value := fun text =>
  let word := text.takeWhile isScalarChar
  let rest := text.drop word.length
  let (word, rest) :=
    match Date.read word, rest with
    | some (_, []), ' ' :: d :: more =>
        if d.isDigit then
          let time := (d :: more).takeWhile isScalarChar
          (word ++ ' ' :: time, (d :: more).drop time.length)
        else (word, rest)
    | _, _ => (word, rest)
  if word = "true".toList then some (.bool true, rest)
  else if word = "false".toList then some (.bool false, rest)
  else
    match Moment.parse? word with
    | some moment => some (.moment moment.render, rest)
    | none =>
        match integer? word with
        | some n =>
            if Int64.minValue.toInt ≤ n ∧ n.toNat < UInt64.size then some (.integer n, rest)
            else none
        | none => (float? word).map fun x => (.float x, rest)

end MailIntake.Toml
