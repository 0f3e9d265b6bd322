import MailIntake.Text.Ascii
/-!
Hiding what differs from run to run: identifiers of 32 hexadecimal digits and dates in the form of
mail headers.  Everything else stays as it is.
-/
namespace MailIntake.Text.Redact

def isIdDigit (c : Char) : Bool :=
  ('0' ≤ c ∧ c ≤ '9') ∨ ('a' ≤ c ∧ c ≤ 'f')

/-- One kind of character in the pattern of a date. -/
inductive Place
  | upper
  | lower
  | digit
  | exactly (c : Char)

def Place.fits (c : Char) : Place → Bool
  | .upper => c.isUpper
  | .lower => c.isLower
  | .digit => c.isDigit
  | .exactly d => c == d

def beginsWith : List Place → List Char → Bool
  | [], _ => true
  | _ :: _, [] => false
  | p :: places, c :: text => p.fits c && beginsWith places text

def literally (text : String) : List Place :=
  text.toList.map .exactly

def datePattern (dayDigits : Nat) : List Place :=
  let name := [Place.upper, .lower, .lower]
  let two := [Place.digit, .digit]
  name ++ literally ", " ++ List.replicate dayDigits .digit ++ literally " " ++ name ++ literally " "
    ++ two ++ two ++ literally " " ++ two ++ literally ":" ++ two ++ literally ":" ++ two
    ++ literally " +0000"

/-- The stand-in for what a text begins with, and the length of that, if it is to be hidden.  An
identifier is a whole run of its digits: `inRun` says that the text goes on with a run that has begun
before it. -/
def hiddenAt (inRun : Bool) (text : List Char) : Option (String × Nat) :=
  if ¬ inRun ∧ (text.takeWhile isIdDigit).length = 32 then some ("<ID>", 32)
  else if beginsWith (datePattern 1) text then some ("<DATE>", (datePattern 1).length)
  else if beginsWith (datePattern 2) text then some ("<DATE>", (datePattern 2).length)
  else none

/-- The text with stand-ins; the first `skip` characters have one already. -/
def hideFrom (skip : Nat) (inRun : Bool) : List Char → List Char
  | [] => []
  | c :: rest =>
      match skip with
      | n + 1 => hideFrom n false rest
      | 0 =>
          match hiddenAt inRun (c :: rest) with
          | some (standIn, length) => standIn.toList ++ hideFrom (length - 1) false rest
          | none => c :: hideFrom 0 (isIdDigit c) rest

/-- The text with stand-ins for identifiers and dates. -/
def hide (text : String) : String :=
  String.ofList (hideFrom 0 false text.toList)

example : hide "id 0123456789abcdef0123456789abcdef; Thu, 1 Jan 1970 00:00:00 +0000." =
    "id <ID>; <DATE>." := by decide +kernel
example : hide "0123456789abcdef0123456789abcdef0" = "0123456789abcdef0123456789abcdef0" := by
  decide +kernel

end MailIntake.Text.Redact
