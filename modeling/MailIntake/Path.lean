import MailIntake.Text.Ascii
/-!
Sender and recipient paths: their values, their written form and their reader.  The reader follows
the grammar from left to right, takes the longest repetition everywhere and never tries a later
alternative once an earlier one has matched.
-/
namespace MailIntake

open Text

/-- What stands behind the `@` of a mailbox. -/
inductive Domain
  /-- A domain name. -/
  | name (name : String)
  /-- Four groups of digits in brackets. -/
  | v4 (address : String)
  /-- An address behind `IPv6:` in brackets. -/
  | v6 (address : String)
  /-- Another tag and its content in brackets. -/
  | tagged (tag content : String)
deriving DecidableEq, Repr

/-- A local part at a domain. -/
structure Mailbox where
  localPart : String
  domain : Domain
deriving DecidableEq, Repr

/-- A mailbox and the source route in front of it. -/
structure MailPath where
  route : List String
  mailbox : Mailbox
deriving DecidableEq, Repr

/-- The argument of `MAIL FROM:`. -/
inductive ReversePath
  | null
  | path (path : MailPath)
deriving DecidableEq, Repr

/-- The argument of `RCPT TO:`. -/
inductive ForwardPath
  | postmaster
  | path (path : MailPath)
deriving DecidableEq, Repr

def Domain.render : Domain → String
  | .name text => text
  | .v4 address => "[" ++ address ++ "]"
  | .v6 address => "[IPv6:" ++ address ++ "]"
  | .tagged tag content => "[" ++ tag ++ ":" ++ content ++ "]"

def Mailbox.render (m : Mailbox) : String :=
  m.localPart ++ "@" ++ m.domain.render

/-- A path as it is written: source routes are accepted and left out. -/
def MailPath.render (p : MailPath) : String :=
  p.mailbox.render

/-- A sender as it is written; the null sender is the empty text. -/
def ReversePath.render : ReversePath → String
  | .null => ""
  | .path p => p.render

def ForwardPath.render : ForwardPath → String
  | .postmaster => "postmaster"
  | .path p => p.render

def ReversePath.mailbox? : ReversePath → Option Mailbox
  | .null => none
  | .path p => some p.mailbox

def ForwardPath.mailbox? : ForwardPath → Option Mailbox
  | .postmaster => none
  | .path p => some p.mailbox

namespace Path

/-- What is left of a text behind something the grammar accepts, or nothing. -/
abbrev Skip := List Char → Option (List Char)

/-- What a rule makes of the head of a text, and what is left behind it. -/
abbrev Read (A : Type) := List Char → Option (A × List Char)

/-- Characters beyond ASCII. -/
def isForeign (c : Char) : Bool :=
  0x80 ≤ c.toNat

def isAtomChar (c : Char) : Bool :=
  Ascii.isAlphanum c || "!#$%&'*+-/=?^_`\x7b|\x7d~".toList.contains c || isForeign c

/-- Characters that stand for themselves between quotes. -/
def isQuotedChar (c : Char) : Bool :=
  (' ' ≤ c ∧ c ≤ '!') ∨ ('#' ≤ c ∧ c ≤ '[') ∨ (']' ≤ c ∧ c ≤ '~') ∨ isForeign c

/-- Characters that may follow a backslash between quotes. -/
def isEscapable (c : Char) : Bool :=
  ' ' ≤ c ∧ c ≤ '~'

/-- First characters of a domain label. -/
def isLabelStart (c : Char) : Bool :=
  Ascii.isAlphanum c || isForeign c

/-- Later characters of a domain label. -/
def isLabelChar (c : Char) : Bool :=
  isLabelStart c || c == '-'

/-- First characters of a literal's tag. -/
def isTagStart (c : Char) : Bool :=
  Ascii.isAlphanum c

/-- Later characters of a literal's tag. -/
def isTagChar (c : Char) : Bool :=
  Ascii.isAlphanum c || c == '-'

def isV6Char (c : Char) : Bool :=
  (Ascii.hexDigit? c).isSome || c == ':' || c == '.'

/-- Characters of a tagged literal's content. -/
def isContentChar (c : Char) : Bool :=
  ('!' ≤ c ∧ c ≤ 'Z') ∨ ('^' ≤ c ∧ c ≤ '~')

/-- One given character. -/
def char (c : Char) : Skip
  | [] => none
  | d :: rest => if d = c then some rest else none

/-- A given text, the case of ASCII letters aside. -/
def anyCase : List Char → Skip
  | [], text => some text
  | _ :: _, [] => none
  | c :: want, d :: text => if d.toUpper = c.toUpper then anyCase want text else none

/-- The longest run of accepted characters, which may be empty. -/
def run (accept : Char → Bool) (text : List Char) : List Char × List Char :=
  (text.takeWhile accept, text.dropWhile accept)

/-- The longest run of accepted characters, at least one. -/
def run1 (accept : Char → Bool) : Read (List Char) := fun text =>
  match run accept text with
  | ([], _) => none
  | found => some found

/-- One character of `start` and the longest run of `more` behind it. -/
def headed (start more : Char → Bool) : Read (List Char)
  | [] => none
  | c :: rest =>
      if start c then
        let (run, rest) := run more rest
        some (c :: run, rest)
      else none

/-- One `item` and then, as long as a dot with another item behind it follows, these as well.  The
number bounds how many more items are read; the length of the text is enough. -/
def dotted (item : Read (List Char)) : Nat → Read (List Char)
  | 0, text => item text
  | more + 1, text =>
      match item text with
      | none => none
      | some (found, rest) =>
          match char '.' rest with
          | none => some (found, rest)
          | some behind =>
              match dotted item more behind with
              | none => some (found, rest)
              | some (tail, rest) => some (found ++ '.' :: tail, rest)

/-- Atoms with dots between them. -/
def dotString : Read (List Char) := fun text =>
  dotted (run1 isAtomChar) text.length text

/-- The inside of a quoted local part, up to the quote that ends it. -/
def quotedBody : List Char → List Char × List Char
  | '\\' :: c :: rest =>
      if isEscapable c then
        let (body, rest) := quotedBody rest
        ('\\' :: c :: body, rest)
      else ([], '\\' :: c :: rest)
  | c :: rest =>
      if isQuotedChar c then
        let (body, rest) := quotedBody rest
        (c :: body, rest)
      else ([], c :: rest)
  | [] => ([], [])

/-- A local part in quotes, which belong to it. -/
def quotedString : Read (List Char) := fun text => do
  let text ← char '"' text
  let (body, text) := quotedBody text
  let text ← char '"' text
  return ('"' :: body ++ ['"'], text)

def localPart : Read (List Char) := fun text =>
  match dotString text with
  | some found => some found
  | none => quotedString text

def domainName : Read (List Char) := fun text =>
  dotted (headed isLabelStart isLabelChar) text.length text

def digits3 : Read (List Char) := fun text =>
  match (text.take 3).takeWhile Char.isDigit with
  | [] => none
  | found => some (found, text.drop found.length)

/-- Four groups of one to three digits with dots between them. -/
def v4Literal : Read Domain := fun text => do
  let (a, text) ← digits3 text
  let (b, text) ← digits3 (← char '.' text)
  let (c, text) ← digits3 (← char '.' text)
  let (d, text) ← digits3 (← char '.' text)
  return (.v4 (String.ofList (joinWith ['.'] [a, b, c, d])), text)

/-- The tag of IPv6 literals and an address behind it. -/
def v6Literal : Read Domain := fun text => do
  let text ← anyCase "IPv6:".toList text
  let (address, text) ← run1 isV6Char text
  return (.v6 (String.ofList address), text)

/-- A tag, a colon and a content. -/
def taggedLiteral : Read Domain := fun text => do
  let (tag, text) ← headed isTagStart isTagChar text
  let text ← char ':' text
  let (content, text) ← run1 isContentChar text
  return (.tagged (String.ofList tag) (String.ofList content), text)

/-- The inside of a bracketed literal, by the first form that matches its head. -/
def literalBody : Read Domain := fun text =>
  match v4Literal text with
  | some found => some found
  | none =>
      match v6Literal text with
      | some found => some found
      | none => taggedLiteral text

def literal : Read Domain := fun text => do
  let text ← char '[' text
  let (domain, text) ← literalBody text
  let text ← char ']' text
  return (domain, text)

/-- What may stand behind the `@` of a mailbox. -/
def domain : Read Domain := fun text =>
  match domainName text with
  | some (name, rest) => some (.name (String.ofList name), rest)
  | none => literal text

def mailbox : Read Mailbox := fun text => do
  let (found, text) ← localPart text
  let text ← char '@' text
  let (domain, text) ← domain text
  return (⟨String.ofList found, domain⟩, text)

def atDomain : Read String := fun text => do
  let text ← char '@' text
  let (name, text) ← domainName text
  return (String.ofList name, text)

/-- Domains of a source route with commas between them; the number bounds how many. -/
def hops : Nat → Read (List String)
  | 0, text => (atDomain text).map fun (hop, rest) => ([hop], rest)
  | more + 1, text =>
      match atDomain text with
      | none => none
      | some (hop, rest) =>
          match char ',' rest with
          | none => some ([hop], rest)
          | some behind =>
              match hops more behind with
              | none => some ([hop], rest)
              | some (tail, rest) => some (hop :: tail, rest)

/-- A source route with the colon that ends it. -/
def route : Read (List String) := fun text => do
  let (hops, text) ← hops text.length text
  let text ← char ':' text
  return (hops, text)

/-- A mailbox with or without a source route. -/
def bare : Read MailPath := fun text =>
  let (hops, text) := (route text).getD ([], text)
  (mailbox text).map fun (found, rest) => (⟨hops, found⟩, rest)

def bracketed : Read MailPath := fun text => do
  let text ← char '<' text
  let (path, text) ← bare text
  let text ← char '>' text
  return (path, text)

/-- A path with or without angle brackets. -/
def either : Read MailPath := fun text =>
  match bracketed text with
  | some found => some found
  | none => bare text

def nullSender : Skip := fun text => do
  char '>' (← char '<' text)

/-- The bare name of the postmaster, in angle brackets or not. -/
def postmaster : Skip := fun text =>
  match anyCase "<postmaster>".toList text with
  | some rest => some rest
  | none => anyCase "postmaster".toList text

end Path

/-- The sender that the characters denote. -/
def ReversePath.ofChars? (text : List Char) : Option ReversePath :=
  match Path.nullSender text with
  | some [] => some .null
  | some _ => none
  | none =>
      match Path.either text with
      | some (found, []) => some (.path found)
      | _ => none

def ReversePath.parse? (text : String) : Option ReversePath :=
  ofChars? text.toList

/-- The recipient that the characters denote. -/
def ForwardPath.ofChars? (text : List Char) : Option ForwardPath :=
  match Path.either text with
  | some (found, []) => some (.path found)
  | some _ => none
  | none =>
      match Path.postmaster text with
      | some [] => some .postmaster
      | _ => none

def ForwardPath.parse? (text : String) : Option ForwardPath :=
  ofChars? text.toList

end MailIntake
