import MailIntake.Text.Ascii
/-!
A command line of the mail protocol, cut into the pieces that its commands are read from.  Nothing
is checked here: every line has an action, possibly the empty one.
-/
namespace MailIntake

open Text

/-- A command line whose line end has been removed. -/
structure CommandLine where
  /-- The first word in upper case. -/
  action : String
  /-- The words, the verb included. -/
  fields : List String
  /-- The second word cut at its colons, so that `FROM:<a@b>` gives `FROM` and `<a@b>`. -/
  params : List String
deriving DecidableEq, Repr

namespace CommandLine

def atColons (text : String) : List String :=
  (splitOn (· == ':') text.toList).map String.ofList

def withColons (pieces : List String) : String :=
  String.ofList (joinWith [':'] (pieces.map String.toList))

/-- Clients write `MAIL FROM: <a@b>` with a space after the colon; the value is put back behind a
second word that ends in one. -/
def glueValue : List String → List String
  | verb :: key :: value :: rest =>
      if key.toList.getLast? = some ':' then verb :: (key ++ value) :: rest
      else verb :: key :: value :: rest
  | fields => fields

def ofWords (words : List String) : CommandLine :=
  let fields := glueValue words
  { action := Ascii.upper (words.headD "")
    fields := fields
    params := match fields with
      | _ :: second :: _ => atColons second
      | _ => [] }

/-- Cuts a line into words at ASCII blanks. -/
def parse (line : String) : CommandLine :=
  ofWords (Ascii.words line)

def arguments (c : CommandLine) : List String :=
  c.fields.drop 1

/-- The first word after the verb. -/
def argument? (c : CommandLine) : Option String :=
  c.fields[1]?

/-- What stands before the first colon of the second word, in upper case: `FROM` in
`MAIL from:<a@b>`. -/
def keyword? (c : CommandLine) : Option String :=
  c.params.head?.map Ascii.upper

/-- Everything behind the first colon of the second word; later colons belong to it, as in an IPv6
address. -/
def pathArgument? (c : CommandLine) : Option String :=
  match c.params with
  | _ :: second :: rest => some (withColons (second :: rest))
  | _ => none

/-- The words behind the path, such as `SIZE=1234`. -/
def esmtpParameters (c : CommandLine) : List String :=
  c.fields.drop 2

/-- The commands that are known. -/
inductive Verb
  | helo
  | ehlo
  | mail
  | rcpt
  | data
  | rset
  | noop
  | quit
  | startTls
  | auth
  | proxy
  | xclient
deriving DecidableEq, Repr

def Verb.ofAction? (action : String) : Option Verb :=
  match action with
  | "HELO" => some .helo
  | "EHLO" => some .ehlo
  | "MAIL" => some .mail
  | "RCPT" => some .rcpt
  | "DATA" => some .data
  | "RSET" => some .rset
  | "NOOP" => some .noop
  | "QUIT" => some .quit
  | "STARTTLS" => some .startTls
  | "AUTH" => some .auth
  | "PROXY" => some .proxy
  | "XCLIENT" => some .xclient
  | _ => none

def verb? (c : CommandLine) : Option Verb :=
  Verb.ofAction? c.action

example : (parse "mail FROM: <a@[IPv6:::1]> SIZE=1").pathArgument? = some "<a@[IPv6:::1]>" := by
  decide +kernel
example : (parse "mail FROM: <a@b> SIZE=1").esmtpParameters = ["SIZE=1"] := by decide +kernel

end CommandLine
end MailIntake
