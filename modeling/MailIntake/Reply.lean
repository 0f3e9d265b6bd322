import MailIntake.Text.Ascii
import MailIntake.Text.Quoted
/-!
Replies of the mail protocol: how a code and a message are written on the wire, how a line of a
reply is read, and how lines add up to a reply.
-/
namespace MailIntake

open Text

/-- The lines of a text: cut at line feeds, one carriage return before each dropped, and no line
behind the last line feed. -/
def textLines (text : List Char) : List (List Char) :=
  let pieces := splitOn (· == '\n') text
  let dropReturn (piece : List Char) : List Char :=
    if piece.getLast? = some '\r' then piece.dropLast else piece
  match pieces.reverse with
  | [] => []
  | last :: earlier =>
      let ended := earlier.reverse.map dropReturn
      if last.isEmpty then ended else ended ++ [last]

/-- A reply: its code and its message. -/
structure Reply where
  code : UInt16
  message : String
deriving DecidableEq, Repr

namespace Reply

def renderLine (code : UInt16) (mark : Char) (line : List Char) : List Char :=
  (toString code.toNat).toList ++ mark :: line ++ ['\r', '\n']

/-- Lines of a reply on the wire: a dash marks every line but the last. -/
def renderLines (code : UInt16) : List (List Char) → List Char
  | [] => renderLine code ' ' []
  | [line] => renderLine code ' ' line
  | line :: more => renderLine code '-' line ++ renderLines code more

/-- A reply on the wire: one line for each line of the message, and one for an empty message. -/
def render (r : Reply) : String :=
  String.ofList (renderLines r.code (textLines r.message.toList))

end Reply

structure ReplyLine where
  code : UInt16
  isFinal : Bool
  content : String
deriving DecidableEq, Repr

/-- Why a line does not continue a reply. -/
inductive ReplyError
  /-- The line has no three characters of code with a space or a dash behind them. -/
  | malformed (line : String)
  /-- The line has another code than the lines before it. -/
  | codeChanged (before now : UInt16)
deriving DecidableEq, Repr

def ReplyError.message : ReplyError → String
  | .malformed line => "malformed response line " ++ Quoted.render line
  | .codeChanged before now =>
      "reply code changed from " ++ toString before.toNat ++ " to " ++ toString now.toNat
        ++ " mid-response"

def isLineEnd (c : Char) : Bool :=
  c == '\r' || c == '\n'

/-- The code that three bytes of ASCII write: a decimal number, one plus sign allowed before it. -/
def readCode? (text : List Char) : Option UInt16 :=
  (Ascii.boundedNumber? 65536 text).map UInt16.ofNat

/-- Reads one line of a reply; line ends at its end do not belong to it.  The code covers the
first three bytes, so that a character of several bytes among them is malformed. -/
def ReplyLine.parse (line : String) : Except ReplyError ReplyLine :=
  let text := dropTailWhile isLineEnd line.toList
  let malformed : Except ReplyError ReplyLine := .error (.malformed (String.ofList text))
  match text with
  | a :: b :: c :: mark :: content =>
      if a.toNat < 0x80 ∧ b.toNat < 0x80 ∧ c.toNat < 0x80 ∧ (mark = ' ' ∨ mark = '-') then
        match readCode? [a, b, c] with
        | some code => .ok ⟨code, mark = ' ', String.ofList content⟩
        | none => malformed
      else malformed
  | _ => malformed

/-- A complete reply as it is read. -/
structure Response where
  code : UInt16
  lines : List String
deriving DecidableEq, Repr

/-- The lines of a reply as one text. -/
def Response.content (r : Response) : String :=
  "\n".intercalate r.lines

/-- Replies that do not refuse. -/
def Response.isPositive (r : Response) : Bool :=
  200 ≤ r.code && r.code < 400

/-- The lines read so far of a reply that is not complete, and their code once there is one. -/
structure ResponseBuilder where
  code : Option UInt16 := none
  lines : List String := []
deriving DecidableEq, Repr

/-- Adds a line that fits: the last line of a reply completes it and leaves nothing behind. -/
def ResponseBuilder.push (b : ResponseBuilder) (line : ReplyLine) :
    Option Response × ResponseBuilder :=
  let lines := b.lines ++ [line.content]
  if line.isFinal then (some ⟨line.code, lines⟩, {}) else (none, ⟨some line.code, lines⟩)

/-- What a line does to the reply being read: the complete reply if it is the last line.  A line
that does not fit leaves everything as it was. -/
def ResponseBuilder.addLine (b : ResponseBuilder) (line : String) :
    Except ReplyError (Option Response) × ResponseBuilder :=
  match ReplyLine.parse line with
  | .error e => (.error e, b)
  | .ok parsed =>
      let fits := b.code.all (· == parsed.code)
      if fits then
        let (complete, rest) := b.push parsed
        (.ok complete, rest)
      else (.error (.codeChanged (b.code.getD 0) parsed.code), b)

end MailIntake
