import MailIntake.Text.Unprintable
/-!
Text in double quotes for messages.  Quotes, backslashes and the usual control characters are
written with a backslash, every other character that does not print as its code point in braces.
-/
namespace MailIntake.Text.Quoted

def codePoint (c : Char) : List Char :=
  "\\u\x7b".toList ++ Nat.toDigits 16 c.toNat ++ ['\x7d']

def renderChar (c : Char) : List Char :=
  match c with
  | '\x00' => ['\\', '0']
  | '\t' => ['\\', 't']
  | '\r' => ['\\', 'r']
  | '\n' => ['\\', 'n']
  | '"' => ['\\', '"']
  | '\\' => ['\\', '\\']
  | c =>
      if c.toNat < 0x80 then
        if c.toNat < 0x20 ∨ c.toNat = 0x7f then codePoint c else [c]
      else if isUnprintable c then codePoint c
      else [c]

def render (text : String) : String :=
  String.ofList ('"' :: text.toList.flatMap renderChar ++ ['"'])

end MailIntake.Text.Quoted
