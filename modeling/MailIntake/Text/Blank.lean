import MailIntake.Text.Split
/-!
The characters with the White_Space property, and trimming them from both ends of a text.
-/
namespace MailIntake.Text

/-- Characters with the Unicode property White_Space. -/
def isBlank (c : Char) : Bool :=
  let n := c.toNat
  (9 ≤ n && n ≤ 13) || n == 0x20 || n == 0x85 || n == 0xA0 || n == 0x1680
    || (0x2000 ≤ n && n ≤ 0x200A) || n == 0x2028 || n == 0x2029 || n == 0x202F || n == 0x205F
    || n == 0x3000

/-- The text without the blanks at either end. -/
def trim (text : String) : String :=
  String.ofList (dropTailWhile isBlank (text.toList.dropWhile isBlank))

end MailIntake.Text
