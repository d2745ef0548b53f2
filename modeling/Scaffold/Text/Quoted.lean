import Scaffold.Text.Category
import Scaffold.Text.Property

/-!
# Quoted text in messages

A message shows a text between quotes in such a way that every character can be told: characters
that print nothing, and marks that would join the character in front of them, appear as their code
points.
-/

namespace Scaffold
namespace Text

/-- Characters that print nothing of their own. -/
def isUnprintable (c : Char) : Bool :=
  c != ' ' &&
    ([Category.control, Category.format, Category.privateUse, Category.unassigned,
      Category.lineSeparator, Category.paragraphSeparator, Category.spaceSeparator].any
        fun category => category.mem c)

/-- The code point in lower-case hexadecimal digits. -/
def hexText (n : Nat) : String := String.ofList (Nat.toDigits 16 n)

def quotedChar (c : Char) : String :=
  match c with
  | '"' => "\\\""
  | '\\' => "\\\\"
  | '\n' => "\\n"
  | '\r' => "\\r"
  | '\t' => "\\t"
  | _ =>
      if c.toNat = 0 then "\\0"
      else if 32 ≤ c.toNat && c.toNat < 127 then c.toString
      else if Property.graphemeExtend.mem c || isUnprintable c then
        "\\u\x7b" ++ hexText c.toNat ++ "\x7d"
      else c.toString

/-- The text between double quotes, as messages show it. -/
def quoted (s : String) : String :=
  "\"" ++ String.join (s.toList.map quotedChar) ++ "\""

end Text
end Scaffold
