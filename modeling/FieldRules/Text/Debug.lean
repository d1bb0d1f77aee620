import FieldRules.Pattern.Classes
import FieldRules.Text.Pieces
/-!
Text for developers. A string is quoted so that every character can be seen: control characters,
blanks other than the space, marks and characters without a glyph are written by their numbers.
-/

namespace FieldRules.Text

/-- Characters that are not shown as themselves. -/
def hidden : CharSet :=
  (CharSet.ofNames Unicode.categories ["cc", "cf", "cn", "co", "zl", "zp", "zs"]).union
    (CharSet.ofNames Unicode.properties ["grext"])

/-- One character of a quoted string. -/
def shownChar (c : Char) : List Char :=
  match c with
  | '\x00' => ['\\', '0']
  | '\t' => ['\\', 't']
  | '\r' => ['\\', 'r']
  | '\n' => ['\\', 'n']
  | '\\' => ['\\', '\\']
  | '"' => ['\\', '"']
  | ' ' => [' ']
  | c =>
    if hidden.has c.toNat then
      ['\\', 'u', '{'] ++ Nat.toDigits 16 c.toNat ++ ['}']
    else [c]

/-- A string in quotes. -/
def shown (s : String) : String := "\"" ++ String.ofList (s.toList.flatMap shownChar) ++ "\""

/-- Strings in quotes, as a list. -/
def shownList (l : List String) : String := "[" ++ joined ", " (l.map shown) ++ "]"

end FieldRules.Text
