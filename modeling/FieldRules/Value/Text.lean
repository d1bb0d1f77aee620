import FieldRules.Value.Basic
import FieldRules.Text.Pieces
import FieldRules.Text.Digits
/-!
Values as text. `Value.compact` writes JSON text without white space, `Value.pretty` writes it over
several lines with an indent of two. `Value.toText` is the text that list, pattern and digit rules
look at: text is itself, `null` is empty, a list is its items' texts joined by commas.
-/

namespace FieldRules.Value

/-! ### Strings -/

/-- One character inside a quoted string. -/
def escape (c : Char) : List Char :=
  match c with
  | '"' => ['\\', '"']
  | '\\' => ['\\', '\\']
  | '\x08' => ['\\', 'b']
  | '\x0c' => ['\\', 'f']
  | '\n' => ['\\', 'n']
  | '\r' => ['\\', 'r']
  | '\t' => ['\\', 't']
  | c =>
    if c.toNat < 0x20 then
      ['\\', 'u', '0', '0', Text.hexDigit (c.toNat / 16), Text.hexDigit (c.toNat % 16)]
    else [c]

def quoted (s : String) : String := "\"" ++ String.ofList (s.toList.flatMap escape) ++ "\""

/-! ### JSON text -/

mutual

/-- JSON text without white space. -/
def compact : Value → String
  | null => "null"
  | bool true => "true"
  | bool false => "false"
  | number n => n.compact
  | text s => quoted s
  | list items => "[" ++ Text.joined "," (compactItems items) ++ "]"
  | object members => "\x7b" ++ Text.joined "," (compactMembers members) ++ "\x7d"

def compactItems : List Value → List String
  | [] => []
  | x :: xs => compact x :: compactItems xs

def compactMembers : List (String × Value) → List String
  | [] => []
  | (n, x) :: xs => (quoted n ++ ":" ++ compact x) :: compactMembers xs

end

/-- Lines of items between two brackets. -/
def block (opening closing indent : String) (lines : List String) : String :=
  if lines = [] then opening ++ closing
  else opening ++ "\n" ++ Text.joined ",\n" (lines.map (indent ++ "  " ++ ·)) ++ "\n" ++ indent ++
    closing

mutual

/-- JSON text with one item or member a line. -/
def prettyAt (indent : String) : Value → String
  | list items => block "[" "]" indent (prettyItems (indent ++ "  ") items)
  | object members => block "\x7b" "\x7d" indent (prettyMembers (indent ++ "  ") members)
  | null => "null"
  | bool true => "true"
  | bool false => "false"
  | number n => n.compact
  | text s => quoted s

def prettyItems (indent : String) : List Value → List String
  | [] => []
  | x :: xs => prettyAt indent x :: prettyItems indent xs

def prettyMembers (indent : String) : List (String × Value) → List String
  | [] => []
  | (n, x) :: xs => (quoted n ++ ": " ++ prettyAt indent x) :: prettyMembers indent xs

end

def pretty (v : Value) : String := prettyAt "" v

/-! ### Text for rules -/

mutual

/-- The text that rules look at. -/
def toText : Value → String
  | null => ""
  | bool true => "true"
  | bool false => "false"
  | number n => n.text
  | text s => s
  | list items => Text.joined "," (texts items)
  | object members => compact (object members)

def texts : List Value → List String
  | [] => []
  | x :: xs => toText x :: texts xs

end

end FieldRules.Value
