import FieldRules.Number.Number
import FieldRules.Toml.Reader
/-!
The values of environment variables. A value may be `true` or `false`, a number, text in quotes, a
list in brackets or named values in braces; any other text stands for itself.
-/

attribute [local instance (high)] instPowNat

namespace FieldRules.Command

/-- What a layer of the configuration says about an option. -/
inductive Setting where
  | flag (b : Bool)
  | text (s : String)
  /-- A value that no option takes. -/
  | other
  deriving DecidableEq

namespace Setting

/-- Blank characters of ASCII. -/
def isSpace (c : Char) : Bool := c = ' ' || c = '\t' || c = '\n' || c = '\x0c' || c = '\r'

def skipSpace (cs : List Char) : List Char := cs.dropWhile isSpace

/-- A plain word is a number or text. -/
def ofWord (cs : List Char) : Setting :=
  let (negative, digits) := spanSign cs
  let n := digitsValue digits
  let isInteger := digits ≠ [] && digits.all (·.isDigit) &&
    if negative then n ≤ 2 ^ (63 : Nat) else n < 2 ^ (64 : Nat)
  if isInteger || (cs.contains '.' && (Decimal.ofChars? cs).isSome) then .other
  else .text (String.ofList cs)

/-- Items between commas up to a closing character; a comma may follow the last one. -/
def items? (close : Char) (item? : List Char → Option (List Char)) :
    Nat → List Char → Option (List Char)
  | 0, _ => none
  | fuel + 1, cs =>
    if cs.head? = some close then some cs.tail
    else do
      let rest ← item? cs
      match rest with
      | ',' :: rest => items? close item? fuel rest
      | c :: rest => if c = close then some rest else none
      | [] => none

/-- A name and an equals sign before a value. -/
def key? (cs : List Char) : Option (List Char) := do
  let rest ← match skipSpace cs with
    | '"' :: rest => (Toml.quoted? false (rest.length + 1) rest).map Prod.snd
    | cs =>
      match cs.span Toml.isNameChar with
      | ([], _) => none
      | (_, rest) => some rest
  match skipSpace rest with
  | '=' :: rest => some rest
  | _ => none

/-- A value after blanks, and the rest; `inner` takes a value within this one. -/
def front? (inner : List Char → Option (List Char)) (cs : List Char) :
    Option (Setting × List Char) :=
  match skipSpace cs with
  | 't' :: 'r' :: 'u' :: 'e' :: rest => some (.flag true, rest)
  | 'f' :: 'a' :: 'l' :: 's' :: 'e' :: rest => some (.flag false, rest)
  | '[' :: rest => (items? ']' inner (rest.length + 1) rest).map (.other, ·)
  | '{' :: rest =>
    (items? '}' (fun cs => (key? cs).bind inner) (rest.length + 1) rest).map (.other, ·)
  | '"' :: rest =>
    (Toml.quoted? false (rest.length + 1) rest).map fun (s, rest) =>
      (.text (String.ofList s), rest)
  | '\'' :: c :: '\'' :: rest => some (.text (String.singleton c), rest)
  | '\'' :: _ => none
  | cs =>
    let (word, rest) := cs.span fun c => !("\x7b\x7d[],".toList.contains c)
    some (ofWord (Text.trim word), rest)

/-- A value with blanks around it, and the rest. Fuel bounds how deep values stand in others. -/
def value? : Nat → List Char → Option (Setting × List Char)
  | 0, _ => none
  | fuel + 1, cs =>
    (front? (fun cs => (value? fuel cs).map Prod.snd) cs).map fun (v, rest) => (v, skipSpace rest)

/-- What the value of a variable says; text that is no value on its whole stands for itself. -/
def ofVariable (s : String) : Setting :=
  let cs := Text.trim s.toList
  match value? (cs.length + 1) cs with
  | some (v, []) => v
  | _ => .text (String.ofList cs)

/-- What a value of a configuration file says. -/
def ofToml : Toml → Setting
  | .boolean b => .flag b
  | .text s => .text s
  | _ => .other

end Setting

end FieldRules.Command
