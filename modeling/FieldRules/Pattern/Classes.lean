import FieldRules.Pattern.CharSet
import FieldRules.Unicode.Runs
import FieldRules.Unicode.Age
import FieldRules.Unicode.Category
import FieldRules.Unicode.Script
import FieldRules.Unicode.Property
import FieldRules.Unicode.Segment
import FieldRules.Unicode.CaseFold
/-!
Named classes of characters: digits, blanks and word characters, the bracketed ASCII classes, and
the classes that a Unicode property names. Also the closure of a set under change of case.
-/

namespace FieldRules.CharSet

open Unicode

def ofRuns (lines : List String) : CharSet := ⟨Unicode.ranges lines⟩

/-- The union of the classes that a table has under some names. -/
def ofNames (table : List (List String × List String)) (names : List String) : CharSet :=
  ofRanges (names.flatMap fun n => ((under? table n).map Unicode.ranges).getD [])

/-! ### Classes with letters of their own -/

def digit : CharSet := ofNames categories ["nd"]

def space : CharSet := ofNames properties ["whitespace"]

/-- Letters, marks, decimal digits, connectors and joiners. -/
def word : CharSet :=
  union (ofNames properties ["alpha", "joinc"]) (ofNames categories ["mn", "mc", "me", "nd", "pc"])

def asciiDigit : CharSet := ⟨[(0x30, 0x39)]⟩

def asciiSpace : CharSet := ⟨[(0x09, 0x0D), (0x20, 0x20)]⟩

def asciiWord : CharSet := ⟨[(0x30, 0x39), (0x41, 0x5A), (0x5F, 0x5F), (0x61, 0x7A)]⟩

/-! ### Bracketed ASCII classes -/

def ascii? (name : String) : Option CharSet :=
  match name with
  | "alnum" => some ⟨[(0x30, 0x39), (0x41, 0x5A), (0x61, 0x7A)]⟩
  | "alpha" => some ⟨[(0x41, 0x5A), (0x61, 0x7A)]⟩
  | "ascii" => some ⟨[(0x00, 0x7F)]⟩
  | "blank" => some ⟨[(0x09, 0x09), (0x20, 0x20)]⟩
  | "cntrl" => some ⟨[(0x00, 0x1F), (0x7F, 0x7F)]⟩
  | "digit" => some asciiDigit
  | "graph" => some ⟨[(0x21, 0x7E)]⟩
  | "lower" => some ⟨[(0x61, 0x7A)]⟩
  | "print" => some ⟨[(0x20, 0x7E)]⟩
  | "punct" => some ⟨[(0x21, 0x2F), (0x3A, 0x40), (0x5B, 0x60), (0x7B, 0x7E)]⟩
  | "space" => some asciiSpace
  | "upper" => some ⟨[(0x41, 0x5A)]⟩
  | "word" => some asciiWord
  | "xdigit" => some ⟨[(0x30, 0x39), (0x41, 0x46), (0x61, 0x66)]⟩
  | _ => none

/-! ### Properties -/

/-- Names of properties are compared in lower case, without separators and without a leading `is`;
the `is` of `isc` belongs to the name. -/
def foldName (cs : List Char) : String :=
  let keep (cs : List Char) : List Char :=
    (cs.filter fun c => c.toNat < 0x80 && !(c == ' ' || c == '_' || c == '-')).map Char.toLower
  match cs with
  | a :: b :: rest =>
    if a.toLower = 'i' ∧ b.toLower = 's' then
      if keep rest = ['c'] then "isc" else String.ofList (keep rest)
    else String.ofList (keep cs)
  | cs => String.ofList (keep cs)

def category? (name : String) : Option CharSet :=
  match name with
  | "any" => some all
  | "ascii" => some ⟨[(0x00, 0x7F)]⟩
  | "assigned" => some (complement maxPoint (ofNames categories ["cn"]))
  | _ =>
    match under? categoryGroups name with
    | some members => some (ofNames categories members)
    | none => (under? categories name).map ofRuns

def script? (name : String) : Option CharSet := (under? scripts name).map ofRuns

/-- The characters used in a script, whichever script they belong to. -/
def scriptExtension? (name : String) : Option CharSet := do
  let names ← scripts.find? fun e => e.1.contains name
  match scriptExtensions.find? fun e => names.1.contains (e.1.headD "") with
  | some e => some (ofRuns e.2)
  | none => some (ofRuns names.2)

/-- Names that mean a general category although properties have them too. -/
def categoryFirst : List String := ["cf", "sc", "lc"]

/-- The class of a name on its own: a property, a general category, or a script. -/
def named? (cs : List Char) : Option CharSet :=
  let name := foldName cs
  let property := if categoryFirst.contains name then none else (under? properties name).map ofRuns
  property <|> category? name <|> script? name

/-- The characters of a version and of all versions before it. -/
def age? (name : String) : Option CharSet := do
  let i ← ages.findIdx? fun e => e.1.contains name
  some (ofRanges ((ages.take (i + 1)).flatMap fun e => Unicode.ranges e.2))

/-- The class of the characters for which a property has a value. -/
def valued? (property value : List Char) : Option CharSet :=
  let value := foldName value
  match foldName property with
  | "gc" | "generalcategory" => category? value
  | "sc" | "script" => script? value
  | "scx" | "scriptextensions" => scriptExtension? value
  | "age" => age? value
  | "gcb" | "graphemeclusterbreak" => (under? letterParts value).map ofRuns
  | "wb" | "wordbreak" => (under? wordParts value).map ofRuns
  | "sb" | "sentencebreak" => (under? sentenceParts value).map ofRuns
  | _ => none

/-! ### Case -/

/-- All characters that differ from one of the set in case alone, with the set itself. -/
def foldCase (s : CharSet) : CharSet :=
  let pairs := pairsFrom 0 (numbers foldPairs)
  ofRanges (s.ranges ++ pairs.flatMap fun p =>
    (if s.has p.1 then [(p.2, p.2)] else []) ++ if s.has p.2 then [(p.1, p.1)] else [])

/-- All ASCII letters that differ from one of the set in case alone, with the set itself. -/
def foldAscii (s : CharSet) : CharSet :=
  let letters := (List.range 26).map (· + 0x61)
  ofRanges (s.ranges ++ letters.flatMap fun c =>
    (if s.has c then [(c - 32, c - 32)] else []) ++ if s.has (c - 32) then [(c, c)] else [])

end FieldRules.CharSet
