import FieldRules.Rule.Token
import FieldRules.Rule.Predicate
import FieldRules.Check.Sibling
/-!
What is declared for a field: one rule string, or a list of rule strings and predicates. Its tokens
are those of all its rule strings; which rules it declares and which fields it reads is said of them.
-/

namespace FieldRules

/-- An element of a list of rules. -/
inductive SpecItem
  | rules (text : String)
  | predicate (p : Predicate)

/-- The rules of one field. -/
inductive FieldSpec
  | rules (text : String)
  | list (items : List SpecItem)

/-- The tokens of an element; a predicate has none. -/
def SpecItem.tokens : SpecItem → List Token
  | rules text => Token.ofText text
  | predicate _ => []

namespace FieldSpec

/-- The tokens of all rule strings in the order of their declaration. -/
def tokens : FieldSpec → List Token
  | rules text => Token.ofText text
  | list items => items.flatMap SpecItem.tokens

/-- Some rule string names the rule. -/
def declares (s : FieldSpec) (r : Rule) : Bool := s.tokens.any fun t => t.name == r.text

/-- Empty values of the field skip all rules. -/
def isNullable (s : FieldSpec) : Bool := s.declares .nullable

/-- Size rules of the field compare numeric text by value. -/
def isNumeric (s : FieldSpec) : Bool := (s.tokens.filterMap Token.rule?).any Rule.marksNumeric

/-- The first argument of a token, if it is not empty. -/
def firstText? (t : Token) : Option String :=
  match t.args.head? with
  | some a => if a = "" then none else some a
  | none => none

/-- The field that a token of a field reads beside the field itself. A literal date reads none. -/
def reads? (field : String) (t : Token) : Option String :=
  match t.rule? with
  | some .same => firstText? t
  | some .after | some .before =>
    (firstText? t).filter fun a => (Calendar.instantOfText? a).isNone
  | some .confirmed => some (Check.confirmationOf field)
  | _ => none

/-- The fields that the rules of a field read, each once, in order. -/
def references (s : FieldSpec) (field : String) : List String :=
  (s.tokens.filterMap (reads? field)).eraseDups

end FieldSpec

/-- The specifications of a record's fields, in the order of their declaration. -/
abbrev Sheet := Table FieldSpec

namespace Sheet

/-- Adds or replaces a field; a field that is replaced keeps its place. -/
def field (s : Sheet) (name : String) (spec : FieldSpec) : Sheet := (s.replace name spec).2

/-- Enters a field among the readers of a base. -/
def addReader (field : String) (t : Table (List String)) (base : String) : Table (List String) :=
  if base = field then t
  else
    let readers := (t.find? base).getD []
    t.insert base (if field ∈ readers then readers else readers ++ [field])

/-- For each field that other fields read, those other fields. -/
def dependents (s : Sheet) : Table (List String) :=
  s.entries.foldl (fun t e => (e.2.references e.1).foldl (addReader e.1) t) .empty

end Sheet

end FieldRules
