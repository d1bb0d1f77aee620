import FieldRules.Rule.Name
import FieldRules.Text.Blank
import FieldRules.Text.Pieces
/-!
Rule strings such as `required|min:8|in:admin,user`. A bar separates segments, the first colon of a
segment ends the rule's name, and commas separate the arguments after it. Blank characters around
segments, names and arguments do not count, blank segments are skipped, and blank argument text
means that there is no argument.
-/

namespace FieldRules

/-- One rule as written: a name, known or not, and its arguments. -/
structure Token where
  name : String
  args : List String
  deriving DecidableEq

namespace Token

/-- The arguments after a colon. -/
def argsOf (cs : List Char) : List (List Char) :=
  if Text.trim cs = [] then [] else (Text.split ',' cs).map Text.trim

/-- The token of one segment. -/
def ofSegment (cs : List Char) : Token :=
  match Text.splitOnce ':' cs with
  | none => ⟨String.ofList cs, []⟩
  | some (name, args) => ⟨String.ofList (Text.trim name), (argsOf args).map String.ofList⟩

/-- The tokens of a rule string, in order. -/
def ofChars (cs : List Char) : List Token :=
  (((Text.split '|' cs).map Text.trim).filter (· ≠ [])).map ofSegment

/-- The tokens of a rule string, in order. -/
def ofText (s : String) : List Token := ofChars s.toList

/-- The rule of the catalog that a token names. -/
def rule? (t : Token) : Option Rule := Rule.ofText? t.name

/-- A rule string that is read as this one token. -/
def render (t : Token) : String := t.name ++ ":" ++ Text.joined "," t.args

end Token

end FieldRules
