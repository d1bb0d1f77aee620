import FieldRules.Engine.Build
import FieldRules.Check.Kind
import FieldRules.Check.Size
import FieldRules.Address.Url
import FieldRules.Text.Debug
/-!
The factory of every rule of the catalog, and the registry that lists them all.
-/

namespace FieldRules

/-- The value is empty or its text is an absolute address. -/
def Check.url : Factory := fun _ =>
  .ok (.ofTest "url" "Invalid URL." fun v => v.isEmpty || Address.isUrl v.toText)

/-- The factory of a rule of the catalog. -/
def Rule.factory : Rule → Factory
  | required => Check.required
  | nullable => Check.nullable
  | email => Check.email
  | string => Check.string
  | numeric => Check.numeric
  | integer => Check.integer
  | boolean => Check.boolean
  | min => Check.min
  | max => Check.max
  | between => Check.between
  | confirmed => Check.confirmed
  | same => Check.same
  | regex => Check.regex
  | url => Check.url
  | date => Check.date
  | after => Check.after
  | before => Check.before
  | alpha => Check.alpha
  | alphaNum => Check.alphaNum
  | oneOf => Check.oneOf
  | noneOf => Check.noneOf
  | size => Check.size
  | digits => Check.digits
  | digitsBetween => Check.digitsBetween
  | startsWith => Check.startsWith
  | endsWith => Check.endsWith

namespace Registry

/-- Every rule of the catalog under its spelling. -/
def builtin : Registry := Table.ofList (Rule.all.map fun r => (r.text, r.factory))

/-- The registered names in alphabetical order. -/
def sortedNames (r : Registry) : List String := r.names.mergeSort fun a b => a ≤ b

/-- The registry as developers see it. -/
def describe (r : Registry) : String :=
  "Registry \x7b rules: " ++ Text.shownList r.sortedNames ++ " \x7d"

end Registry

end FieldRules
