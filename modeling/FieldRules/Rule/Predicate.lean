import FieldRules.Rule.Argument
import FieldRules.Value.Text
/-!
The executable form of a rule: a named check of one value within its record, which answers with a
message when the value fails. A factory binds a rule's arguments into a predicate or finds fault
with them.
-/

namespace FieldRules

/-- A named check; no message means that the value passes. -/
structure Predicate where
  name : String
  check : Value → Record → Option String

/-- Binds the arguments of a rule. -/
abbrev Factory := Input → Except SpecError Predicate

namespace Predicate

/-- Passes every value. -/
def pass (name : String) : Predicate := ⟨name, fun _ _ => none⟩

/-- Fails the values that `ok` rejects, always with one message. -/
def ofTest (name message : String) (ok : Value → Bool) : Predicate :=
  ⟨name, fun v _ => if ok v then none else some message⟩

end Predicate

end FieldRules
