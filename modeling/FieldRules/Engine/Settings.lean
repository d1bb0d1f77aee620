/-!
How specifications are turned into predicates: whether faults are errors, and what becomes of a
pattern that cannot be read.
-/

namespace FieldRules

/-- What becomes of a pattern that cannot be read. -/
inductive PatternPolicy
  | propagate
  | message
  deriving DecidableEq

def PatternPolicy.text : PatternPolicy → String
  | propagate => "propagate"
  | message => "message"

def PatternPolicy.ofText? : String → Option PatternPolicy
  | "propagate" => some propagate
  | "message" => some message
  | _ => none

/-- A strict builder reports unknown rules and unusable arguments; a lenient one drops them. -/
structure Settings where
  strict : Bool := false
  invalidPattern : PatternPolicy := .propagate
  deriving DecidableEq

end FieldRules
