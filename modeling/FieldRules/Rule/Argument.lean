import FieldRules.Number.Written
import FieldRules.Number.Decimal
import FieldRules.Pattern.Reader
/-!
Arguments of rules. An argument that writes a finite number is that number and also the text that
was written, so that `in:007` still means the text `007`.

A rule asks its `Input` for a number or for text at a position; an argument that is missing or of
the wrong kind is a fault of the specification, not of the data.
-/

namespace FieldRules

/-- An argument after coercion. -/
inductive Argument
  | number (value : Binary64) (raw : String)
  | text (raw : String)

namespace Argument

/-- Text that writes a finite number becomes that number. -/
def coerce (raw : String) : Argument :=
  match Binary64.ofText? raw with
  | some x => number x raw
  | none => text raw

/-- The argument as written. -/
def raw : Argument → String
  | number _ raw => raw
  | text raw => raw

def number? : Argument → Option Binary64
  | number x _ => some x
  | text _ => none

/-- The argument as messages show it. -/
def shown : Argument → String
  | number x _ => x.shown
  | text raw => raw

end Argument

/-- What a rule expects of an argument. -/
inductive Expected
  | number
  | text
  /-- What a rule from elsewhere says that it expects. -/
  | other (phrase : String)
  deriving DecidableEq

def Expected.phrase : Expected → String
  | number => "a numeric argument"
  | text => "a text argument"
  | other phrase => phrase

/-- A fault in the specification of a field. The source of a pattern's fault is what is wrong with
that pattern, unless a rule from elsewhere gives another. -/
inductive SpecError
  | unknownRule (field name : String)
  | missingArgument (field rule : String) (expected : Expected)
  | invalidArgument (field rule value : String)
  | invalidPattern (field pattern : String) (source : Option Pattern.Fault := none)
  deriving DecidableEq

namespace SpecError

/-- The field whose specification is at fault. -/
def field : SpecError → String
  | unknownRule f _ | missingArgument f _ _ | invalidArgument f _ _ | invalidPattern f _ _ => f

def isInvalidPattern : SpecError → Bool
  | invalidPattern .. => true
  | _ => false

/-- The fault without the field it is in. -/
def cause : SpecError → String
  | unknownRule _ name => "unknown rule `" ++ name ++ "`"
  | missingArgument _ rule expected => "rule `" ++ rule ++ "` expects " ++ expected.phrase
  | invalidArgument _ rule value =>
    "rule `" ++ rule ++ "` expects a number, got `" ++ value ++ "`"
  | invalidPattern _ pattern _ => "invalid regex pattern `" ++ pattern ++ "`"

def message (e : SpecError) : String := "field `" ++ e.field ++ "`: " ++ e.cause

/-- What is wrong with the pattern. -/
def source? : SpecError → Option Pattern.Fault
  | invalidPattern _ pattern source => some (source.getD (.of pattern))
  | _ => none

end SpecError

/-- What a rule is bound to: the name it was written with, its field, its arguments, and whether
the field also declares that it is numeric. -/
structure Input where
  rule : String
  field : String
  args : List Argument
  numericField : Bool

namespace Input

/-- The number at a position. -/
def number (i : Input) (n : Nat) : Except SpecError Binary64 :=
  match i.args[n]? with
  | none => .error (.missingArgument i.field i.rule .number)
  | some a =>
    match a.number? with
    | some x => .ok x
    | none => .error (.invalidArgument i.field i.rule a.raw)

/-- The text at a position, which is not empty. -/
def text (i : Input) (n : Nat) : Except SpecError String :=
  match i.args[n]? with
  | none => .error (.missingArgument i.field i.rule .text)
  | some a => if a.raw = "" then .error (.missingArgument i.field i.rule .text) else .ok a.raw

/-- All arguments as written. -/
def texts (i : Input) : List String := i.args.map Argument.raw

end Input

end FieldRules
