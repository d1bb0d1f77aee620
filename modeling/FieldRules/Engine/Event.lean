import FieldRules.Rule.Argument
/-!
The events that building and evaluating emit, and results that carry them: the events of a
computation that fails are those emitted before it failed.
-/

namespace FieldRules

/-- Something worth a line in a log. -/
inductive Event
  | unknownRule (field rule : String)
  | ruleDropped (field rule : String) (error : SpecError)
  | badPattern (field : String) (error : SpecError)
  | skipped (field : String)
  | failed (field rule message : String)
  | evaluated (fields : Nat) (valid : Bool)
  deriving DecidableEq

namespace Event

def level : Event → String
  | unknownRule .. | ruleDropped .. | badPattern .. => "WARN"
  | skipped .. | evaluated .. => "DEBUG"
  | failed .. => "TRACE"

def message : Event → String
  | unknownRule .. => "unknown rule dropped"
  | ruleDropped .. => "rule dropped"
  | badPattern .. => "regex pattern does not compile"
  | skipped .. => "empty nullable field, rules skipped"
  | failed _ _ message => message
  | evaluated .. => "record evaluated"

/-- The named values of an event. -/
def fields : Event → List (String × String)
  | unknownRule field rule => [("field", field), ("rule", rule)]
  | ruleDropped field rule e => [("field", field), ("rule", rule), ("error", e.message)]
  | badPattern field e => [("field", field), ("error", e.message)]
  | skipped field => [("field", field)]
  | failed field rule _ => [("field", field), ("rule", rule)]
  | evaluated n valid =>
    [("fields", decimalText n), ("valid", if valid then "true" else "false")]

end Event

/-- A result with the events on the way to it. -/
structure Traced (α : Type) where
  log : List Event
  result : Except SpecError α

namespace Traced

variable {α β : Type}

def ok (a : α) : Traced α := ⟨[], .ok a⟩

def error (e : SpecError) : Traced α := ⟨[], .error e⟩

/-- A result that one event led to. -/
def emit (e : Event) : Traced Unit := ⟨[e], .ok ()⟩

/-- Goes on after a success; a failure keeps its events. -/
def andThen (x : Traced α) (f : α → Traced β) : Traced β :=
  match x.result with
  | .ok a =>
    let y := f a
    ⟨x.log ++ y.log, y.result⟩
  | .error e => ⟨x.log, .error e⟩

instance : Monad Traced where
  pure := ok
  bind := andThen

end Traced

end FieldRules
