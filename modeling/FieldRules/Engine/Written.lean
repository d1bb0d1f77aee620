import FieldRules.Json.Members
import FieldRules.Engine.Settings
import FieldRules.Engine.Verdict
/-!
Settings, verdicts and remote errors as JSON text. Each of the two structures may also stand as a
list of its members in order. Settings may leave members out; a verdict may not.
-/

namespace FieldRules

/-! ### Settings -/

/-- A policy by its name, which may also be the name of a member that is `null`. -/
def PatternPolicy.ofJson? : Json → Option PatternPolicy
  | .string (some s) => ofText? s
  | .object [(some s, .null)] => ofText? s
  | _ => none

namespace Settings

/-- Reads a member that may be missing. -/
def orDefault {α : Type} (read : Json → Option α) (default_ : α) : Option Json → Option α
  | some x => read x
  | none => some default_

def ofJson? : Json → Option Settings
  | .object members => do
    let members ← Json.named? members
    let strict ← Json.once? "strict" members
    let policy ← Json.once? "invalid_pattern" members
    some ⟨← orDefault Json.bool? false strict,
      ← orDefault PatternPolicy.ofJson? .propagate policy⟩
  | .list items =>
    if items.length ≤ 2 then do
      some ⟨← orDefault Json.bool? false items[0]?,
        ← orDefault PatternPolicy.ofJson? .propagate items[1]?⟩
    else none
  | _ => none

/-- The settings that a JSON text holds. -/
def ofText? (s : String) : Option Settings := do
  let x ← Json.ofText? s
  ofJson? x

end Settings

/-! ### Remote errors -/

namespace RemoteErrors

def ofJson? : Json → Option RemoteErrors
  | .object members => (Json.mapMembers? Json.optionalText? members).map Table.ofList
  | _ => none

/-- The messages that a JSON text holds. -/
def ofText? (s : String) : Option RemoteErrors := do
  let x ← Json.ofText? s
  ofJson? x

/-- A message or `null`. -/
def valueOf : Option String → Value
  | some message => .text message
  | none => .null

def toValue (r : RemoteErrors) : Value := .object (r.entries.map fun e => (e.1, valueOf e.2))

def text (r : RemoteErrors) : String := r.toValue.compact

end RemoteErrors

/-! ### Verdicts -/

namespace Verdict

def ofJson? : Json → Option Verdict
  | .object members => do
    let members ← Json.named? members
    let valid ← Json.once? "valid" members
    let errors ← Json.once? "errors" members
    some ⟨← Json.bool? (← valid), ← RemoteErrors.ofJson? (← errors)⟩
  | .list [valid, errors] => do some ⟨← Json.bool? valid, ← RemoteErrors.ofJson? errors⟩
  | _ => none

/-- The verdict that a JSON text holds; whether it is valid is taken from the text. -/
def ofText? (s : String) : Option Verdict := do
  let x ← Json.ofText? s
  ofJson? x

def toValue (v : Verdict) : Value :=
  .object [("valid", .bool v.valid), ("errors", RemoteErrors.toValue v.errors)]

def text (v : Verdict) : String := v.toValue.compact

end Verdict

end FieldRules
