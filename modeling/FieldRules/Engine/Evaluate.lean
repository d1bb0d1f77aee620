import FieldRules.Engine.Build
import FieldRules.Engine.Verdict
/-!
Evaluating fields and records. An engine is a registry with settings; it holds nothing that an
evaluation could change.
-/

namespace FieldRules

/-- A registry and the settings to build with. -/
structure Engine where
  registry : Registry
  settings : Settings

namespace Engine

def build (e : Engine) (field : String) (spec : FieldSpec) : Traced BuiltField :=
  e.registry.build e.settings field spec

/-- The message of one field. Without a specification it passes. -/
def evaluateField (e : Engine) (field : String) (v : Value) (r : Record)
    (spec : Option FieldSpec) : Traced (Option String) :=
  match spec with
  | none => return none
  | some spec => do
    let built ← e.build field spec
    if built.skips v then
      .emit (.skipped field)
      return none
    else
      match built.firstFailure v r with
      | none => return none
      | some (p, message) => do
        .emit (.failed field p.name message)
        return some message

/-- The results of fields, each with its value in the record. -/
def evaluateEntries (e : Engine) (r : Record) :
    List (String × FieldSpec) → Traced (List (String × Option String))
  | [] => return []
  | (field, spec) :: rest => do
    let message ← e.evaluateField field (r.read field) r (some spec)
    let results ← e.evaluateEntries r rest
    return (field, message) :: results

/-- The verdict of a record. Fields of the record without a specification do not count. -/
def evaluateAll (e : Engine) (r : Record) (specs : Sheet) : Traced Verdict := do
  let results ← e.evaluateEntries r specs.entries
  let verdict := Verdict.ofResults (Table.ofList results)
  .emit (.evaluated specs.size verdict.valid)
  return verdict

/-- A field and the fields that read it, as far as they have specifications. -/
def affected (specs : Sheet) (field : String) : List (String × FieldSpec) :=
  (field :: (specs.dependents.find? field).getD []).filterMap fun name =>
    (specs.find? name).map (name, ·)

/-- The results of a field and of the fields that read it. -/
def revalidate (e : Engine) (field : String) (r : Record) (specs : Sheet) :
    Traced (Table (Option String)) := do
  let results ← e.evaluateEntries r (affected specs field)
  return Table.ofList results

end Engine

end FieldRules
