import FieldRules.Json.Members
import FieldRules.Spec.Basic
import FieldRules.Toml.Reader
/-!
Reading the specifications of a record. JSON text holds an object that gives each field a rule
string or a list of rule strings; a repeated field keeps its first place and takes its last rules.
TOML text holds the same as a table, and its fields come in the order of their names.
-/

namespace FieldRules

/-- A rule string or a list of rule strings. -/
def FieldSpec.ofJson? : Json → Option FieldSpec
  | .string s => s.map .rules
  | .list items => (items.mapM Json.text?).map fun texts => .list (texts.map .rules)
  | _ => none

namespace Sheet

def ofJson? : Json → Option Sheet
  | .object members => (Json.mapMembers? FieldSpec.ofJson? members).map Table.ofList
  | _ => none

/-- The specifications that a JSON text holds. -/
def ofText? (s : String) : Option Sheet := do
  let x ← Json.ofText? s
  ofJson? x

end Sheet

/-! ### TOML -/

def SpecItem.ofToml? : Toml → Option SpecItem
  | .text s => some (.rules s)
  | _ => none

/-- A rule string or a list of rule strings. -/
def FieldSpec.ofToml? : Toml → Option FieldSpec
  | .text s => some (.rules s)
  | .list items => (items.mapM SpecItem.ofToml?).map .list
  | _ => none

namespace Sheet

def ofToml? (entries : Toml.Entries) : Option Sheet := do
  let specs ← entries.mapM fun e => (FieldSpec.ofToml? e.2).map (e.1, ·)
  some (Table.ofList (specs.mergeSort fun a b => a.1 ≤ b.1))

/-- The specifications that a TOML text holds. -/
def ofTomlText? (s : String) : Option Sheet := do
  let entries ← Toml.ofText? true s
  ofToml? entries

end Sheet

end FieldRules
