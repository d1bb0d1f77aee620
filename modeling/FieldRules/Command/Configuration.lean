import FieldRules.Command.Variable
import FieldRules.Engine.Settings
import FieldRules.Table
import FieldRules.Text.Pieces
/-!
The configuration of a run, from layers: defaults, a file, environment variables and options of the
command line. Of each option the highest layer that sets it counts; an unsuitable value below that
layer does no harm. Names that are not options do not count.
-/

namespace FieldRules.Command

structure Configuration where
  /-- The log filter, if no variable gives one. -/
  logLevel : String := "warn"
  settings : Settings := {}
  deriving DecidableEq

/-- What one source of configuration sets. -/
abbrev Layer := Table Setting

namespace Layer

/-- The entries of a configuration file. -/
def ofToml (entries : Toml.Entries) : Layer :=
  Table.ofList (entries.map fun e => (e.1, Setting.ofToml e.2))

/-- What the names of variables begin with, in any case. -/
def variableMark : List Char := "rulebook_".toList

/-- The option that a variable sets; points in its name mean a part of the option. -/
def optionOf? (name value : String) : Option (String × Setting) :=
  let name := (Text.trim name.toList).map Char.toLower
  if variableMark.isPrefixOf name then
    let steps := Text.split '.' (Text.trim (name.drop variableMark.length))
    match steps with
    | [] => none
    | first :: more =>
      if steps.any (· = []) then none
      else some (String.ofList first, if more = [] then .ofVariable value else .other)
  else none

/-- The options that environment variables set; of two for one option the later counts. -/
def ofVariables (bindings : List (String × String)) : Layer :=
  Table.ofList (bindings.filterMap fun v => optionOf? v.1 v.2)

/-- The options that the command line sets. -/
def ofOptions (logLevel : Option String) (strict : Bool) : Layer :=
  Table.ofList
    ((logLevel.map fun s => ("log_level", Setting.text s)).toList ++
      if strict then [("strict", .flag true)] else [])

/-- What the highest layer says that sets an option, the lowest layer given first. -/
def setting? (layers : List Layer) (name : String) : Option Setting :=
  layers.reverse.findSome? fun l => l.find? name

end Layer

namespace Configuration

/-- The value of an option, which has a default; a setting of another kind is refused. -/
def option? {α : Type} (read : Setting → Option α) (default_ : α) (s : Option Setting) :
    Option α :=
  match s with
  | none => some default_
  | some s => read s

def text? : Setting → Option String
  | .text s => some s
  | _ => none

def flag? : Setting → Option Bool
  | .flag b => some b
  | _ => none

/-- The configuration of layers, the lowest first. -/
def ofLayers? (layers : List Layer) : Option Configuration := do
  let logLevel ← option? text? "warn" (Layer.setting? layers "log_level")
  let strict ← option? flag? false (Layer.setting? layers "strict")
  let policy ← option? (fun s => (text? s).bind PatternPolicy.ofText?) .propagate
    (Layer.setting? layers "invalid_pattern")
  some ⟨logLevel, strict, policy⟩

end Configuration

end FieldRules.Command
