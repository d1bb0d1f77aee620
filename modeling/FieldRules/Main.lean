import FieldRules.Command.Run
/-!
The program `rulebook`: looks at the files that its arguments name, runs, and prints.
-/

open FieldRules FieldRules.Command

/-- Why the system could not read a file. -/
def faultOf : IO.Error → ReadFault
  | .noFileOrDirectory .. => .missing
  | .permissionDenied .. => .denied
  | .inappropriateType _ 21 _ => .folder
  | .inappropriateType .. => .notFolder
  | e => .other (toString e)

/-- What stands at a path. -/
def entryAt (path : String) : IO Entry := do
  let isFile ←
    try
      let place ← IO.FS.realPath path
      pure ((← place.metadata).type == .file)
    catch _ => pure false
  let text ←
    try
      let bytes ← IO.FS.readBinFile path
      match String.fromUTF8? bytes with
      | some text => pure (.ok text)
      | none => pure (.error .notText)
    catch e => pure (.error (faultOf e))
  return ⟨isFile, text⟩

/-- The names on the way to the working folder, if it is still there. -/
def workingNames : IO (Option (List String)) := do
  try
    return some (Files.steps (toString (← IO.currentDir))).reverse
  catch _ => return none

/-- The variables of the environment that a run looks at. -/
def variableNames : List String :=
  [filterVariable, "RULEBOOK_LOG_LEVEL", "RULEBOOK_STRICT", "RULEBOOK_INVALID_PATTERN"]

def main (args : List String) : IO UInt32 := do
  let unseen : Files := ⟨fun _ => .missing, ← workingNames⟩
  let mut seen : List (String × Entry) := []
  for place in placesOf unseen (Request.ofArguments args) do
    seen := (place, ← entryAt place) :: seen
  let entries := seen
  let files : Files := ⟨fun place => (entries.lookup place).getD .missing, unseen.working⟩
  let mut environment : List (String × String) := []
  for name in variableNames do
    if let some value ← IO.getEnv name then
      environment := environment ++ [(name, value)]
  let outcome := run args ⟨files, environment⟩
  IO.print outcome.output
  if let some message := outcome.error then
    IO.eprintln ("Error: " ++ message)
  if outcome.misuse then
    IO.eprintln ("error: wrong arguments\n\n" ++ helpText)
  else if outcome.status = 2 ∧ outcome.error.isNone then
    IO.eprint helpText
  return outcome.status.toUInt32
