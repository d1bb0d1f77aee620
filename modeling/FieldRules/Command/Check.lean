import FieldRules.Check.Catalog
import FieldRules.Command.Configuration
import FieldRules.Command.Files
import FieldRules.Engine.Evaluate
import FieldRules.Spec.Reading
/-!
Checking a record file against a file of rules. A file of remote messages may be laid over the
result. `checkAll` gives the verdict of the whole record and `checkField` the message of one field.
-/

namespace FieldRules.Command

/-! ### Failures -/

/-- What keeps a run from a result. -/
inductive Failure where
  | noConfiguration (path : String)
  | badConfiguration
  | badLogFilter (filter : String)
  | unreadable (path : String) (fault : ReadFault)
  | notJson (path : String)
  | notRecord (path : String) (found : Value)
  | notRuleTable (path : String)
  | notRuleMap (path : String)
  /-- Rules that cannot be built, of the whole record or of one field. -/
  | unbuildable (field : Option String) (error : SpecError)

/-- What kind of value was found. -/
def kindText : Value → String
  | .null => "null"
  | .bool _ => "a boolean"
  | .number _ => "a number"
  | .text _ => "a string"
  | .list _ => "an array"
  | .object _ => "an object"

/-- What follows a message about rules: the limit of a pattern that is too heavy. Complaints about
its text are left out. -/
def sourceText (e : SpecError) : String :=
  match e.source? with
  | some (.tooHeavy limit) =>
    ": Compiled regex exceeds size limit of " ++ decimalText limit ++ " bytes."
  | _ => ""

def Failure.message : Failure → String
  | noConfiguration path => "config file " ++ path ++ " not found"
  | badConfiguration => "invalid configuration"
  | badLogFilter filter => "invalid log filter `" ++ filter ++ "`"
  | unreadable path fault => "cannot read " ++ path ++ fault.text
  | notJson path => path ++ " is not valid JSON"
  | notRecord path found => path ++ " must hold a JSON object, found " ++ kindText found
  | notRuleTable path => path ++ " is not a valid rule table"
  | notRuleMap path => path ++ " is not a valid rule map"
  | unbuildable none e => "cannot build rules: " ++ e.message ++ sourceText e
  | unbuildable (some field) e =>
    "cannot build rules for `" ++ field ++ "`: " ++ e.message ++ sourceText e

/-! ### Files of a check -/

variable (files : Files)

def readFile (path : String) : Except Failure String :=
  (files.read path).mapError (.unreadable path)

/-- The value of a JSON file. -/
def readValue (path : String) : Except Failure Value := do
  let text ← readFile files path
  match Value.ofText? text with
  | some v => .ok v
  | none => .error (.notJson path)

def readRecord (path : String) : Except Failure Record := do
  let v ← readValue files path
  match Record.ofValue? v with
  | some r => .ok r
  | none => .error (.notRecord path v)

/-- The path names a TOML file. -/
def isTomlPath (path : String) : Bool :=
  (Files.extension? path).any fun e => e.toList.map Char.toLower = "toml".toList

/-- The rules of a TOML or a JSON file. -/
def readSheet (path : String) : Except Failure Sheet := do
  let text ← readFile files path
  if isTomlPath path then
    match Sheet.ofTomlText? text with
    | some s => .ok s
    | none => .error (.notRuleTable path)
  else
    match Sheet.ofText? text with
    | some s => .ok s
    | none => .error (.notRuleMap path)

/-- The messages of a response, or of an object that only holds messages. The member `errors` tells
a response from such an object. -/
def remoteErrorsOf (body : Value) : RemoteErrors :=
  if (body.member? "errors").isSome then .ofEnvelope body else .ofValue body

def readRemote (path : String) : Except Failure RemoteErrors := do
  let body ← readValue files path
  return remoteErrorsOf body

/-- The messages of a file, none without a file. -/
def readRemoteOf (path : Option String) : Except Failure RemoteErrors :=
  match path with
  | some path => readRemote files path
  | none => .ok .empty

/-! ### Checks -/

/-- The paths that a check reads from. -/
structure Sources where
  record : String
  rules : String
  remote : Option String

/-- The engine of a run: all rules of the catalog, with settings. -/
def engineOf (settings : Settings) : Engine := ⟨Registry.builtin, settings⟩

/-- The verdict of the whole record. The remote file is read last. -/
def checkAll (settings : Settings) (s : Sources) : Except Failure Verdict := do
  let record ← readRecord files s.record
  let sheet ← readSheet files s.rules
  let verdict ← ((engineOf settings).evaluateAll record sheet).result.mapError (.unbuildable none)
  let remote ← readRemoteOf files s.remote
  return verdict.overlay remote

/-- The message of one field; one from the remote file wins. -/
def checkField (settings : Settings) (s : Sources) (field : String) :
    Except Failure (Option String) := do
  let record ← readRecord files s.record
  let sheet ← readSheet files s.rules
  let message ← ((engineOf settings).evaluateField field (record.read field) record
    (sheet.find? field)).result.mapError (.unbuildable (some field))
  let remote ← readRemoteOf files s.remote
  return remote.message? field <|> message

end FieldRules.Command
