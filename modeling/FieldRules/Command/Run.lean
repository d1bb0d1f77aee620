import FieldRules.Command.Arguments
import FieldRules.Command.Check
import FieldRules.Command.LogFilter
import FieldRules.Engine.Written
/-!
A run of the program: what it prints and how it ends, from its arguments, the files of the machine
and the variables of its environment. The configuration is loaded first, then the log filter is
read, and the command comes last.
-/

namespace FieldRules.Command

/-- What a run finds around it. -/
structure Surroundings where
  files : Files
  environment : List (String × String)

/-- How a run ends. -/
structure Outcome where
  status : Nat
  output : String
  /-- The message of a failure. -/
  error : Option String
  /-- The arguments were wrong. -/
  misuse : Bool
  deriving DecidableEq

namespace Outcome

def printed (status : Nat) (output : String) : Outcome := ⟨status, output, none, false⟩

def failed (f : Failure) : Outcome := ⟨2, "", some f.message, false⟩

/-- The run has broken off. -/
def brokenOff : Outcome := ⟨101, "", none, false⟩

/-- Output of a check: zero when it passes, one when it does not. -/
def checked (passes : Bool) (v : Value) : Outcome :=
  printed (if passes then 0 else 1) (v.pretty ++ "\n")

end Outcome

/-! ### Configuration -/

/-- The configuration file that is looked for when none is named. -/
def defaultPath : String := "rulebook.toml"

/-- What the text of a configuration file sets. It must have been read, and be TOML. -/
def layerOf : Except ReadFault String → Except Failure Layer
  | .ok text =>
    match Toml.ofText? false text with
    | some entries => .ok (.ofToml entries)
    | none => .error .badConfiguration
  | .error _ => .error .badConfiguration

/-- What the configuration file sets that is found for a path, if there is one. -/
def layerAt (files : Files) (path : String) : Except Failure Layer :=
  match files.locate? path with
  | some place => layerOf (files.read place)
  | none => .ok .empty

/-- What the configuration file sets. One that is named must exist. -/
def fileLayer (files : Files) : Option String → Except Failure Layer
  | some path =>
    if files.isFile path then layerAt files path else .error (.noConfiguration path)
  | none => layerAt files defaultPath

/-- The switch of an action that makes settings strict. -/
def Action.isStrict : Action → Bool
  | check options => options.strict
  | _ => false

def loadConfiguration (around : Surroundings) (i : Invocation) : Except Failure Configuration := do
  let file ← fileLayer around.files i.config
  let layers :=
    [file, .ofVariables around.environment, .ofOptions i.logLevel i.action.isStrict]
  match Configuration.ofLayers? layers with
  | some c => .ok c
  | none => .error .badConfiguration

/-- The variable that gives a log filter before the configuration does. -/
def filterVariable : String := "RUST_LOG"

/-- Reads the filter of the variable, or the one of the configuration where that is none. -/
def readLogFilter (around : Surroundings) (c : Configuration) : Except LogFilter.Fault Unit :=
  match (around.environment.lookup filterVariable).map LogFilter.read with
  | none | some (.error .invalid) => LogFilter.read c.logLevel
  | some result => result

/-! ### Commands -/

/-- The tokens of a rule string, as a value. -/
def tokensValue (ts : List Token) : Value :=
  .list (ts.map fun t => .object [("name", .text t.name), ("args", .list (t.args.map .text))])

/-- The result of one field, as a value. -/
def fieldValue (field : String) (message : Option String) : Value :=
  .object [("field", .text field), ("message", RemoteErrors.valueOf message)]

def act (files : Files) (c : Configuration) : Action → Except Failure Outcome
  | .check options => do
    let sources : Sources := ⟨options.record, options.rules, options.remote⟩
    match options.field with
    | some field => do
      let message ← checkField files c.settings sources field
      return .checked message.isNone (fieldValue field message)
    | none => do
      let verdict ← checkAll files c.settings sources
      return .checked verdict.valid verdict.toValue
  | .parse rules => .ok (.printed 0 ((tokensValue (Token.ofText rules)).pretty ++ "\n"))
  | .rules => .ok (.printed 0 (String.join (Rule.all.map fun r => r.text ++ "\n")))

/-- The outcome of an invocation. -/
def invoke (around : Surroundings) (i : Invocation) : Except Failure Outcome := do
  let c ← loadConfiguration around i
  match readLogFilter around c with
  | .ok () => act around.files c i.action
  | .error .invalid => .error (.badLogFilter c.logLevel)
  | .error .broken => .ok .brokenOff

/-! ### Runs -/

def versionText : String := "rulebook 0.1.0\n"

def helpText : String :=
  "Validate JSON records against rule strings\n\n" ++
  "Usage: rulebook [OPTIONS] <COMMAND>\n\n" ++
  "Commands:\n" ++
  "  check  Evaluate a record against a rule file\n" ++
  "  parse  Print the tokens of a rule string\n" ++
  "  rules  List the built-in rules\n" ++
  "  help   Print this message or the help of the given subcommand(s)\n\n" ++
  "Options:\n" ++
  "      --config <PATH>       Config file (default: ./rulebook.toml when present)\n" ++
  "      --log-level <FILTER>  Log filter, e.g. `debug` or `rulebook_validator=trace`\n" ++
  "  -h, --help                Print help\n" ++
  "  -V, --version             Print version\n"

/-- The outcome of a run. -/
def run (args : List String) (around : Surroundings) : Outcome :=
  match Request.ofArguments args with
  | .run i =>
    match invoke around i with
    | .ok outcome => outcome
    | .error f => .failed f
  | .help => .printed 0 helpText
  | .version => .printed 0 versionText
  | .nothing => ⟨2, "", none, false⟩
  | .misuse => ⟨2, "", none, true⟩

/-- The places of all files that a request may read. -/
def placesOf (files : Files) : Request → List String
  | .run i =>
    i.config.toList.flatMap files.places ++ files.places defaultPath ++
      match i.action with
      | .check options =>
        (options.record :: options.rules :: options.remote.toList).flatMap files.places
      | _ => []
  | _ => []

end FieldRules.Command
