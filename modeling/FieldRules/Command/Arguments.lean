import FieldRules.Text.Pieces
/-!
The arguments of the command line and what they ask for. Options stand before or after the name of a
command; two of them belong to every command, and the one given later to the command wins over the
one before it. `Request.ofArguments` reads arguments from left to right and stops at the first that
asks for help or is wrong.
-/

namespace FieldRules.Command

/-! ### Requests -/

/-- The files and switches of a check. -/
structure CheckOptions where
  record : String
  rules : String
  field : Option String
  remote : Option String
  strict : Bool
  deriving DecidableEq

inductive Action where
  | check (options : CheckOptions)
  | parse (rules : String)
  | rules
  deriving DecidableEq

/-- A command with the options that belong to all commands. -/
structure Invocation where
  config : Option String
  logLevel : Option String
  action : Action
  deriving DecidableEq

/-- What arguments ask for. -/
inductive Request where
  | run (i : Invocation)
  | help
  | version
  /-- Arguments that say nothing. -/
  | nothing
  /-- Arguments that are wrong. -/
  | misuse
  deriving DecidableEq

/-! ### Options -/

/-- What an option takes. -/
inductive OptionKind where
  /-- A path, which is not empty. -/
  | path
  | text
  /-- Nothing. -/
  | switch
  deriving DecidableEq

/-- The options and the number of operands of a command, and the commands that may follow it. -/
structure Grammar where
  options : List (String × OptionKind)
  operands : Nat
  commands : List String
  versioned : Bool

/-- What has been read: options with their values, and operands. -/
structure Found where
  options : List (String × String)
  operands : List String

namespace Found

def value? (f : Found) (name : String) : Option String :=
  (f.options.find? fun o => o.1 == name).map Prod.snd

end Found

/-- Reading ends early, with the request that it ends in. -/
abbrev Reading (α : Type) := Except Request α

/-- Enters an option, which may be given once and whose path may not be empty. -/
def addOption (g : Grammar) (f : Found) (name value : String) : Reading Found :=
  if (f.value? name).isSome ∨ (⟨name, .path⟩ ∈ g.options ∧ value = "") then .error .misuse
  else .ok { f with options := f.options ++ [(name, value)] }

/-- Enters operands. -/
def addOperands (g : Grammar) (f : Found) (operands : List String) : Reading Found :=
  if f.operands.length + operands.length ≤ g.operands then
    .ok { f with operands := f.operands ++ operands }
  else .error .misuse

/-- An argument that begins with a hyphen and is more than that. -/
def isHyphened (arg : String) : Bool :=
  match arg.toList with
  | '-' :: _ :: _ => true
  | _ => false

/-- The request of a long name that is no option. -/
def longRequest (g : Grammar) (name : String) : Request :=
  if name = "help" then .help
  else if g.versioned ∧ name = "version" then .version
  else .misuse

/-- The request of a letter after a single hyphen. -/
def shortRequest (g : Grammar) (letter : Char) : Request :=
  if letter = 'h' then .help
  else if g.versioned ∧ letter = 'V' then .version
  else .misuse

/-- Reads options and operands up to the end or to the name of a command, which is given with the
arguments after it. -/
def scan (g : Grammar) (f : Found) :
    List String → Reading (Found × Option (String × List String))
  | [] => .ok (f, none)
  | arg :: rest =>
    if arg ∈ g.commands then .ok (f, some (arg, rest))
    else
      match arg.toList with
      | ['-', '-'] => do
        let f ← addOperands g f rest
        .ok (f, none)
      | '-' :: '-' :: long =>
        let (name, attached) := match Text.splitOnce '=' long with
          | some (name, value) => (String.ofList name, some (String.ofList value))
          | none => (String.ofList long, none)
        match g.options.lookup name, attached with
        | none, none => .error (longRequest g name)
        | none, some _ => .error .misuse
        | some .switch, none => do
          let f ← addOption g f name ""
          scan g f rest
        | some .switch, some _ => .error .misuse
        | some _, some value => do
          let f ← addOption g f name value
          scan g f rest
        | some _, none =>
          match rest with
          | value :: rest =>
            if isHyphened value then .error .misuse
            else do
              let f ← addOption g f name value
              scan g f rest
          | [] => .error .misuse
      | '-' :: letter :: _ => .error (shortRequest g letter)
      | _ => do
        let f ← addOperands g f [arg]
        scan g f rest

/-! ### Commands -/

/-- The options that belong to every command. -/
def sharedOptions : List (String × OptionKind) := [("config", .path), ("log-level", .text)]

def commandNames : List String := ["check", "parse", "rules", "help"]

def mainGrammar : Grammar := ⟨sharedOptions, 0, commandNames, true⟩

def checkGrammar : Grammar :=
  ⟨sharedOptions ++ [("record", .path), ("rules", .path), ("field", .text), ("remote", .path),
    ("strict", .switch)], 0, [], false⟩

def parseGrammar : Grammar := ⟨sharedOptions, 1, [], false⟩

def rulesGrammar : Grammar := ⟨sharedOptions, 0, [], false⟩

/-- The action of what was found after `check`. -/
def checkAction (f : Found) : Reading Action :=
  match f.value? "record", f.value? "rules" with
  | some record, some rules =>
    .ok (.check ⟨record, rules, f.value? "field", f.value? "remote", (f.value? "strict").isSome⟩)
  | _, _ => .error .misuse

/-- The action of what was found after `parse`. -/
def parseAction (f : Found) : Reading Action :=
  match f.operands with
  | [rules] => .ok (.parse rules)
  | _ => .error .misuse

/-- Help for a command that exists. -/
def helpRequest : List String → Request
  | [] => .help
  | "help" :: rest => helpRequest rest
  | [name] => if name ∈ commandNames then .help else .misuse
  | _ => .misuse

/-- Reads what follows the name of a command. -/
def command (outer : Found) (g : Grammar) (action : Found → Reading Action)
    (args : List String) : Reading Invocation := do
  let (f, _) ← scan g ⟨[], []⟩ args
  let shared (name : String) : Option String := f.value? name <|> outer.value? name
  return ⟨shared "config", shared "log-level", ← action f⟩

/-- The invocation that arguments write, or the request they end in. -/
def invocation (args : List String) : Reading Invocation := do
  let (f, next) ← scan mainGrammar ⟨[], []⟩ args
  match next with
  | some ("check", args) => command f checkGrammar checkAction args
  | some ("parse", args) => command f parseGrammar parseAction args
  | some ("rules", args) => command f rulesGrammar (fun _ => .ok .rules) args
  | some (_, args) => .error (helpRequest args)
  | none => .error (if f.options = [] then .nothing else .misuse)

/-- What arguments ask for. -/
def Request.ofArguments (args : List String) : Request :=
  match invocation args with
  | .ok i => .run i
  | .error r => r

end FieldRules.Command
