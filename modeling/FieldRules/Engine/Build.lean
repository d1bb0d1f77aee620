import FieldRules.Engine.Event
import FieldRules.Engine.Settings
import FieldRules.Spec.Basic
import FieldRules.Check.Shape
import FieldRules.Check.Listing
/-!
From the specification of a field to its predicates. A token is resolved by the registry, then by
the rules that are always known; whether it contributes a predicate, is dropped with a warning or
fails the build is one value of `Resolution`.
-/

namespace FieldRules

/-- Factories by the names of their rules. -/
abbrev Registry := Table Factory

/-- The factory of a rule that needs no registry. -/
def alwaysKnown? (name : String) : Option Factory :=
  match Rule.ofText? name with
  | some .oneOf => some Check.oneOf
  | some .noneOf => some Check.noneOf
  | _ => none

/-- What becomes of a token. -/
inductive Resolution
  | kept (p : Predicate)
  | replaced (p : Predicate) (e : SpecError)
  | unknown
  | dropped (e : SpecError)
  | failed (e : SpecError)

/-- The predicates of one field. -/
structure BuiltField where
  predicates : List Predicate
  nullable : Bool

namespace Registry

/-- The factory of a rule name. -/
def factory? (r : Registry) (name : String) : Option Factory :=
  r.find? name <|> alwaysKnown? name

/-- What a token of a field is bound to. -/
def inputOf (field : String) (numericField : Bool) (t : Token) : Input :=
  ⟨t.name, field, t.args.map Argument.coerce, numericField⟩

/-- What becomes of an error of a factory. -/
def onError (settings : Settings) (e : SpecError) : Resolution :=
  if e.isInvalidPattern then
    match settings.invalidPattern with
    | .propagate => .failed e
    | .message => .replaced Check.unusablePattern e
  else if settings.strict then .failed e
  else .dropped e

/-- What becomes of a token. -/
def resolve (r : Registry) (settings : Settings) (field : String) (numericField : Bool)
    (t : Token) : Resolution :=
  match r.factory? t.name with
  | none => if settings.strict then .failed (.unknownRule field t.name) else .unknown
  | some f =>
    match f (inputOf field numericField t) with
    | .ok p => .kept p
    | .error e => onError settings e

/-- The predicates of tokens, with a warning for each token that is not kept. -/
def buildTokens (resolve : Token → Resolution) (field : String) :
    List Token → Traced (List Predicate)
  | [] => return []
  | t :: rest =>
    match resolve t with
    | .kept p => do
      let ps ← buildTokens resolve field rest
      return p :: ps
    | .replaced p e => do
      .emit (.badPattern field e)
      let ps ← buildTokens resolve field rest
      return p :: ps
    | .unknown => do
      .emit (.unknownRule field t.name)
      buildTokens resolve field rest
    | .dropped e => do
      .emit (.ruleDropped field t.name e)
      buildTokens resolve field rest
    | .failed e => .error e

/-- The predicates of the elements of a list, each rule string read where it stands. -/
def buildItems (resolve : Token → Resolution) (field : String) :
    List SpecItem → Traced (List Predicate)
  | [] => return []
  | .rules text :: rest => do
    let ps ← buildTokens resolve field (Token.ofText text)
    let qs ← buildItems resolve field rest
    return ps ++ qs
  | .predicate p :: rest => do
    let ps ← buildItems resolve field rest
    return p :: ps

/-- The predicates of a specification in the order of their declaration. -/
def buildPredicates (resolve : Token → Resolution) (field : String) :
    FieldSpec → Traced (List Predicate)
  | .rules text => buildTokens resolve field (Token.ofText text)
  | .list items => buildItems resolve field items

/-- The predicates of a field. Both marks are taken from the whole specification, so a token may
stand before the one that marks its field. -/
def build (r : Registry) (settings : Settings) (field : String) (spec : FieldSpec) :
    Traced BuiltField := do
  let ps ← buildPredicates (r.resolve settings field spec.isNumeric) field spec
  return ⟨ps, spec.isNullable⟩

end Registry

namespace BuiltField

/-- An empty value of a nullable field skips all rules. -/
def skips (b : BuiltField) (v : Value) : Bool := b.nullable && v.isEmpty

/-- The first predicate that fails, with its message. -/
def firstFailure (b : BuiltField) (v : Value) (r : Record) : Option (Predicate × String) :=
  b.predicates.findSome? fun p => (p.check v r).map (p, ·)

/-- The message of the first failure, unless the value skips all rules. -/
def evaluate (b : BuiltField) (v : Value) (r : Record) : Option String :=
  if b.skips v then none else (b.firstFailure v r).map Prod.snd

end BuiltField

end FieldRules
