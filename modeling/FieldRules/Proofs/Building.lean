import FieldRules.Engine.Evaluate
/-!
What a build comes to. The first token with a fault fails it; otherwise every token contributes at
most one predicate, in its place, and every literal predicate stands where it was written. Main
statements: `result_build` for the outcome of a build, `result_evaluateField` for the outcome of an
evaluation, which is the built field's own.
-/

namespace FieldRules

/-! ### Results that may be errors -/

theorem bind_eq_ok_iff {ε α β : Type} {x : Except ε α} {f : α → Except ε β} {b : β} :
    x >>= f = .ok b ↔ ∃ a, x = .ok a ∧ f a = .ok b := by
  cases x <;> simp [bind, Except.bind]

theorem exists_of_bind_eq_ok {ε α β : Type} {x : Except ε α} {f : α → Except ε β} {b : β}
    (h : x >>= f = .ok b) : ∃ a, x = .ok a ∧ f a = .ok b :=
  bind_eq_ok_iff.mp h

theorem exists_bind_eq_ok_iff {ε α β : Type} {x : Except ε α} {f : α → Except ε β} :
    (∃ b, x >>= f = .ok b) ↔ ∃ a, x = .ok a ∧ ∃ b, f a = .ok b := by
  cases x <;> simp [bind, Except.bind]

theorem bind_eq_error {ε α β : Type} {x : Except ε α} {f : α → Except ε β} {e : ε}
    (h : x >>= f = .error e) : x = .error e ∨ ∃ a, x = .ok a ∧ f a = .error e := by
  cases x with
  | error e' =>
    cases h
    exact Or.inl rfl
  | ok a => exact Or.inr ⟨a, rfl, h⟩

theorem exists_pure_eq_ok {ε α : Type} (a : α) : ∃ b, (pure a : Except ε α) = .ok b := ⟨a, rfl⟩

theorem mapError_eq_ok_iff {ε ε' α : Type} {x : Except ε α} {f : ε → ε'} {a : α} :
    x.mapError f = .ok a ↔ x = .ok a := by
  cases x with
  | error e => exact ⟨nofun, nofun⟩
  | ok b => constructor <;> rintro ⟨⟩ <;> rfl

theorem map_eq_ok_iff {ε α β : Type} {x : Except ε α} {f : α → β} {b : β} :
    x.map f = .ok b ↔ ∃ a, x = .ok a ∧ f a = b := by
  cases x <;> simp [Except.map]

theorem eq_ok_of_toOption {ε α : Type} {x : Except ε α} {a : α} (h : x.toOption = some a) :
    x = .ok a := by
  cases x with
  | error e => cases h
  | ok b => exact congrArg Except.ok (Option.some.inj h)

/-! ### The first of a kind -/

section First

variable {α β : Type}

/-- What the first element gives that gives anything. -/
def FirstOf (gives : α → β → Prop) (l : List α) (b : β) : Prop :=
  ∃ before a after, l = before ++ a :: after ∧ gives a b ∧ ∀ x ∈ before, ∀ c, ¬ gives x c

variable {gives : α → β → Prop} {f : α → Option β} (hf : ∀ a b, f a = some b ↔ gives a b)
include hf

theorem findSome?_eq_some_iff_firstOf {l : List α} {b : β} :
    l.findSome? f = some b ↔ FirstOf gives l b := by
  simp only [List.findSome?_eq_some_iff, FirstOf, Option.eq_none_iff_forall_ne_some, ne_eq, hf]

theorem exists_findSome?_iff {l : List α} :
    (∃ b, l.findSome? f = some b) ↔ ∃ a ∈ l, ∃ b, gives a b := by
  simp only [← Option.isSome_iff_exists, List.findSome?_isSome_iff, ← hf]

end First

/-! ### Results with events -/

namespace Traced

variable {α β γ : Type}

theorem result_bind (x : Traced α) (f : α → Traced β) :
    (x >>= f).result = x.result.bind fun a => (f a).result := by
  change (x.andThen f).result = _
  rw [andThen]
  cases x.result <;> rfl

theorem bind_def (x : Traced α) (f : α → Traced β) : x >>= f = x.andThen f := rfl

theorem bind_bind (x : Traced α) (f : α → Traced β) (g : β → Traced γ) :
    x >>= f >>= g = x >>= fun a => f a >>= g := by
  obtain ⟨log, result⟩ := x
  cases result with
  | error e => rfl
  | ok a =>
    simp only [bind_def, andThen]
    cases (f a).result <;> simp

theorem pure_andThen (a : α) (f : α → Traced β) : pure a >>= f = f a := by
  simp [bind_def, andThen, pure, ok]

theorem bind_pure_self (x : Traced α) : x >>= pure = x := by
  obtain ⟨log, result⟩ := x
  cases result <;> simp [bind_def, andThen, pure, ok]

instance : LawfulMonad Traced := LawfulMonad.mk' Traced
  (fun x => bind_pure_self x) pure_andThen bind_bind

/-- What follows a computation matters only for the value it gives. -/
theorem bind_congr_ok {x : Traced α} {f g : α → Traced β}
    (h : ∀ a, x.result = .ok a → f a = g a) : x >>= f = x >>= g := by
  simp only [bind_def, andThen]
  cases hx : x.result with
  | error e => rfl
  | ok a => simp only [h a hx]

end Traced

/-! ### What single tokens contribute -/

namespace Resolution

/-- The predicate that a token contributes. -/
def predicate? : Resolution → Option Predicate
  | kept p | replaced p _ => some p
  | unknown | dropped _ | failed _ => none

/-- The error that a token fails the build with. -/
def fault? : Resolution → Option SpecError
  | failed e => some e
  | kept _ | replaced _ _ | unknown | dropped _ => none

end Resolution

/-- `a`, unless there is a fault. -/
def orFault {α : Type} (a : α) : Option SpecError → Except SpecError α
  | some e => .error e
  | none => .ok a

section Contributions

variable (resolve : Token → Resolution)

/-- The predicates of tokens that have no fault. -/
def contributed (ts : List Token) : List Predicate := ts.filterMap fun t => (resolve t).predicate?

/-- The first fault among tokens. -/
def firstFault? (ts : List Token) : Option SpecError := ts.findSome? fun t => (resolve t).fault?

/-- The predicates of an element of a list: those of its tokens, or the literal one. -/
def SpecItem.contributed : SpecItem → List Predicate
  | rules text => FieldRules.contributed resolve (Token.ofText text)
  | predicate p => [p]

/-- The predicates of a specification without faults, in the order of their declaration. -/
def FieldSpec.contributed : FieldSpec → List Predicate
  | rules text => FieldRules.contributed resolve (Token.ofText text)
  | list items => items.flatMap (SpecItem.contributed resolve)

theorem contributed_cons (t : Token) (ts : List Token) :
    contributed resolve (t :: ts) = (resolve t).predicate?.toList ++ contributed resolve ts := by
  rw [contributed, List.filterMap_cons]
  cases (resolve t).predicate? <;> rfl

theorem firstFault?_cons (t : Token) (ts : List Token) :
    firstFault? resolve (t :: ts) = (resolve t).fault?.or (firstFault? resolve ts) := by
  rw [firstFault?, List.findSome?_cons]
  cases (resolve t).fault? <;> rfl

theorem firstFault?_append (xs ys : List Token) :
    firstFault? resolve (xs ++ ys) = (firstFault? resolve xs).or (firstFault? resolve ys) :=
  List.findSome?_append

end Contributions

/-! ### Builds -/

namespace Registry

variable (resolve : Token → Resolution) (field : String)

/-- Building tokens that follow one another is building the one list, then the other. -/
theorem buildTokens_append : ∀ xs ys : List Token, buildTokens resolve field (xs ++ ys) = do
    let ps ← buildTokens resolve field xs
    let qs ← buildTokens resolve field ys
    return ps ++ qs
  | [], ys => by simp [buildTokens]
  | t :: xs, ys => by
    simp only [List.cons_append, buildTokens]
    cases resolve t with
    | failed e => rfl
    | kept p | replaced p e => simp [buildTokens_append xs ys]
    | unknown | dropped e => simp [buildTokens_append xs ys]

theorem result_buildTokens : ∀ ts : List Token,
    (buildTokens resolve field ts).result = orFault (contributed resolve ts) (firstFault? resolve ts)
  | [] => rfl
  | t :: ts => by
    have ih := result_buildTokens ts
    rw [buildTokens, contributed_cons, firstFault?_cons]
    cases resolve t with
    | failed e => rfl
    | kept p | replaced p e =>
      simp only [Traced.result_bind, Traced.emit, Except.bind, ih]
      cases firstFault? resolve ts <;> rfl
    | unknown | dropped e =>
      simp only [Traced.result_bind, Traced.emit, Except.bind, ih]
      rfl

theorem result_buildItems : ∀ items : List SpecItem,
    (buildItems resolve field items).result =
      orFault (items.flatMap (SpecItem.contributed resolve))
        (firstFault? resolve (items.flatMap SpecItem.tokens))
  | [] => rfl
  | .rules text :: rest => by
    simp only [buildItems, Traced.result_bind, result_buildTokens, result_buildItems rest,
      List.flatMap_cons, SpecItem.tokens, SpecItem.contributed, firstFault?_append]
    cases firstFault? resolve (Token.ofText text) with
    | some e => rfl
    | none => cases firstFault? resolve (rest.flatMap SpecItem.tokens) <;> rfl
  | .predicate p :: rest => by
    simp only [buildItems, Traced.result_bind, result_buildItems rest, List.flatMap_cons,
      SpecItem.tokens, SpecItem.contributed, List.nil_append]
    cases firstFault? resolve (rest.flatMap SpecItem.tokens) <;> rfl

theorem result_buildPredicates (spec : FieldSpec) :
    (buildPredicates resolve field spec).result =
      orFault (spec.contributed resolve) (firstFault? resolve spec.tokens) := by
  cases spec with
  | rules text => exact result_buildTokens resolve field _
  | list items => exact result_buildItems resolve field items

/-- The first fault of a field's tokens fails its build. Otherwise all that is contributed stands
in the order of its declaration. -/
theorem result_build (r : Registry) (settings : Settings) (field : String) (spec : FieldSpec) :
    (r.build settings field spec).result =
      orFault ⟨spec.contributed (r.resolve settings field spec.isNumeric), spec.isNullable⟩
        (firstFault? (r.resolve settings field spec.isNumeric) spec.tokens) := by
  rw [build, Traced.result_bind, result_buildPredicates]
  cases firstFault? (r.resolve settings field spec.isNumeric) spec.tokens <;> rfl

end Registry

/-! ### Evaluations -/

namespace Engine

/-- A field's result is that of its built predicates. -/
theorem result_evaluateField (e : Engine) (field : String) (v : Value) (r : Record)
    (spec : FieldSpec) :
    (e.evaluateField field v r (some spec)).result =
      (e.build field spec).result.map fun built => built.evaluate v r := by
  simp only [evaluateField, Traced.result_bind]
  cases (e.build field spec).result with
  | error err => rfl
  | ok built =>
    simp only [Except.bind, Except.map, BuiltField.evaluate]
    split
    · rfl
    · cases built.firstFailure v r <;> rfl

/-- The built fields of entries; the first error ends the build. -/
def buildEntries (e : Engine) :
    List (String × FieldSpec) → Except SpecError (List (String × BuiltField))
  | [] => .ok []
  | (field, spec) :: rest => do
    let built ← (e.build field spec).result
    let fields ← e.buildEntries rest
    return (field, built) :: fields

/-- The result of a built field in a record. -/
def answer (r : Record) (f : String × BuiltField) : String × Option String :=
  (f.1, f.2.evaluate (r.read f.1) r)

/-- Whether entries have results does not depend on the record, only the results do. -/
theorem result_evaluateEntries (e : Engine) (r : Record) : ∀ entries : List (String × FieldSpec),
    (e.evaluateEntries r entries).result = (e.buildEntries entries).map (List.map (answer r))
  | [] => rfl
  | (field, spec) :: rest => by
    simp only [evaluateEntries, buildEntries, Traced.result_bind, result_evaluateField,
      result_evaluateEntries e r rest]
    cases (e.build field spec).result with
    | error err => rfl
    | ok built => cases e.buildEntries rest <;> rfl

/-- An evaluation builds all fields, whatever the record, and then answers for each. -/
theorem result_evaluateAll (e : Engine) (r : Record) (specs : Sheet) :
    (e.evaluateAll r specs).result = (e.buildEntries specs.entries).map fun fields =>
      Verdict.ofResults (Table.ofList (fields.map (answer r))) := by
  rw [evaluateAll, Traced.result_bind, result_evaluateEntries]
  cases e.buildEntries specs.entries <;> rfl

variable {e : Engine}

theorem map_fst_answer (r : Record) (fields : List (String × BuiltField)) :
    (fields.map (answer r)).map Prod.fst = fields.map Prod.fst := by
  rw [List.map_map]
  rfl

theorem buildEntries_cons_eq_ok {field : String} {spec : FieldSpec}
    {rest : List (String × FieldSpec)} {fields : List (String × BuiltField)} :
    e.buildEntries ((field, spec) :: rest) = .ok fields ↔
      ∃ built tail, (e.build field spec).result = .ok built ∧ e.buildEntries rest = .ok tail ∧
        fields = (field, built) :: tail := by
  rw [buildEntries]
  constructor
  · intro h
    obtain ⟨built, hb, h⟩ := exists_of_bind_eq_ok h
    obtain ⟨tail, ht, h⟩ := exists_of_bind_eq_ok h
    cases h
    exact ⟨built, tail, hb, ht, rfl⟩
  · rintro ⟨built, tail, hb, ht, rfl⟩
    rw [hb, ht]
    rfl

theorem map_fst_of_buildEntries : ∀ {entries : List (String × FieldSpec)}
    {fields : List (String × BuiltField)}, e.buildEntries entries = .ok fields →
    fields.map Prod.fst = entries.map Prod.fst
  | [], _, h => by
    cases h
    rfl
  | (field, spec) :: rest, _, h => by
    obtain ⟨built, tail, -, ht, rfl⟩ := buildEntries_cons_eq_ok.mp h
    rw [List.map_cons, List.map_cons, map_fst_of_buildEntries ht]

/-- Built fields are those of entries. -/
theorem mem_of_buildEntries : ∀ {entries : List (String × FieldSpec)}
    {fields : List (String × BuiltField)}, e.buildEntries entries = .ok fields →
    ∀ f ∈ fields, ∃ spec, (f.1, spec) ∈ entries ∧ (e.build f.1 spec).result = .ok f.2
  | [], _, h, f, hf => by
    cases h
    cases hf
  | (field, spec) :: rest, _, h, f, hf => by
    obtain ⟨built, tail, hb, ht, rfl⟩ := buildEntries_cons_eq_ok.mp h
    rcases List.mem_cons.mp hf with rfl | hrest
    · exact ⟨spec, List.mem_cons_self, hb⟩
    · obtain ⟨s, hs, hb'⟩ := mem_of_buildEntries ht f hrest
      exact ⟨s, List.mem_cons_of_mem _ hs, hb'⟩

theorem exists_buildEntries : ∀ {entries : List (String × FieldSpec)},
    (∀ entry ∈ entries, ∃ built, (e.build entry.1 entry.2).result = .ok built) →
    ∃ fields, e.buildEntries entries = .ok fields
  | [], _ => ⟨[], rfl⟩
  | (field, spec) :: rest, h => by
    obtain ⟨built, hb⟩ := h (field, spec) List.mem_cons_self
    obtain ⟨tail, ht⟩ := exists_buildEntries fun entry he => h entry (List.mem_cons_of_mem _ he)
    exact ⟨_, buildEntries_cons_eq_ok.mpr ⟨built, tail, hb, ht, rfl⟩⟩

end Engine

end FieldRules
