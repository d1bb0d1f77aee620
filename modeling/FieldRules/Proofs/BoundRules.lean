import FieldRules.Proofs.ReadSets
/-!
Rules of the catalog once they are bound to a field. `Rule.Answers` says what a rule with its
arguments says of a value, and holds only if the build keeps the rule; a value passes or fails by that
answer (`Rule.passes_iff`, `Rule.fails_iff`).
-/

namespace FieldRules

namespace Predicate

variable {name message : String} {ok : Value → Bool} {v : Value} {r : Record}

theorem check_ofTest_eq_none_iff : (ofTest name message ok).check v r = none ↔ ok v = true := by
  by_cases h : ok v = true <;> simp [ofTest, h]

theorem check_ofTest_eq_some_iff : (ofTest name message ok).check v r = some message ↔
    ¬ (ofTest name message ok).check v r = none := by
  by_cases h : ok v = true <;> simp [ofTest, h]

end Predicate

section Bound

variable (settings : Settings) (field : String) (numericField : Bool) (record : Record)

/-- The catalog binds the rule with its arguments to the field, and this is what it says of a value:
a message, or nothing. -/
def Rule.Answers (rule : Rule) (args : List String) (v : Value) (answer : Option String) : Prop :=
  ∃ p, Registry.builtin.resolve settings field numericField ⟨rule.text, args⟩ = .kept p ∧
    p.check v record = answer

/-- The rule is bound to the field, and the value passes it. -/
def Rule.Passes (rule : Rule) (args : List String) (v : Value) : Prop :=
  rule.Answers settings field numericField record args v none

/-- The rule is bound to the field, and the value fails it. -/
def Rule.Fails (rule : Rule) (args : List String) (v : Value) : Prop :=
  ∃ message, rule.Answers settings field numericField record args v (some message)

variable {settings field numericField record} {rule : Rule} {args : List String} {v : Value}

theorem Registry.resolve_eq_kept {p : Predicate}
    (h : rule.factory (inputOf field numericField ⟨rule.text, args⟩) = .ok p) :
    builtin.resolve settings field numericField ⟨rule.text, args⟩ = .kept p := by
  simp only [resolve, factory?_builtin, Rule.ofText?_text, Option.map_some, h]

theorem Registry.resolve_eq_onError {e : SpecError}
    (h : rule.factory (inputOf field numericField ⟨rule.text, args⟩) = .error e) :
    builtin.resolve settings field numericField ⟨rule.text, args⟩ = onError settings e := by
  simp only [resolve, factory?_builtin, Rule.ofText?_text, Option.map_some, h]

namespace Rule

theorem answers_iff {p : Predicate} {answer : Option String}
    (h : rule.factory (Registry.inputOf field numericField ⟨rule.text, args⟩) = .ok p) :
    rule.Answers settings field numericField record args v answer ↔ p.check v record = answer := by
  simp only [Answers, Registry.resolve_eq_kept h, Resolution.kept.injEq, exists_eq_left']

theorem passes_iff {p : Predicate}
    (h : rule.factory (Registry.inputOf field numericField ⟨rule.text, args⟩) = .ok p) :
    rule.Passes settings field numericField record args v ↔ p.check v record = none :=
  answers_iff h

theorem fails_iff {p : Predicate}
    (h : rule.factory (Registry.inputOf field numericField ⟨rule.text, args⟩) = .ok p) :
    rule.Fails settings field numericField record args v ↔
      ¬ rule.Passes settings field numericField record args v := by
  rw [passes_iff h, ← ne_eq, Option.ne_none_iff_exists']
  simp only [Fails, answers_iff h]

end Rule

/-! ### Arguments -/

/-- An argument that writes a number is that number. -/
theorem Registry.number_inputOf {name a : String} {x : Binary64} {n : Nat}
    (hargs : args[n]? = some a) (ha : Binary64.ofText? a = some x) :
    (inputOf field numericField ⟨name, args⟩).number n = .ok x := by
  simp [Input.number, inputOf, hargs, Argument.coerce, ha, Argument.number?]

/-- An argument that is not empty is the text that was written. -/
theorem Registry.text_inputOf {name a : String} {n : Nat} (hargs : args[n]? = some a)
    (ha : a ≠ "") : (inputOf field numericField ⟨name, args⟩).text n = .ok a := by
  simp [Input.text, inputOf, hargs, Argument.raw_coerce, ha]

end Bound

end FieldRules
