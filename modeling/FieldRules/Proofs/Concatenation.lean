import FieldRules.Proofs.Policies
import FieldRules.Proofs.SpecShapes
/-!
Rule strings that follow one another. Where the marks of the field stay what they are, a rule string
after a bar adds its predicates behind those before the bar, so the first failure is that of the
first rule string, or else that of the second (`first_failure_of_joined`).
-/

namespace FieldRules

/-! ### Declarations of joined rule strings -/

theorem Token.ofText_bar (a b : String) : ofText (a ++ "|" ++ b) = ofText a ++ ofText b := by
  have h := ofText_joined [a, b]
  rwa [Text.joined, Text.joined, List.flatMap_cons, List.flatMap_singleton] at h

namespace FieldSpec

theorem parts_bar (a b : String) :
    (rules (a ++ "|" ++ b)).parts = (rules a).parts ++ (rules b).parts := by
  rw [parts, parts, parts, Token.ofText_bar, List.map_append]

theorem isNullable_bar (a b : String) :
    (rules (a ++ "|" ++ b)).isNullable = ((rules a).isNullable || (rules b).isNullable) := by
  simp only [isNullable, declares, tokens, Token.ofText_bar, List.any_append]

theorem isNumeric_bar (a b : String) :
    (rules (a ++ "|" ++ b)).isNumeric = ((rules a).isNumeric || (rules b).isNumeric) := by
  simp only [isNumeric, tokens, Token.ofText_bar, List.filterMap_append, List.any_append]

end FieldSpec

/-! ### Built fields that follow one another -/

namespace BuiltField

/-- More predicates behind those of a field. -/
def append (b : BuiltField) (more : List Predicate) : BuiltField :=
  ⟨b.predicates ++ more, b.nullable⟩

theorem firstFailure_append (b : BuiltField) (more : List Predicate) (v : Value) (r : Record) :
    (b.append more).firstFailure v r =
      (b.firstFailure v r).or (BuiltField.firstFailure ⟨more, b.nullable⟩ v r) :=
  List.findSome?_append

/-- Predicates behind those of a field show their message where the field passes. -/
theorem evaluate_append (b : BuiltField) (more : List Predicate) (v : Value) (r : Record) :
    (b.append more).evaluate v r =
      (b.evaluate v r <|> BuiltField.evaluate ⟨more, b.nullable⟩ v r) := by
  have hskips : (b.append more).skips v = b.skips v := rfl
  have hskips' : BuiltField.skips ⟨more, b.nullable⟩ v = b.skips v := rfl
  rw [evaluate, evaluate, evaluate, hskips, hskips', firstFailure_append]
  cases b.skips v with
  | true => rfl
  | false => cases b.firstFailure v r <;> rfl

end BuiltField

namespace Registry

variable {r : Registry} {settings : Settings} {field a b : String}

/-- Behind a bar that changes no mark, a rule string adds its predicates. -/
theorem build_bar_eq_ok_iff {both : BuiltField}
    (hnullable : (FieldSpec.rules (a ++ "|" ++ b)).isNullable = (FieldSpec.rules a).isNullable)
    (hnumeric : (FieldSpec.rules (a ++ "|" ++ b)).isNumeric = (FieldSpec.rules a).isNumeric) :
    (r.build settings field (.rules (a ++ "|" ++ b))).result = .ok both ↔
      ∃ first, (r.build settings field (.rules a)).result = .ok first ∧
        (∀ t ∈ (FieldSpec.rules b).tokens,
          (r.resolve settings field (FieldSpec.rules a).isNumeric t).fault? = none) ∧
        both = first.append ((FieldSpec.rules b).parts.filterMap
          (Part.predicate? (r.resolve settings field (FieldSpec.rules a).isNumeric))) := by
  have htokens : (FieldSpec.rules (a ++ "|" ++ b)).tokens =
      (FieldSpec.rules a).tokens ++ (FieldSpec.rules b).tokens := Token.ofText_bar a b
  simp only [build_eq_ok_iff, hnullable, hnumeric, htokens, List.forall_mem_append,
    FieldSpec.parts_bar, List.filterMap_append]
  constructor
  · rintro ⟨⟨ha, hb⟩, rfl⟩
    exact ⟨_, ⟨ha, rfl⟩, hb, rfl⟩
  · rintro ⟨_, ⟨ha, rfl⟩, hb, rfl⟩
    exact ⟨⟨ha, hb⟩, rfl⟩

end Registry

namespace Engine

/-- Two rule strings that build and agree on the marks of their field build together, and the result
is the message of the first, or else the result of the second. Whatever the second one holds, if
both together build and have the marks of the first, a message of the first is that of both. -/
theorem first_failure_of_joined (e : Engine) (field a b : String) (v : Value) (record : Record) :
    let both := a ++ "|" ++ b
    let build := fun text => (e.build field (.rules text)).result
    let evaluate := fun text => (e.evaluateField field v record (some (.rules text))).result
    let nullable := fun text => (FieldSpec.rules text).declares .nullable
    let numeric := fun text =>
      (FieldSpec.rules text).declares .numeric || (FieldSpec.rules text).declares .integer
    ((∃ built, build a = .ok built) → (∃ built, build b = .ok built) →
      nullable a = nullable b → numeric a = numeric b →
      (∃ built, build both = .ok built) ∧
      ∃ x y, evaluate a = .ok x ∧ evaluate b = .ok y ∧ evaluate both = .ok (x <|> y)) ∧
    ((∃ built, build both = .ok built) → nullable both = nullable a → numeric both = numeric a →
      ∀ message, evaluate a = .ok (some message) → evaluate both = .ok (some message)) := by
  intro both build evaluate nullable numeric
  have hevaluate : ∀ {text built}, build text = .ok built →
      evaluate text = .ok (built.evaluate v record) := by
    intro text built h
    have hresult := result_evaluateField e field v record (.rules text)
    rwa [show (e.build field (.rules text)).result = .ok built from h] at hresult
  have hmark : ∀ text, numeric text = (FieldSpec.rules text).isNumeric :=
    fun text => (FieldSpec.isNumeric_eq_declares _).symm
  constructor
  · rintro ⟨first, hfirst⟩ ⟨second, hsecond⟩ hnullable hnumeric
    rw [hmark, hmark] at hnumeric
    have hsame : (FieldSpec.rules a).isNullable = (FieldSpec.rules b).isNullable := hnullable
    have hnullable' : (FieldSpec.rules both).isNullable = (FieldSpec.rules a).isNullable := by
      rw [FieldSpec.isNullable_bar, ← hsame, Bool.or_self]
    have hnumeric' : (FieldSpec.rules both).isNumeric = (FieldSpec.rules a).isNumeric := by
      rw [FieldSpec.isNumeric_bar, ← hnumeric, Bool.or_self]
    obtain ⟨hfaults, rfl⟩ := Registry.build_eq_ok_iff.mp hsecond
    rw [← hnumeric] at hfaults
    have hboth := (Registry.build_bar_eq_ok_iff hnullable' hnumeric').mpr
      ⟨first, hfirst, hfaults, rfl⟩
    refine ⟨⟨_, hboth⟩, _, _, hevaluate hfirst, hevaluate hsecond, ?_⟩
    -- the second rule string bears the marks of the first, so behind it it is built as on its own
    have hmark' : first.nullable = (FieldSpec.rules b).isNullable := by
      obtain ⟨-, rfl⟩ := Registry.build_eq_ok_iff.mp hfirst
      exact hsame
    rw [hevaluate hboth, BuiltField.evaluate_append, hmark', hnumeric]
  · rintro ⟨built, hboth⟩ hnullable hnumeric message hmessage
    rw [hmark, hmark] at hnumeric
    obtain ⟨first, hfirst, -, rfl⟩ :=
      (Registry.build_bar_eq_ok_iff hnullable hnumeric).mp hboth
    have hfails : first.evaluate v record = some message :=
      Except.ok.inj ((hevaluate hfirst).symm.trans hmessage)
    rw [hevaluate hboth, BuiltField.evaluate_append, hfails]
    rfl

/-- Seventeen as text is below an upper bound and then fails a lower one, also where other rules
come behind that, which it would fail too. -/
theorem first_failure_of_joined_age :
    let e : Engine := ⟨.builtin, {}⟩
    let build := fun text => (e.build "age" (.rules text)).result
    let evaluate := fun text =>
      (e.evaluateField "age" (.text "17") .empty (some (.rules text))).result
    let nullable := fun text => (FieldSpec.rules text).declares .nullable
    let numeric := fun text =>
      (FieldSpec.rules text).declares .numeric || (FieldSpec.rules text).declares .integer
    let upper := "max:65|integer"
    let lower := "min:18|numeric"
    let other := "email|size:2"
    let short := "Must be at least 18."
    ((∃ built, build upper = .ok built) ∧ (∃ built, build lower = .ok built) ∧
      nullable upper = nullable lower ∧ numeric upper = numeric lower ∧
      (∃ built, build (upper ++ "|" ++ lower) = .ok built) ∧
      evaluate upper = .ok none ∧ evaluate (upper ++ "|" ++ lower) = .ok (some short)) ∧
    (∃ built, build (lower ++ "|" ++ other) = .ok built) ∧
      nullable (lower ++ "|" ++ other) = nullable lower ∧
      numeric (lower ++ "|" ++ other) = numeric lower ∧ numeric lower ≠ numeric other ∧
      evaluate lower = .ok (some short) ∧ evaluate (lower ++ "|" ++ other) = .ok (some short) := by
  intro e build evaluate nullable numeric upper lower other short
  have hupper : ∃ built, build upper = .ok built :=
    ⟨_, Registry.build_eq_ok_iff.mpr ⟨by decide +kernel, rfl⟩⟩
  have hlower : ∃ built, build lower = .ok built :=
    ⟨_, Registry.build_eq_ok_iff.mpr ⟨by decide +kernel, rfl⟩⟩
  have hother : ∃ built, build (lower ++ "|" ++ other) = .ok built :=
    ⟨_, Registry.build_eq_ok_iff.mpr ⟨by decide +kernel, rfl⟩⟩
  have hpasses : evaluate upper = .ok none := by decide +kernel
  have hfails : evaluate lower = .ok (some short) := by decide +kernel
  obtain ⟨hagree, -⟩ := first_failure_of_joined e "age" upper lower (.text "17") .empty
  obtain ⟨-, hbehind⟩ := first_failure_of_joined e "age" lower other (.text "17") .empty
  obtain ⟨hboth, x, y, hx, hy, hxy⟩ := hagree hupper hlower (by decide) (by decide)
  cases hpasses.symm.trans hx
  cases hfails.symm.trans hy
  exact ⟨⟨hupper, hlower, by decide, by decide, hboth, hpasses, hxy⟩, hother, by decide, by decide,
    by decide, hfails, hbehind hother (by decide) (by decide) short hfails⟩

end Engine

end FieldRules
