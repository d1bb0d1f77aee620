import FieldRules.Check.Catalog
import FieldRules.Proofs.Parts
/-!
How the settings of a build relate. What becomes of a token is read off the answer of its factory
(`resolve_eq_of_answer`); the faults under each setting follow, and with them which builds fail,
with which error, and when two settings build the same (`build_by_settings`).
-/

namespace FieldRules

/-! ### What becomes of a token -/

namespace Registry

/-- The name is registered or needs no entry. -/
def Known (r : Registry) (name : String) : Prop :=
  (r.find? name).isSome = true ∨ name = "in" ∨ name = "not_in"

theorem alwaysKnown?_isSome_iff {name : String} :
    (alwaysKnown? name).isSome = true ↔ name = "in" ∨ name = "not_in" := by
  constructor
  · intro h
    rw [alwaysKnown?] at h
    split at h
    · next hrule => exact Or.inl (Rule.text_of_ofText? hrule).symm
    · next hrule => exact Or.inr (Rule.text_of_ofText? hrule).symm
    · cases h
  · rintro (rfl | rfl) <;> decide

theorem factory?_isSome_iff {r : Registry} {name : String} :
    (r.factory? name).isSome = true ↔ r.Known name := by
  rw [Known, ← alwaysKnown?_isSome_iff, factory?]
  cases r.find? name <;> simp

variable (r : Registry) (field : String) (numericField : Bool)

/-- What the factory of a token's rule makes of it, if the rule is known. -/
def answer? (t : Token) : Option (Except SpecError Predicate) :=
  (r.factory? t.name).map fun f => f (inputOf field numericField t)

/-- The factory finds a pattern that cannot be read. -/
def BadPattern (t : Token) (e : SpecError) : Prop :=
  r.answer? field numericField t = some (.error e) ∧ e.isInvalidPattern = true

/-- What a strict build reports of a token: an unknown rule, or the error of its factory, that of a
pattern only where it is to be propagated. -/
inductive Unusable (policy : PatternPolicy) (t : Token) : SpecError → Prop
  | unknown : ¬ r.Known t.name → Unusable policy t (.unknownRule field t.name)
  | error {e : SpecError} : r.answer? field numericField t = some (.error e) →
      (e.isInvalidPattern = true → policy = .propagate) → Unusable policy t e

variable {r field numericField}

theorem answer?_eq_none_iff {t : Token} :
    r.answer? field numericField t = none ↔ ¬ r.Known t.name := by
  rw [answer?, ← factory?_isSome_iff]
  cases r.factory? t.name <;> simp

/-- What becomes of a token is read off the answer of its factory. -/
theorem resolve_eq_of_answer (settings : Settings) (t : Token) :
    r.resolve settings field numericField t =
      match r.answer? field numericField t with
      | none => if settings.strict then .failed (.unknownRule field t.name) else .unknown
      | some (.ok p) => .kept p
      | some (.error e) => onError settings e := by
  rw [resolve, answer?]
  cases r.factory? t.name with
  | none => rfl
  | some f => cases h : f (inputOf field numericField t) <;> simp [h]

/-! ### Faults under each setting -/

theorem fault?_onError_eq_some_iff {settings : Settings} {e e' : SpecError} :
    (onError settings e).fault? = some e' ↔ e = e' ∧
      if e.isInvalidPattern then settings.invalidPattern = .propagate
      else settings.strict = true := by
  obtain ⟨strict, policy⟩ := settings
  rw [onError]
  cases e.isInvalidPattern <;> cases policy <;> cases strict <;> simp [Resolution.fault?]

theorem fault?_lenient_message (t : Token) :
    (r.resolve ⟨false, .message⟩ field numericField t).fault? = none := by
  rw [resolve_eq_of_answer]
  rcases r.answer? field numericField t with _ | e | p
  · rfl
  · rw [Option.eq_none_iff_forall_ne_some]
    intro e' h
    have h' := (fault?_onError_eq_some_iff.mp h).2
    cases he : e.isInvalidPattern <;> simp [he] at h'
  · rfl

theorem fault?_lenient_propagate (t : Token) (e : SpecError) :
    (r.resolve ⟨false, .propagate⟩ field numericField t).fault? = some e ↔
      r.BadPattern field numericField t e := by
  rw [resolve_eq_of_answer, BadPattern]
  rcases r.answer? field numericField t with _ | e' | p
  · simp [Resolution.fault?]
  · simp only [fault?_onError_eq_some_iff, Option.some.injEq, Except.error.injEq]
    refine and_congr_right fun he => ?_
    simp [he]
  · simp [Resolution.fault?]

theorem fault?_strict (policy : PatternPolicy) (t : Token) (e : SpecError) :
    (r.resolve ⟨true, policy⟩ field numericField t).fault? = some e ↔
      r.Unusable field numericField policy t e := by
  rw [resolve_eq_of_answer]
  constructor
  · intro h
    cases ha : r.answer? field numericField t with
    | none =>
      rw [ha] at h
      cases h
      exact .unknown (answer?_eq_none_iff.mp ha)
    | some answer =>
      rw [ha] at h
      cases answer with
      | ok p => cases h
      | error e' =>
        obtain ⟨rfl, hpolicy⟩ := fault?_onError_eq_some_iff.mp h
        refine .error ha fun he => ?_
        rwa [if_pos he] at hpolicy
  · rintro (hunknown | ⟨ha, hpolicy⟩)
    · rw [answer?_eq_none_iff.mpr hunknown]
      rfl
    · rw [ha]
      refine fault?_onError_eq_some_iff.mpr ⟨rfl, ?_⟩
      split
      · next he => exact hpolicy he
      · rfl

/-- Without a fault a strict build makes the same of a token as a lenient one. -/
theorem resolve_lenient_of_strict {policy : PatternPolicy} {t : Token}
    (h : (r.resolve ⟨true, policy⟩ field numericField t).fault? = none) :
    r.resolve ⟨false, policy⟩ field numericField t =
      r.resolve ⟨true, policy⟩ field numericField t := by
  rw [resolve_eq_of_answer] at h ⊢
  rw [resolve_eq_of_answer]
  cases ha : r.answer? field numericField t with
  | none => simp [ha, Resolution.fault?] at h
  | some answer =>
    cases answer with
    | ok p => rfl
    | error e =>
      cases he : e.isInvalidPattern with
      | false => simp [ha, onError, he, Resolution.fault?] at h
      | true => simp [onError, he]

/-- Without a fault it does not matter what becomes of patterns that cannot be read. -/
theorem resolve_message_of_propagate {strict : Bool} {t : Token}
    (h : (r.resolve ⟨strict, .propagate⟩ field numericField t).fault? = none) :
    r.resolve ⟨strict, .message⟩ field numericField t =
      r.resolve ⟨strict, .propagate⟩ field numericField t := by
  rw [resolve_eq_of_answer] at h ⊢
  rw [resolve_eq_of_answer]
  cases ha : r.answer? field numericField t with
  | none => rfl
  | some answer =>
    cases answer with
    | ok p => rfl
    | error e =>
      cases he : e.isInvalidPattern with
      | false => simp [onError, he]
      | true => simp [ha, onError, he, Resolution.fault?] at h

/-! ### Builds under each setting -/

theorem build_eq_error_iff {settings : Settings} {spec : FieldSpec} {e : SpecError} :
    (r.build settings field spec).result = .error e ↔
      firstFault? (r.resolve settings field spec.isNumeric) spec.tokens = some e := by
  rw [result_build]
  cases firstFault? (r.resolve settings field spec.isNumeric) spec.tokens <;> simp [orFault]

/-- A build that succeeds has no fault, and its predicates are what the declarations contribute. -/
theorem build_eq_ok_iff {settings : Settings} {spec : FieldSpec} {built : BuiltField} :
    (r.build settings field spec).result = .ok built ↔
      (∀ t ∈ spec.tokens, (r.resolve settings field spec.isNumeric t).fault? = none) ∧
      built = ⟨spec.parts.filterMap (Part.predicate? (r.resolve settings field spec.isNumeric)),
        spec.isNullable⟩ := by
  rw [result_build_parts, ← List.findSome?_eq_none_iff]
  change _ ↔ firstFault? _ _ = none ∧ _
  cases firstFault? (r.resolve settings field spec.isNumeric) spec.tokens <;>
    simp [orFault, eq_comm]

/-- A strict build that succeeds is the lenient one. -/
theorem build_lenient_of_strict {policy : PatternPolicy} {spec : FieldSpec} {built : BuiltField}
    (h : (r.build ⟨true, policy⟩ field spec).result = .ok built) :
    (r.build ⟨false, policy⟩ field spec).result = .ok built := by
  have hfault := (build_eq_ok_iff.mp h).1
  have hsame : r.build ⟨false, policy⟩ field spec = r.build ⟨true, policy⟩ field spec :=
    build_congr fun t ht => resolve_lenient_of_strict (hfault t ht)
  exact (congrArg Traced.result hsame).trans h

/-- A build that succeeds without stand-ins is the one with them. -/
theorem build_message_of_propagate {strict : Bool} {spec : FieldSpec} {built : BuiltField}
    (h : (r.build ⟨strict, .propagate⟩ field spec).result = .ok built) :
    (r.build ⟨strict, .message⟩ field spec).result = .ok built := by
  have hfault := (build_eq_ok_iff.mp h).1
  have hsame : r.build ⟨strict, .message⟩ field spec = r.build ⟨strict, .propagate⟩ field spec :=
    build_congr fun t ht => resolve_message_of_propagate (hfault t ht)
  exact (congrArg Traced.result hsame).trans h

/-- A pattern that cannot be read is replaced, where it is not to be propagated. -/
theorem predicate?_of_badPattern {strict : Bool} {t : Token} {e : SpecError}
    (h : r.BadPattern field numericField t e) :
    Part.predicate? (r.resolve ⟨strict, .message⟩ field numericField) (.token t) =
      some Check.unusablePattern := by
  obtain ⟨ha, he⟩ := h
  rw [Part.predicate?, resolve_eq_of_answer, ha]
  simp [onError, he, Resolution.predicate?]

end Registry

/-- What stands in for a pattern lets `null` pass and fails every other value. -/
theorem Check.check_unusablePattern (record : Record) :
    unusablePattern.check .null record = none ∧
      ∀ v, v ≠ .null → unusablePattern.check v record = some "Invalid format." := by
  refine ⟨rfl, fun v hv => ?_⟩
  cases v with
  | null => exact absurd rfl hv
  | bool _ | number _ | text _ | list _ | object _ => rfl

/-- How the settings of a build relate. Lenient with stand-ins, it succeeds. Lenient without, it
fails with the first pattern that cannot be read and with nothing else. Strict, it fails with the
first token that it cannot use. A strict build that succeeds is the lenient one, and a build that
succeeds without stand-ins is the one with them; with them, each pattern that cannot be read is
replaced in its place by a predicate that only `null` passes. -/
theorem build_by_settings (r : Registry) (field : String) (spec : FieldSpec) :
    let build := fun settings => (r.build settings field spec).result
    let bad := r.BadPattern field spec.isNumeric
    let unusable := r.Unusable field spec.isNumeric
    (∃ built, build ⟨false, .message⟩ = .ok built) ∧
    (((∃ e, build ⟨false, .propagate⟩ = .error e) ↔ ∃ t ∈ spec.tokens, ∃ e, bad t e) ∧
      ∀ e, build ⟨false, .propagate⟩ = .error e ↔ FirstOf bad spec.tokens e) ∧
    (∀ policy,
      ((∃ e, build ⟨true, policy⟩ = .error e) ↔ ∃ t ∈ spec.tokens, ∃ e, unusable policy t e) ∧
      ∀ e, build ⟨true, policy⟩ = .error e ↔ FirstOf (unusable policy) spec.tokens e) ∧
    (∀ policy built, build ⟨true, policy⟩ = .ok built → build ⟨false, policy⟩ = .ok built) ∧
    (∀ strict built,
      build ⟨strict, .propagate⟩ = .ok built → build ⟨strict, .message⟩ = .ok built) ∧
    (∀ strict built, build ⟨strict, .message⟩ = .ok built →
      let contributed :=
        List.filterMap (Part.predicate? (r.resolve ⟨strict, .message⟩ field spec.isNumeric))
      ∀ before t after e, spec.parts = before ++ .token t :: after → bad t e →
        ∃ p, built.predicates = contributed before ++ p :: contributed after ∧
          ∀ record, p.check .null record = none ∧
            ∀ v, v ≠ .null → p.check v record = some "Invalid format.") := by
  intro build bad unusable
  have herror : ∀ settings e, build settings = .error e ↔
      firstFault? (r.resolve settings field spec.isNumeric) spec.tokens = some e :=
    fun settings e => Registry.build_eq_error_iff
  refine ⟨?_, ⟨?_, ?_⟩, ?_, ?_, ?_, ?_⟩
  · exact ⟨_, Registry.build_eq_ok_iff.mpr ⟨fun t _ => Registry.fault?_lenient_message t, rfl⟩⟩
  · simp only [herror]
    exact exists_findSome?_iff Registry.fault?_lenient_propagate
  · intro e
    rw [herror]
    exact findSome?_eq_some_iff_firstOf Registry.fault?_lenient_propagate
  · intro policy
    simp only [herror]
    exact ⟨exists_findSome?_iff (Registry.fault?_strict policy),
      fun e => findSome?_eq_some_iff_firstOf (Registry.fault?_strict policy)⟩
  · exact fun _ _ h => Registry.build_lenient_of_strict h
  · exact fun _ _ h => Registry.build_message_of_propagate h
  · intro strict built h contributed before t after e hparts hbad
    obtain ⟨-, rfl⟩ := Registry.build_eq_ok_iff.mp h
    refine ⟨Check.unusablePattern, ?_, Check.check_unusablePattern⟩
    change spec.parts.filterMap _ = _
    rw [hparts, List.filterMap_append, List.filterMap_cons, Registry.predicate?_of_badPattern hbad]

/-- A field whose strict build succeeds, and one with a pattern that cannot be read before a literal
predicate and another rule. -/
theorem builds_of_code :
    let r := Registry.builtin
    let good : FieldSpec := .rules "required|min:3|in:a,b"
    let broken : FieldSpec :=
      .list [.rules "required|regex:([a-z]", .predicate (.pass "seen"), .rules "max:3"]
    let bad : Token := ⟨"regex", ["([a-z]"]⟩
    (∃ built, (r.build ⟨true, .propagate⟩ "code" good).result = .ok built ∧
      (r.build ⟨false, .propagate⟩ "code" good).result = .ok built ∧
      (r.build ⟨true, .message⟩ "code" good).result = .ok built) ∧
    ∃ built, (r.build ⟨true, .message⟩ "code" broken).result = .ok built ∧
      broken.parts = [.token ⟨"required", []⟩] ++
        .token bad :: [.literal (.pass "seen"), .token ⟨"max", ["3"]⟩] ∧
      r.BadPattern "code" broken.isNumeric bad (.invalidPattern "code" "([a-z]") ∧
      ∃ before p after, built.predicates = before ++ p :: after ∧
        before.map Predicate.name = ["required"] ∧ after.map Predicate.name = ["seen", "max"] ∧
        p.check .null .empty = none ∧ p.check (.text "abc") .empty = some "Invalid format." := by
  intro r good broken bad
  have hgood : ∀ t ∈ good.tokens,
      (r.resolve ⟨true, .propagate⟩ "code" good.isNumeric t).fault? = none := by decide +kernel
  have hbroken : ∀ t ∈ broken.tokens,
      (r.resolve ⟨true, .message⟩ "code" broken.isNumeric t).fault? = none := by decide +kernel
  have hbuilt := Registry.build_eq_ok_iff.mpr ⟨hgood, rfl⟩
  have hreplaced := Registry.build_eq_ok_iff.mpr ⟨hbroken, rfl⟩
  have hbad : r.BadPattern "code" broken.isNumeric bad (.invalidPattern "code" "([a-z]") :=
    (Registry.fault?_lenient_propagate bad _).mp (by decide +kernel)
  have hparts : broken.parts = [.token ⟨"required", []⟩] ++
      .token bad :: [.literal (.pass "seen"), .token ⟨"max", ["3"]⟩] := by
    have h1 : Token.ofText "required|regex:([a-z]" = [⟨"required", []⟩, bad] := by decide
    have h2 : Token.ofText "max:3" = [⟨"max", ["3"]⟩] := by decide
    simp [broken, FieldSpec.parts, SpecItem.parts, h1, h2]
  obtain ⟨-, -, -, hstrict, hmessage, -⟩ := build_by_settings r "code" good
  obtain ⟨-, -, -, -, -, hposition⟩ := build_by_settings r "code" broken
  obtain ⟨p, hpredicates, hp⟩ := hposition true _ hreplaced _ bad _ _ hparts hbad
  exact ⟨⟨_, hbuilt, hstrict _ _ hbuilt, hmessage _ _ hbuilt⟩, _, hreplaced, hparts, hbad,
    _, p, _, hpredicates, by decide +kernel, by decide +kernel, (hp .empty).1,
    (hp .empty).2 (.text "abc") (by simp)⟩

end FieldRules
