import FieldRules.Proofs.Agreement
import FieldRules.Proofs.Concatenation
import FieldRules.Proofs.EmptyValues
import FieldRules.Proofs.NumericText
import FieldRules.Proofs.Order
import FieldRules.Proofs.PatternArguments
/-!
What the mark of a numeric field does. It only bears on text that writes a number: every rule of the
catalog judges all other values the same on a marked field and on one without a mark. So a mark that
is added to a specification adds its own predicate and changes nothing about the others
(`numeric_mark_concerns_numeric_text`).
-/

namespace FieldRules

/-! ### Rules on fields with and without the mark -/

/-- The predicates have one name and say the same of the value in every record. -/
def Predicate.JudgeAlike (v : Value) (p q : Predicate) : Prop := p.name = q.name ∧ p.AgreeAt v q

theorem Predicate.judgeAlike_refl (v : Value) (p : Predicate) : p.JudgeAlike v p :=
  ⟨rfl, fun _ => rfl⟩

/-- Binding fails with the same error, or gives related predicates. -/
inductive SameOutcome (R : Predicate → Predicate → Prop) :
    Except SpecError Predicate → Except SpecError Predicate → Prop
  | error (e : SpecError) : SameOutcome R (.error e) (.error e)
  | ok {p q : Predicate} : R p q → SameOutcome R (.ok p) (.ok q)

namespace SameOutcome

variable {R : Predicate → Predicate → Prop}

theorem refl (hR : ∀ p, R p p) : ∀ x : Except SpecError Predicate, SameOutcome R x x
  | .error e => .error e
  | .ok p => .ok (hR p)

theorem bind {α : Type} {f g : α → Except SpecError Predicate}
    (h : ∀ a, SameOutcome R (f a) (g a)) : ∀ x : Except SpecError α, SameOutcome R (x >>= f) (x >>= g)
  | .error e => .error e
  | .ok a => h a

end SameOutcome

section Plain

variable {v : Value} (hv : ∀ s, v = .text s → Binary64.ofText? s = none)
include hv

/-- The rules about size measure by the mark; no other rule looks at it. -/
theorem Rule.sameOutcome_factory (rule : Rule) (field : String) (t : Token) (marked marked' : Bool) :
    SameOutcome (Predicate.JudgeAlike v) (rule.factory (Registry.inputOf field marked t))
      (rule.factory (Registry.inputOf field marked' t)) := by
  have hmeasure := Check.measure_of_plain hv marked marked'
  cases rule with
  | min | max | size =>
    refine SameOutcome.bind (fun bound => .ok ⟨rfl, fun record => ?_⟩)
      ((Registry.inputOf field marked t).number 0)
    simp only [Registry.inputOf, hmeasure]
  | _ => exact SameOutcome.refl (Predicate.judgeAlike_refl v) _

/-- What becomes of a token does not depend on the mark. -/
theorem Registry.alike_resolve (settings : Settings) (field : String) (t : Token)
    (marked marked' : Bool) : (builtin.resolve settings field marked t).Alike
      (Predicate.JudgeAlike v) (builtin.resolve settings field marked' t) := by
  rw [resolve, resolve, factory?_builtin]
  cases Rule.ofText? t.name with
  | none => exact .refl (Predicate.judgeAlike_refl v) _
  | some rule =>
    have hrule := rule.sameOutcome_factory hv field t marked marked'
    simp only [Option.map_some]
    generalize rule.factory (inputOf field marked t) = x at hrule ⊢
    generalize rule.factory (inputOf field marked' t) = y at hrule ⊢
    cases hrule with
    | error e => exact .refl (Predicate.judgeAlike_refl v) _
    | ok h => exact .kept h

theorem Registry.forall₂_judgeAlike (settings : Settings) (field : String) (parts : List Part)
    (marked marked' : Bool) : List.Forall₂ (Predicate.JudgeAlike v)
      (parts.filterMap (Part.predicate? (builtin.resolve settings field marked)))
      (parts.filterMap (Part.predicate? (builtin.resolve settings field marked'))) := by
  refine Part.forall₂_predicate?_of_alike (List.forall₂_same.mpr fun part _ => ?_)
  cases part with
  | token t => exact .token (alike_resolve hv settings field t marked marked')
  | literal p => exact .literal (p.judgeAlike_refl v)

end Plain

/-! ### Specifications with the mark added -/

/-- A rule that marks the field always binds to one predicate, and empty values pass it. -/
theorem Registry.exists_resolve_mark {mark : Rule} (hmark : mark = .numeric ∨ mark = .integer) :
    ∃ p : Predicate, p.name = mark.text ∧
      (∀ v record, v.isEmpty = true → p.check v record = none) ∧
      ∀ settings field marked args,
        builtin.resolve settings field marked ⟨mark.text, args⟩ = .kept p := by
  rcases hmark with rfl | rfl
  · refine ⟨_, rfl, fun v record hv => ?_, fun settings field marked args => resolve_eq_kept rfl⟩
    simp [Predicate.ofTest, hv]
  · refine ⟨_, rfl, fun v record hv => ?_, fun settings field marked args => resolve_eq_kept rfl⟩
    simp [Predicate.ofTest, hv]

/-- A field with one predicate that empty values pass does not need the mark for these. -/
theorem BuiltField.evaluate_singleton {p : Predicate} {v : Value} {record : Record}
    (h : v.isEmpty = true → p.check v record = none) (nullable : Bool) :
    BuiltField.evaluate ⟨[p], nullable⟩ v record = p.check v record := by
  rw [evaluate, skips]
  split
  · next hskips => exact (h (Bool.and_eq_true_iff.mp hskips).2).symm
  · cases hcheck : p.check v record <;> simp [firstFailure, hcheck]

/-- Behind predicates that agree with others, such a predicate shows its message where these pass. -/
theorem BuiltField.evaluate_append_singleton {ps ps' : List Predicate} {p : Predicate} {v : Value}
    {record : Record} (hps : List.Forall₂ (Predicate.AgreeAt v) ps ps')
    (h : v.isEmpty = true → p.check v record = none) (nullable : Bool) :
    BuiltField.evaluate ⟨ps' ++ [p], nullable⟩ v record =
      (BuiltField.evaluate ⟨ps, nullable⟩ v record <|> p.check v record) := by
  have hsame := evaluate_of_forall₂ (b := ⟨ps, nullable⟩) (c := ⟨ps', nullable⟩) hps record rfl
  have hlast := evaluate_append ⟨ps', nullable⟩ [p] v record
  rw [← hsame, evaluate_singleton h] at hlast
  exact hlast

section Added

variable {settings : Settings} {field : String} {mark : Rule}
  (hmark : mark = .numeric ∨ mark = .integer) {v : Value}
  (hv : ∀ s, v = .text s → Binary64.ofText? s = none)
  {bare marked : FieldSpec} {before after : List Part} {args : List String}
  (hbare : bare.parts = before ++ after)
  (hmarked : marked.parts = before ++ .token ⟨mark.text, args⟩ :: after)

include hmark hbare hmarked

theorem isNullable_of_mark : marked.isNullable = bare.isNullable := by
  have hnames : Part.names .nullable (.token ⟨mark.text, args⟩) = false := by
    rcases hmark with rfl | rfl <;> rfl
  simp only [FieldSpec.isNullable, FieldSpec.declares_eq_any_parts, hbare, hmarked, List.any_append,
    List.any_cons, hnames, Bool.false_or]

include hv

/-- The mark makes no build fail and none succeed. -/
theorem exists_build_of_mark :
    (∃ built, (Registry.builtin.build settings field bare).result = .ok built) ↔
      ∃ built, (Registry.builtin.build settings field marked).result = .ok built := by
  obtain ⟨p, -, -, hkept⟩ := Registry.exists_resolve_mark hmark
  have hfault : ∀ t, (Registry.builtin.resolve settings field bare.isNumeric t).fault? =
      (Registry.builtin.resolve settings field marked.isNumeric t).fault? :=
    fun t => (Registry.alike_resolve hv settings field t _ _).fault
  simp only [Registry.exists_build_iff, FieldSpec.mem_tokens_iff, hbare, hmarked, List.mem_append,
    List.mem_cons, Part.token.injEq, hfault]
  constructor
  · rintro h t (ht | rfl | ht)
    · exact h t (.inl ht)
    · rw [hkept]
      rfl
    · exact h t (.inr ht)
  · rintro h t (ht | ht)
    · exact h t (.inl ht)
    · exact h t (.inr (.inr ht))

end Added

/-- The predicate of the mark stands in its place among those of the other declarations. -/
theorem filterMap_predicate?_of_mark {resolve : Token → Resolution} {t : Token} {p : Predicate}
    (hkept : resolve t = .kept p) (before after : List Part) :
    (before ++ .token t :: after).filterMap (Part.predicate? resolve) =
      before.filterMap (Part.predicate? resolve) ++
        p :: after.filterMap (Part.predicate? resolve) := by
  have hpart : Part.predicate? resolve (.token t) = some p := by
    rw [Part.predicate?, hkept]
    rfl
  rw [List.filterMap_append, List.filterMap_cons_some hpart]

/-- A mark behind a rule string has the last word. -/
theorem Engine.result_evaluateField_bar_mark {settings : Settings} {field : String} {mark : Rule}
    (hmark : mark = .numeric ∨ mark = .integer) {v : Value}
    (hv : ∀ s, v = .text s → Binary64.ofText? s = none) {text : String}
    (hbuild : ∃ built, (Registry.builtin.build settings field (.rules text)).result = .ok built)
    (record : Record) :
    let evaluate := fun text =>
      ((Engine.mk .builtin settings).evaluateField field v record (some (.rules text))).result
    ∃ x y, evaluate text = .ok x ∧ evaluate mark.text = .ok y ∧
      evaluate (text ++ "|" ++ mark.text) = .ok (x <|> y) := by
  intro evaluate
  obtain ⟨p, -, hempty, hkept⟩ := Registry.exists_resolve_mark hmark
  have htoken : Token.ofText mark.text = [⟨mark.text, []⟩] := by
    rcases hmark with rfl | rfl <;> decide
  have hnullable : mark.text ≠ Rule.nullable.text := by rcases hmark with rfl | rfl <;> decide
  have halone : (Registry.builtin.build settings field (.rules mark.text)).result =
      .ok ⟨[p], false⟩ := by
    rw [Registry.result_build_of_token settings field htoken hnullable, hkept]
    rfl
  have hbare : (FieldSpec.rules text).parts = (FieldSpec.rules text).parts ++ [] :=
    (List.append_nil _).symm
  have hmarked : (FieldSpec.rules (text ++ "|" ++ mark.text)).parts =
      (FieldSpec.rules text).parts ++ .token ⟨mark.text, []⟩ :: [] := by
    rw [FieldSpec.parts_bar, FieldSpec.parts, FieldSpec.parts, htoken]
    rfl
  have hevaluate : ∀ {text built},
      (Registry.builtin.build settings field (.rules text)).result = .ok built →
      evaluate text = .ok (built.evaluate v record) := by
    intro text built h
    have hresult := result_evaluateField (.mk .builtin settings) field v record (.rules text)
    rwa [Engine.build, h] at hresult
  obtain ⟨m, hm⟩ := (exists_build_of_mark hmark hv hbare hmarked).mp hbuild
  obtain ⟨b, hb⟩ := hbuild
  refine ⟨_, _, hevaluate hb, hevaluate halone, (hevaluate hm).trans (congrArg Except.ok ?_)⟩
  obtain ⟨-, rfl⟩ := Registry.build_eq_ok_iff.mp hb
  obtain ⟨-, rfl⟩ := Registry.build_eq_ok_iff.mp hm
  rw [hmarked, filterMap_predicate?_of_mark (hkept _ _ _ _), isNullable_of_mark hmark hbare hmarked]
  have hothers := Registry.forall₂_judgeAlike hv settings field (FieldSpec.rules text).parts
    (FieldSpec.rules text).isNumeric (FieldSpec.rules (text ++ "|" ++ mark.text)).isNumeric
  rw [BuiltField.evaluate_singleton (hempty v record)]
  exact BuiltField.evaluate_append_singleton (hothers.imp fun _ _ h => h.2) (hempty v record) _

/-- On a value that is not text that writes a number, with the catalog: a rule string and a mark
behind it give the message of the rule string, or else the result of the mark alone. Wherever a mark
is added to a specification, this builds as before, with the predicate of the mark in its place, and
every other predicate judges the value as it did. -/
theorem numeric_mark_concerns_numeric_text (settings : Settings) (field : String) {mark : Rule}
    (hmark : mark = .numeric ∨ mark = .integer) {v : Value}
    (hv : ∀ s, v = .text s → Binary64.ofText? s = none) :
    let e : Engine := ⟨.builtin, settings⟩
    let build := fun spec => (e.build field spec).result
    let evaluate := fun text record => (e.evaluateField field v record (some (.rules text))).result
    (∀ text record, (∃ built, build (.rules text) = .ok built) →
      ∃ x y, evaluate text record = .ok x ∧ evaluate mark.text record = .ok y ∧
        evaluate (text ++ "|" ++ mark.text) record = .ok (x <|> y)) ∧
    ∀ (bare marked : FieldSpec) (before after : List Part) (args : List String),
      bare.parts = before ++ after → marked.parts = before ++ .token ⟨mark.text, args⟩ :: after →
      ((∃ built, build bare = .ok built) ↔ ∃ built, build marked = .ok built) ∧
      ∀ b m, build bare = .ok b → build marked = .ok m → m.nullable = b.nullable ∧
        ∃ ps qs ps' p qs', b.predicates = ps ++ qs ∧ m.predicates = ps' ++ p :: qs' ∧
          p.name = mark.text ∧ List.Forall₂ (Predicate.JudgeAlike v) ps ps' ∧
          List.Forall₂ (Predicate.JudgeAlike v) qs qs' := by
  intro e build evaluate
  refine ⟨fun text record hbuild => Engine.result_evaluateField_bar_mark hmark hv hbuild record, ?_⟩
  intro bare marked before after args hbare hmarked
  refine ⟨exists_build_of_mark hmark hv hbare hmarked, fun b m hb hm => ?_⟩
  obtain ⟨p, hname, -, hkept⟩ := Registry.exists_resolve_mark hmark
  obtain ⟨-, rfl⟩ := Registry.build_eq_ok_iff.mp hb
  obtain ⟨-, rfl⟩ := Registry.build_eq_ok_iff.mp hm
  refine ⟨isNullable_of_mark hmark hbare hmarked, _, _, _, p, _, ?_, ?_, hname,
    Registry.forall₂_judgeAlike hv settings field before bare.isNumeric marked.isNumeric,
    Registry.forall₂_judgeAlike hv settings field after bare.isNumeric marked.isNumeric⟩
  · rw [hbare, List.filterMap_append]
  · rw [hmarked]
    exact filterMap_predicate?_of_mark (hkept _ _ _ _) before after

/-- A list of three items on a field whose bounds stand before the mark: it is measured by its length
with the mark and without it, and then is no integer. -/
theorem numeric_mark_concerns_no_list :
    let e : Engine := ⟨.builtin, {}⟩
    let v : Value := .list [.text "1", .null, .text "2"]
    let build := fun spec => (e.build "tags" spec).result
    let evaluate := fun text => (e.evaluateField "tags" v .empty (some (.rules text))).result
    let seen : SpecItem := .predicate (.pass "seen")
    let bare : FieldSpec := .list [.rules "required|min:3", seen, .rules "size:2|max:x"]
    let marked : FieldSpec := .list [.rules "required|min:3", .rules "integer:yes", seen,
      .rules "size:2|max:x"]
    (∀ s, v = .text s → Binary64.ofText? s = none) ∧
    ((∃ built, build (.rules "nullable|between:3,4|min:x") = .ok built) ∧
      evaluate "nullable|between:3,4|min:x" = .ok none ∧
      evaluate "nullable|between:3,4|min:x|integer" = .ok (some "The field must be an integer.")) ∧
    ∃ b m, build bare = .ok b ∧ build marked = .ok m ∧ m.nullable = b.nullable ∧
      ∃ ps qs ps' p qs', b.predicates = ps ++ qs ∧ m.predicates = ps' ++ p :: qs' ∧
        p.name = "integer" ∧ List.Forall₂ (Predicate.JudgeAlike v) ps ps' ∧
        List.Forall₂ (Predicate.JudgeAlike v) qs qs' := by
  intro e v build evaluate seen bare marked
  have hv : ∀ s, v = .text s → Binary64.ofText? s = none := nofun
  obtain ⟨hbehind, hadded⟩ := numeric_mark_concerns_numeric_text {} "tags" (.inr rfl) hv
  have hbuild : ∃ built, build (.rules "nullable|between:3,4|min:x") = .ok built :=
    ⟨_, Registry.build_eq_ok_iff.mpr ⟨by decide +kernel, rfl⟩⟩
  have hpasses : evaluate "nullable|between:3,4|min:x" = .ok none := by decide +kernel
  have halone : evaluate "integer" = .ok (some "The field must be an integer.") := by
    decide +kernel
  obtain ⟨x, y, hx, hy, hxy⟩ := hbehind _ .empty hbuild
  cases hpasses.symm.trans hx
  cases halone.symm.trans hy
  have h1 : Token.ofText "required|min:3" = [⟨"required", []⟩, ⟨"min", ["3"]⟩] := by decide
  have h2 : Token.ofText "size:2|max:x" = [⟨"size", ["2"]⟩, ⟨"max", ["x"]⟩] := by decide
  have h3 : Token.ofText "integer:yes" = [⟨"integer", ["yes"]⟩] := by decide
  have hb : build bare = .ok _ := Registry.build_eq_ok_iff.mpr ⟨by decide +kernel, rfl⟩
  obtain ⟨hbuilds, hjudge⟩ := hadded bare marked [.token ⟨"required", []⟩, .token ⟨"min", ["3"]⟩]
    [.literal (.pass "seen"), .token ⟨"size", ["2"]⟩, .token ⟨"max", ["x"]⟩] ["yes"]
    (by simp [bare, seen, FieldSpec.parts, SpecItem.parts, h1, h2])
    (by simp [marked, seen, FieldSpec.parts, SpecItem.parts, h1, h2, h3, Rule.text])
  obtain ⟨m, hm⟩ := hbuilds.mp ⟨_, hb⟩
  exact ⟨hv, ⟨hbuild, hpasses, hxy⟩, _, m, hb, hm, hjudge _ m hb hm⟩

end FieldRules
