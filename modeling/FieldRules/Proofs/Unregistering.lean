import Mathlib.Data.Set.Basic
import FieldRules.Check.Catalog
import FieldRules.Proofs.Policies
import FieldRules.Proofs.ReadSets
/-!
Rules taken out of the catalog. The marks of a field are read off its tokens and not off the registry,
so a lenient build without some rules is the build with all of them, less what the tokens of those
rules contributed (`unregistering_filters_predicates`).
-/

namespace FieldRules

/-! ### Registries without some names -/

namespace Registry

/-- Unregisters names one after another. -/
def unregister (r : Registry) (names : List String) : Registry := names.foldl Table.erase r

variable (X : Set String) [DecidablePred (· ∈ X)]

/-- The entries whose names are not in a set. -/
def without (r : Registry) : Registry :=
  ⟨r.entries.filter (·.1 ∉ X), (List.Sublist.map Prod.fst List.filter_sublist).nodup r.nodup⟩

/-- The name needs no registry, or it is not taken out. -/
def Survives (name : String) : Prop := name ∉ X ∨ name = "in" ∨ name = "not_in"

instance : DecidablePred (Survives X) := fun name =>
  inferInstanceAs (Decidable (name ∉ X ∨ name = "in" ∨ name = "not_in"))

variable {X}

theorem find?_without (r : Registry) (name : String) :
    (r.without X).find? name = if name ∈ X then none else r.find? name := by
  refine (Table.lookup_filter (fun n => decide (n ∉ X)) name r.entries).trans ?_
  by_cases h : name ∈ X <;> simp [h, Table.find?]

theorem entries_unregister : ∀ (names : List String) (r : Registry),
    (r.unregister names).entries = r.entries.filter (·.1 ∉ names)
  | [], r => by simp [unregister]
  | name :: names, r => by
    have ih := entries_unregister names (r.erase name)
    rw [unregister, List.foldl_cons]
    refine ih.trans ?_
    rw [Table.erase, List.filter_filter]
    refine List.filter_congr fun entry _ => ?_
    simp [Bool.and_comm]

/-- Taking names out one after another, in any order and any number of times, leaves the registry
without them. -/
theorem unregister_eq_without (r : Registry) {names : List String}
    (h : ∀ name, name ∈ names ↔ name ∈ X) : r.unregister names = r.without X := by
  refine Table.eq_of_entries_eq ((entries_unregister names r).trans ?_)
  exact List.filter_congr fun entry _ => by simp only [h]

/-- Without some names the catalog still has the factories of all others, and of those names the ones
that are always known. -/
theorem factory?_builtin_without (name : String) :
    (builtin.without X).factory? name = if Survives X name then builtin.factory? name else none := by
  rw [factory?, find?_without]
  by_cases hX : name ∈ X
  · rw [if_pos hX]
    change alwaysKnown? name = _
    by_cases hname : name = "in" ∨ name = "not_in"
    · have hs : Survives X name := Or.inr hname
      rw [if_pos hs]
      rcases hname with rfl | rfl <;> rfl
    · have hs : ¬ Survives X name := fun hs => hs.elim (absurd hX) hname
      rw [if_neg hs, ← Option.not_isSome_iff_eq_none, alwaysKnown?_isSome_iff]
      exact hname
  · have hs : Survives X name := Or.inl hX
    rw [if_neg hX, if_pos hs, factory?]

/-- A lenient build without some names does not know their tokens and treats all others alike. -/
theorem resolve_builtin_without (policy : PatternPolicy) (field : String) (numericField : Bool)
    (t : Token) :
    (builtin.without X).resolve ⟨false, policy⟩ field numericField t =
      if Survives X t.name then builtin.resolve ⟨false, policy⟩ field numericField t
      else .unknown := by
  rw [resolve, factory?_builtin_without]
  by_cases hs : Survives X t.name
  · rw [if_pos hs, if_pos hs, resolve]
  · rw [if_neg hs, if_neg hs]
    rfl

end Registry

/-- A literal predicate, or a token whose rule survives. -/
def Part.Survives (X : Set String) : Part → Prop
  | token t => Registry.Survives X t.name
  | literal _ => True

instance (X : Set String) [DecidablePred (· ∈ X)] : DecidablePred (Part.Survives X)
  | .token t => inferInstanceAs (Decidable (Registry.Survives X t.name))
  | .literal _ => isTrue trivial

section Survivors

variable {X : Set String} [DecidablePred (· ∈ X)] {policy : PatternPolicy} {field : String}
  {numericField : Bool}

theorem predicate?_builtin_without (part : Part) :
    part.predicate? ((Registry.builtin.without X).resolve ⟨false, policy⟩ field numericField) =
      if part.Survives X then
        part.predicate? (Registry.builtin.resolve ⟨false, policy⟩ field numericField)
      else none := by
  cases part with
  | literal p => rfl
  | token t =>
    simp only [Part.predicate?, Registry.resolve_builtin_without]
    by_cases hs : Registry.Survives X t.name
    · have hpart : Part.Survives X (.token t) := hs
      rw [if_pos hs, if_pos hpart]
    · have hpart : ¬ Part.Survives X (.token t) := hs
      rw [if_neg hs, if_neg hpart]
      rfl

/-- What is contributed without some rules is what the surviving declarations contribute with all. -/
theorem filterMap_predicate?_without (parts : List Part) :
    parts.filterMap (Part.predicate?
        ((Registry.builtin.without X).resolve ⟨false, policy⟩ field numericField)) =
      (parts.filter (·.Survives X)).filterMap
        (Part.predicate? (Registry.builtin.resolve ⟨false, policy⟩ field numericField)) := by
  rw [List.filterMap_filter]
  refine List.filterMap_congr fun part _ => ?_
  simp only [predicate?_builtin_without, decide_eq_true_eq]

/-- What the factory of a surviving token's rule binds stays among the predicates. -/
theorem mem_of_survives {spec : FieldSpec} {t : Token} {rule : Rule} {p : Predicate}
    (ht : t ∈ spec.tokens) (hsurvives : Registry.Survives X t.name) (hrule : t.rule? = some rule)
    (hp : rule.factory (Registry.inputOf field numericField t) = .ok p) :
    p ∈ (spec.parts.filter (·.Survives X)).filterMap
      (Part.predicate? (Registry.builtin.resolve ⟨false, policy⟩ field numericField)) := by
  have hrule : Rule.ofText? t.name = some rule := hrule
  have hkept : Part.predicate? (Registry.builtin.resolve ⟨false, policy⟩ field numericField)
      (.token t) = some p := by
    simp [Part.predicate?, Registry.resolve, Registry.factory?_builtin, hrule, hp,
      Resolution.predicate?]
  refine List.mem_filterMap.mpr ⟨.token t, List.mem_filter.mpr ⟨?_, ?_⟩, hkept⟩
  · exact FieldSpec.mem_tokens_iff.mp ht
  · exact decide_eq_true hsurvives

end Survivors

/-! ### Marks -/

namespace FieldSpec

theorem isNullable_of_mem {spec : FieldSpec} {t : Token} (ht : t ∈ spec.tokens)
    (hname : t.name = "nullable") : spec.isNullable = true :=
  List.any_eq_true.mpr ⟨t, ht, by rw [hname]; rfl⟩

theorem isNumeric_of_mem {spec : FieldSpec} {t : Token} (ht : t ∈ spec.tokens)
    (hname : t.name = "numeric" ∨ t.name = "integer") : spec.isNumeric = true := by
  have hrule : ∃ rule, t.rule? = some rule ∧ rule.marksNumeric = true := by
    rw [Token.rule?]
    rcases hname with h | h <;> rw [h]
    · exact ⟨.numeric, Rule.ofText?_text .numeric, rfl⟩
    · exact ⟨.integer, Rule.ofText?_text .integer, rfl⟩
  obtain ⟨rule, hrule, hmarks⟩ := hrule
  exact List.any_eq_true.mpr ⟨rule, List.mem_filterMap.mpr ⟨t, ht, hrule⟩, hmarks⟩

end FieldSpec

namespace Rule

theorem text_of_alwaysKnown {rule : Rule} (h : rule.alwaysKnown = true) :
    rule.text = "in" ∨ rule.text = "not_in" := by
  cases rule with
  | oneOf => exact Or.inl rfl
  | noneOf => exact Or.inr rfl
  | _ => cases h

theorem exists_predicate_of_alwaysKnown {rule : Rule} (h : rule.alwaysKnown = true) (i : Input) :
    ∃ p, rule.factory i = .ok p := by
  cases rule with
  | oneOf | noneOf => exact ⟨_, rfl⟩
  | _ => cases h

/-- How the rules with one bound compare it with what they measure. -/
inductive Compares : Rule → (Int → Int → Prop) → Prop
  | min : Compares .min fun bound x => bound ≤ x
  | max : Compares .max fun bound x => x ≤ bound
  | size : Compares .size fun bound x => x = bound

/-- On a field that is marked as numeric these rules compare text that writes a number by value. -/
theorem Compares.by_value {rule : Rule} {holds : Int → Int → Prop} {i : Input}
    {bound : Binary64} (h : rule.Compares holds) (hi : i.numericField = true)
    (hbound : i.number 0 = .ok bound) :
    ∃ p, rule.factory i = .ok p ∧ ∀ s x record, Binary64.ofText? s = some x →
      (p.check (.text s) record = none ↔ holds bound.value x.value) := by
  cases h with
  | min =>
    refine ⟨_, by simp [Rule.factory, Check.min, hbound]; rfl, fun s x record hx => ?_⟩
    simp [Check.measure, hi, hx, Check.atLeast]
  | max =>
    refine ⟨_, by simp [Rule.factory, Check.max, hbound]; rfl, fun s x record hx => ?_⟩
    simp [Check.measure, hi, hx, Check.atMost]
  | size =>
    refine ⟨_, by simp [Rule.factory, Check.size, hbound]; rfl, fun s x record hx => ?_⟩
    simp [Check.measure, hi, hx]

end Rule

/-! ### Builds without some rules -/

/-- A lenient build with stand-ins, when the names of a set are taken out of the catalog, succeeds with
the predicates of the build with the whole catalog, less those of tokens whose names are taken out and
need a registry; the rest keep their order, and the field its mark for empty values. So the rules that
are always known stay, a token `nullable` still lets empty values skip all rules, and a token `numeric`
or `integer` still makes the rules with a bound compare numeric text by value. -/
theorem unregistering_filters_predicates (X : Set String) [DecidablePred (· ∈ X)] (field : String)
    (spec : FieldSpec) :
    let settings : Settings := ⟨false, .message⟩
    let r := Registry.builtin.without X
    let contributed := List.filterMap
      (Part.predicate? (Registry.builtin.resolve settings field spec.isNumeric))
    (∀ names : List String, (∀ name, name ∈ names ↔ name ∈ X) →
      Registry.builtin.unregister names = r) ∧
    ∃ full cut, (Registry.builtin.build settings field spec).result = .ok full ∧
      (r.build settings field spec).result = .ok cut ∧
      full.predicates = contributed spec.parts ∧
      cut.predicates = contributed (spec.parts.filter (·.Survives X)) ∧
      cut.nullable = full.nullable ∧
      (∀ t ∈ spec.tokens, ∀ rule, t.rule? = some rule → rule.alwaysKnown = true →
        ∃ p, rule.factory (Registry.inputOf field spec.isNumeric t) = .ok p ∧
          p ∈ cut.predicates) ∧
      (∀ t ∈ spec.tokens, t.name = "nullable" →
        ∀ v record, v.isEmpty = true → cut.evaluate v record = none) ∧
      (∀ mark ∈ spec.tokens, mark.name = "numeric" ∨ mark.name = "integer" →
        ∀ t ∈ spec.tokens, t.name ∉ X → ∀ rule holds, t.rule? = some rule → rule.Compares holds →
        ∀ bound, (Registry.inputOf field true t).number 0 = .ok bound →
        ∃ p, rule.factory (Registry.inputOf field true t) = .ok p ∧ p ∈ cut.predicates ∧
          ∀ s x record, Binary64.ofText? s = some x →
            (p.check (.text s) record = none ↔ holds bound.value x.value)) := by
  intro settings r contributed
  have hbuilds : ∀ registry : Registry, (registry.build settings field spec).result = .ok
      ⟨spec.parts.filterMap (Part.predicate? (registry.resolve settings field spec.isNumeric)),
        spec.isNullable⟩ :=
    fun registry => Registry.build_eq_ok_iff.mpr
      ⟨fun t _ => Registry.fault?_lenient_message t, rfl⟩
  have hcut : spec.parts.filterMap (Part.predicate? (r.resolve settings field spec.isNumeric)) =
      contributed (spec.parts.filter (·.Survives X)) := filterMap_predicate?_without spec.parts
  refine ⟨fun names h => Registry.unregister_eq_without _ h, _, _, hbuilds _, hbuilds r, rfl, hcut,
    rfl, ?_, ?_, ?_⟩
  · intro t ht rule hrule hknown
    have hname : t.name = "in" ∨ t.name = "not_in" :=
      Rule.text_of_ofText? hrule ▸ Rule.text_of_alwaysKnown hknown
    obtain ⟨p, hp⟩ := Rule.exists_predicate_of_alwaysKnown hknown
      (Registry.inputOf field spec.isNumeric t)
    refine ⟨p, hp, ?_⟩
    rw [hcut]
    exact mem_of_survives ht (Or.inr hname) hrule hp
  · intro t ht hname v record hempty
    have hskips : (FieldSpec.isNullable spec && v.isEmpty) = true := by
      rw [FieldSpec.isNullable_of_mem ht hname, hempty]
      rfl
    rw [BuiltField.evaluate, BuiltField.skips, if_pos hskips]
  · intro mark hmark hname t ht hX rule holds hrule hholds bound hbound
    have hnumeric := FieldSpec.isNumeric_of_mem hmark hname
    obtain ⟨p, hp, hvalue⟩ := hholds.by_value rfl hbound
    refine ⟨p, hp, ?_, hvalue⟩
    rw [hcut]
    exact mem_of_survives ht (Or.inl hX) hrule (hnumeric ▸ hp)

/-- An age without most of its rules: it may still be left blank, and seventeen as text still fails the
bound and the candidates. -/
theorem unregistering_of_age :
    let names := ["required", "nullable", "numeric", "in"]
    let X : Set String := {name | name ∈ names}
    let r := Registry.builtin.without X
    let settings : Settings := ⟨false, .message⟩
    let spec : FieldSpec := .rules "required|nullable|numeric|min:18|in:21,42"
    Registry.builtin.unregister names = r ∧
    ∃ full cut, (Registry.builtin.build settings "age" spec).result = .ok full ∧
      (r.build settings "age" spec).result = .ok cut ∧
      full.predicates.map Predicate.name = ["required", "nullable", "numeric", "min", "in"] ∧
      cut.predicates.map Predicate.name = ["min", "in"] ∧
      (∃ p, Check.oneOf (Registry.inputOf "age" spec.isNumeric ⟨"in", ["21", "42"]⟩) = .ok p ∧
        p ∈ cut.predicates) ∧
      cut.evaluate (.text " ") .empty = none ∧
      ∃ p ∈ cut.predicates, p.check (.text "17") .empty ≠ none := by
  intro names X r settings spec
  have hspec : spec.tokens = [⟨"required", []⟩, ⟨"nullable", []⟩, ⟨"numeric", []⟩,
      ⟨"min", ["18"]⟩, ⟨"in", ["21", "42"]⟩] := by decide
  have hless : (Binary64.ofText? "17").any (fun x =>
      (Binary64.ofText? "18").any fun bound => x.value < bound.value) = true := by decide +kernel
  obtain ⟨x, hx, hless⟩ := (Option.any_eq_true ..).mp hless
  obtain ⟨bound, hb, hless⟩ := (Option.any_eq_true ..).mp hless
  have hbound : (Registry.inputOf "age" true ⟨"min", ["18"]⟩).number 0 = .ok bound := by
    simp [Input.number, Registry.inputOf, Argument.coerce, hb, Argument.number?]
  obtain ⟨hunregister, full, cut, hfull, hcut, hall, hrest, -, hlists, hblank, hvalues⟩ :=
    unregistering_filters_predicates X "age" spec
  obtain ⟨p, -, hp, hvalue⟩ := hvalues ⟨"numeric", []⟩ (by simp [hspec]) (Or.inl rfl)
    ⟨"min", ["18"]⟩ (by simp [hspec]) (by simp [X, names]) .min _ (Rule.ofText?_text .min) .min
    bound hbound
  refine ⟨hunregister names fun name => Iff.rfl, full, cut, hfull, hcut, ?_, ?_, ?_, ?_, p, hp, ?_⟩
  · rw [hall]
    decide +kernel
  · rw [hrest]
    decide +kernel
  · exact hlists ⟨"in", ["21", "42"]⟩ (by simp [hspec]) .oneOf (Rule.ofText?_text .oneOf) rfl
  · exact hblank ⟨"nullable", []⟩ (by simp [hspec]) rfl (.text " ") .empty (by decide)
  · intro hpass
    have hle : bound.value ≤ x.value := (hvalue "17" x .empty hx).mp hpass
    exact absurd (of_decide_eq_true hless) (Int.not_lt.mpr hle)

end FieldRules
