import FieldRules.Proofs.Policies
import FieldRules.Proofs.ReadSets
import FieldRules.Proofs.SpecShapes
/-!
What the mark for empty values does. A field that names `nullable` anywhere lets every empty value
pass, whatever else is declared. For all other values the mark might as well not be there: with the
catalog, a specification gives the same result without the tokens that set it
(`nullable_concerns_empty_values`).
-/

namespace FieldRules

/-! ### Declarations of one rule -/

/-- The declaration is a token that names the rule. -/
def Part.names (rule : Rule) : Part → Bool
  | token t => t.name == rule.text
  | literal _ => false

/-- Every rule has a spelling of its own. -/
theorem Rule.text_injective {rule rule' : Rule} (h : rule.text = rule'.text) : rule = rule' := by
  have hrule := ofText?_text rule
  rw [h, ofText?_text] at hrule
  exact (Option.some.inj hrule).symm

theorem FieldSpec.declares_eq_any_parts (spec : FieldSpec) (rule : Rule) :
    spec.declares rule = spec.parts.any (Part.names rule) := by
  rw [declares, tokens_eq_parts, List.any_filterMap]
  refine congrArg (List.any spec.parts) (funext fun part => ?_)
  cases part <;> rfl

/-- A rule string without the segments that name the rule. -/
def Token.withoutRule (rule : Rule) (text : String) : String :=
  Text.joined "|" (((Text.split '|' text.toList).filter fun segment =>
    (ofChars segment).all fun t => !(t.name == rule.text)).map String.ofList)

def SpecItem.withoutRule (rule : Rule) : SpecItem → SpecItem
  | rules text => .rules (Token.withoutRule rule text)
  | predicate p => .predicate p

/-- A specification without the tokens that name the rule. -/
def FieldSpec.withoutRule (rule : Rule) : FieldSpec → FieldSpec
  | rules text => .rules (Token.withoutRule rule text)
  | list items => .list (items.map (SpecItem.withoutRule rule))

namespace Token

/-- A segment writes at most one token. -/
theorem ofChars_of_not_mem_bar {cs : List Char} (h : '|' ∉ cs) :
    ofChars cs = [] ∨ ∃ t, ofChars cs = [t] := by
  by_cases hblank : Text.trim cs = []
  · exact Or.inl (ofChars_of_allBlank (Text.trim_eq_nil_iff.mp hblank))
  · exact Or.inr ⟨_, ofChars_segment h hblank⟩

/-- The tokens of a text are those of its segments. -/
theorem ofChars_eq_flatMap_split (cs : List Char) :
    ofChars cs = (Text.split '|' cs).flatMap ofChars := by
  induction cs using Text.sepInduction '|' with
  | last a ha => rw [Text.split_of_not_mem ha, List.flatMap_singleton]
  | cut a b ha ih =>
    rw [ofChars_append_bar, Text.split_append_sep, List.flatMap_append, ← ih,
      Text.split_of_not_mem ha, List.flatMap_singleton]

/-- Segments are kept with their token or dropped with it. -/
theorem flatMap_ofText_filter (rule : Rule) : ∀ segments : List (List Char),
    (∀ segment ∈ segments, '|' ∉ segment) →
    (segments.filter fun segment => (ofChars segment).all fun t => !(t.name == rule.text)).flatMap
        ofChars =
      (segments.flatMap ofChars).filter fun t => !(t.name == rule.text)
  | [], _ => rfl
  | segment :: rest, h => by
    have ih := flatMap_ofText_filter rule rest fun s hs => h s (List.mem_cons_of_mem _ hs)
    rw [List.filter_cons, List.flatMap_cons, List.filter_append, ← ih]
    rcases ofChars_of_not_mem_bar (h segment List.mem_cons_self) with hnil | ⟨t, ht⟩
    · simp [hnil]
    · cases hname : t.name == rule.text <;> simp [ht, hname]

theorem ofText_withoutRule (rule : Rule) (text : String) :
    ofText (withoutRule rule text) = (ofText text).filter fun t => !(t.name == rule.text) := by
  have hsegments := flatMap_ofText_filter rule (Text.split '|' text.toList)
    Text.not_mem_of_mem_split
  rw [withoutRule, ofText_joined, ofText, ofChars_eq_flatMap_split, ← hsegments,
    List.flatMap_map]
  simp only [ofText, String.toList_ofList]

end Token

theorem FieldSpec.parts_withoutRule (rule : Rule) (spec : FieldSpec) :
    (spec.withoutRule rule).parts = spec.parts.filter fun part => !part.names rule := by
  have htext : ∀ text, ((Token.ofText (Token.withoutRule rule text)).map Part.token) =
      ((Token.ofText text).map Part.token).filter fun part => !part.names rule := by
    intro text
    rw [Token.ofText_withoutRule, List.filter_map]
    rfl
  cases spec with
  | rules text => exact htext text
  | list items =>
    rw [withoutRule, parts, parts, List.flatMap_map, List.filter_flatMap]
    refine List.flatMap_congr fun item _ => ?_
    cases item with
    | rules text => exact htext text
    | predicate p => rfl

/-! ### Empty values -/

namespace Value

theorem isEmpty_iff {v : Value} :
    v.isEmpty = true ↔ v = .null ∨ (∃ s, v = .text s ∧ Text.trimmed s = "") ∨ v = .list [] := by
  cases v with
  | null => simp [isEmpty]
  | bool _ | number _ | object _ => simp [isEmpty]
  | text s => simp [isEmpty, Text.trimmed, ← Text.trim_eq_nil_iff]
  | list items => simp [isEmpty]

end Value

theorem BuiltField.evaluate_of_skips {b : BuiltField} {v : Value} (h : b.skips v = true)
    (r : Record) : b.evaluate v r = none :=
  if_pos h

/-- A field that names the mark for empty values lets them pass. -/
theorem Engine.result_evaluateField_of_nullable {e : Engine} {field : String} {spec : FieldSpec}
    {v : Value} (hspec : spec.declares .nullable = true)
    (hbuild : ∃ built, (e.build field spec).result = .ok built) (hv : v.isEmpty = true)
    (record : Record) : (e.evaluateField field v record (some spec)).result = .ok none := by
  obtain ⟨built, hbuilt⟩ := hbuild
  obtain ⟨-, rfl⟩ := Registry.build_eq_ok_iff.mp hbuilt
  rw [result_evaluateField, hbuilt]
  refine congrArg Except.ok (BuiltField.evaluate_of_skips ?_ record)
  exact Bool.and_eq_true_iff.mpr ⟨hspec, hv⟩

/-! ### All other values -/

section Searches

variable {α β γ : Type} {l : List α}

theorem findSome?_filterMap (f : α → Option β) (g : β → Option γ) :
    (l.filterMap f).findSome? g = l.findSome? fun a => (f a).bind g := by
  rw [← List.head?_filterMap, List.filterMap_filterMap, List.head?_filterMap]

/-- A search goes past elements that give nothing. -/
theorem findSome?_filter_of_none {f : α → Option β} {keep : α → Bool}
    (h : ∀ a ∈ l, keep a = false → f a = none) : (l.filter keep).findSome? f = l.findSome? f := by
  induction l with
  | nil => rfl
  | cons a rest ih =>
    have hrest := ih fun b hb => h b (List.mem_cons_of_mem _ hb)
    rw [List.filter_cons, List.findSome?_cons, ← hrest]
    cases hkeep : keep a with
    | true => rw [if_pos rfl, List.findSome?_cons]
    | false => rw [if_neg Bool.false_ne_true, h a List.mem_cons_self hkeep]

end Searches

/-- With the catalog the token of the mark is a predicate that every value passes. -/
theorem Registry.resolve_nullable {settings : Settings} {field : String} {numericField : Bool}
    {t : Token} (h : t.name = Rule.nullable.text) :
    builtin.resolve settings field numericField t = .kept (.pass "nullable") := by
  rw [resolve, factory?_builtin, h, Rule.ofText?_text]
  rfl

section WithoutMark

variable {settings : Settings} {field : String} {spec bare : FieldSpec}
  (h : bare.parts = spec.parts.filter fun part => !part.names .nullable)
include h

theorem declares_of_parts_filter {r : Rule} (hr : r ≠ .nullable) :
    bare.declares r = spec.declares r := by
  have htext : r.text ≠ Rule.nullable.text := fun htext => hr (Rule.text_injective htext)
  rw [Bool.eq_iff_iff, FieldSpec.declares_iff, FieldSpec.declares_iff]
  refine exists_congr fun t => and_congr_left fun hname => ?_
  rw [FieldSpec.mem_tokens_iff, FieldSpec.mem_tokens_iff, h, List.mem_filter]
  simp [Part.names, hname, htext]

theorem isNumeric_of_parts_filter : bare.isNumeric = spec.isNumeric := by
  rw [FieldSpec.isNumeric_eq_declares, FieldSpec.isNumeric_eq_declares,
    declares_of_parts_filter h (by decide), declares_of_parts_filter h (by decide)]

/-- What is left of a specification without the mark finds the same first fault. -/
theorem firstFault?_of_parts_filter :
    firstFault? (Registry.builtin.resolve settings field spec.isNumeric) bare.tokens =
      firstFault? (Registry.builtin.resolve settings field spec.isNumeric) spec.tokens := by
  rw [firstFault?, firstFault?, FieldSpec.tokens_eq_parts, FieldSpec.tokens_eq_parts,
    findSome?_filterMap, findSome?_filterMap, h]
  refine findSome?_filter_of_none fun part _ hpart => ?_
  cases part with
  | token t =>
    have hname : t.name = Rule.nullable.text := by simpa [Part.names] using hpart
    rw [Part.token?, Option.bind_some, Registry.resolve_nullable hname]
    rfl
  | literal p => rfl

/-- What is left of a specification without the mark finds the same first failure. -/
theorem firstFailure_of_parts_filter (nullable nullable' : Bool) (v : Value) (record : Record) :
    BuiltField.firstFailure ⟨bare.parts.filterMap (Part.predicate?
        (Registry.builtin.resolve settings field spec.isNumeric)), nullable⟩ v record =
      BuiltField.firstFailure ⟨spec.parts.filterMap (Part.predicate?
        (Registry.builtin.resolve settings field spec.isNumeric)), nullable'⟩ v record := by
  rw [BuiltField.firstFailure, BuiltField.firstFailure, findSome?_filterMap, findSome?_filterMap, h]
  refine findSome?_filter_of_none fun part _ hpart => ?_
  cases part with
  | token t =>
    have hname : t.name = Rule.nullable.text := by simpa [Part.names] using hpart
    rw [Part.predicate?, Registry.resolve_nullable hname]
    rfl
  | literal p => cases hpart

/-- On values that are not empty the mark makes no difference. -/
theorem result_evaluateField_of_parts_filter {v : Value} (hv : v.isEmpty = false)
    (record : Record) :
    ((Engine.mk .builtin settings).evaluateField field v record (some bare)).result =
      ((Engine.mk .builtin settings).evaluateField field v record (some spec)).result := by
  rw [Engine.result_evaluateField, Engine.result_evaluateField, Engine.build, Engine.build,
    Registry.result_build_parts, Registry.result_build_parts, isNumeric_of_parts_filter h,
    firstFault?_of_parts_filter h]
  cases firstFault? (Registry.builtin.resolve settings field spec.isNumeric) spec.tokens with
  | some e => rfl
  | none =>
    simp only [orFault, Except.map, BuiltField.evaluate, BuiltField.skips, hv, Bool.and_false,
      firstFailure_of_parts_filter h bare.isNullable spec.isNullable v record]

end WithoutMark

/-- With any registry and settings, a field that names `nullable` and builds lets every empty value
pass: `null`, blank text and the empty list. With the catalog, on every other value a specification
gives the same message, pass or error without the tokens that name `nullable`, however these are
taken out of it. -/
theorem nullable_concerns_empty_values :
    let empty := fun v : Value =>
      v = .null ∨ (∃ s, v = .text s ∧ Text.trimmed s = "") ∨ v = .list []
    (∀ (e : Engine) (field : String) (spec : FieldSpec) (v : Value) (record : Record),
      spec.declares .nullable = true → (∃ built, (e.build field spec).result = .ok built) →
      empty v → (e.evaluateField field v record (some spec)).result = .ok none) ∧
    (∀ (settings : Settings) (field : String) (spec : FieldSpec) (v : Value) (record : Record),
      let evaluate := fun spec : FieldSpec =>
        ((Engine.mk .builtin settings).evaluateField field v record (some spec)).result
      let rest := spec.parts.filter fun part => !part.names .nullable
      ¬ empty v →
      (spec.withoutRule .nullable).parts = rest ∧
      evaluate (spec.withoutRule .nullable) = evaluate spec ∧
      ∀ bare : FieldSpec, bare.parts = rest → evaluate bare = evaluate spec) := by
  intro empty
  constructor
  · intro e field spec v record hspec hbuild hv
    exact Engine.result_evaluateField_of_nullable hspec hbuild (Value.isEmpty_iff.mpr hv) record
  · intro settings field spec v record evaluate rest hv
    have hv' : v.isEmpty = false := by
      rw [← Bool.not_eq_true, Value.isEmpty_iff]
      exact hv
    have hparts := FieldSpec.parts_withoutRule .nullable spec
    exact ⟨hparts, result_evaluateField_of_parts_filter hparts hv' record,
      fun bare hbare => result_evaluateField_of_parts_filter hbare hv' record⟩

/-- A nickname that may be left blank, with a literal predicate that fails every value: a no-break
space passes, and a short nickname shows the same message with the mark, without its segment and
where every other rule stands on its own. -/
theorem nullable_concerns_empty_nickname :
    let empty := fun v : Value =>
      v = .null ∨ (∃ s, v = .text s ∧ Text.trimmed s = "") ∨ v = .list []
    let taken : SpecItem := .predicate ⟨"taken", fun _ _ => some "Taken."⟩
    let spec : FieldSpec := .list [.rules "required| nullable:yes |min:3", taken]
    let bare : FieldSpec := .list [.rules "required", .rules "min:3", taken]
    let evaluate := fun v spec =>
      ((Engine.mk .builtin {}).evaluateField "nick" v .empty (some spec)).result
    let blank : Value := .text "\u00a0"
    let short : Value := .text "Al"
    let message := "Must be at least 3 characters."
    (spec.declares .nullable = true ∧
      (∃ built, ((Engine.mk .builtin {}).build "nick" spec).result = .ok built) ∧ empty blank ∧
      evaluate blank spec = .ok none) ∧
    ¬ empty short ∧ evaluate short spec = .ok (some message) ∧
      Token.withoutRule .nullable "required| nullable:yes |min:3" = "required|min:3" ∧
      evaluate short (spec.withoutRule .nullable) = .ok (some message) ∧
      (bare.parts = spec.parts.filter fun part => !part.names .nullable) ∧
      evaluate short bare = .ok (some message) := by
  intro empty taken spec bare evaluate blank short message
  obtain ⟨hpasses, hsame⟩ := nullable_concerns_empty_values
  have hspec : spec.declares .nullable = true := by decide
  have hbuild : ∃ built, ((Engine.mk .builtin {}).build "nick" spec).result = .ok built :=
    ⟨_, Registry.build_eq_ok_iff.mpr ⟨by decide +kernel, rfl⟩⟩
  have hblank : empty blank := Or.inr (Or.inl ⟨_, rfl, by decide⟩)
  have hshort : ¬ empty short := fun h => absurd (Value.isEmpty_iff.mpr h) (by decide)
  have hfails : evaluate short spec = .ok (some message) := by decide +kernel
  have hbare : bare.parts = spec.parts.filter fun part => !part.names .nullable := by
    have h1 : Token.ofText "required| nullable:yes |min:3" =
        [⟨"required", []⟩, ⟨"nullable", ["yes"]⟩, ⟨"min", ["3"]⟩] := by decide
    have h2 : Token.ofText "required" = [⟨"required", []⟩] := by decide
    have h3 : Token.ofText "min:3" = [⟨"min", ["3"]⟩] := by decide
    simp [bare, spec, taken, FieldSpec.parts, SpecItem.parts, h1, h2, h3, Part.names, Rule.text]
  obtain ⟨-, hwithout, hall⟩ := hsame {} "nick" spec short .empty hshort
  have hblank' := hpasses ⟨.builtin, {}⟩ "nick" spec blank .empty hspec hbuild hblank
  exact ⟨⟨hspec, hbuild, hblank, hblank'⟩,
    hshort, hfails, by decide, hwithout.trans hfails, hbare, (hall bare hbare).trans hfails⟩

end FieldRules
