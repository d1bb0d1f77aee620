import FieldRules.Proofs.ReadSets
import FieldRules.Proofs.SpecShapes
/-!
Numbers and the text that writes them. The rules that look at a value as a number see the same in
both, however the text spells the number; those that bound a size do so on a field that says it is
numeric, and `between` on every field. So text and number get the same evaluation there
(`numeric_text_evaluates_as_number`).
-/

namespace FieldRules

/-! ### What text and number have in common -/

theorem Binary64.units_eq_of_value_eq {x y : Binary64} (h : x.value = y.value) :
    x.units = y.units := by
  rw [value, value] at h
  cases hx : x.negative <;> cases hy : y.negative <;> simp [hx, hy] at h <;> omega

/-- Text that writes a number is not blank. -/
theorem allBlank_of_ofText? {s : String} {x : Binary64} (h : Binary64.ofText? s = some x) :
    Text.allBlank s.toList = false := by
  rw [← Bool.not_eq_true, ← Text.trim_eq_nil_iff]
  intro hblank
  rw [Binary64.ofText?, hblank] at h
  cases h

/-- Only text that writes a number is measured in two ways. -/
theorem Check.measure_of_plain {v : Value} (h : ∀ s, v = .text s → Binary64.ofText? s = none)
    (byValue byValue' : Bool) : measure byValue v = measure byValue' v := by
  cases v with
  | text s => simp [measure, h s rfl]
  | null | bool | number | list | object => rfl

/-- The rules that look at a value as a number. -/
def Rule.onNumbers : List Rule :=
  [required, nullable, numeric, integer, min, max, between, size]

/-- The rules that look at numeric text as a number on every field. -/
def Rule.onNumericText : List Rule := [required, nullable, between]

section Alike

variable {s : String} {n : Number} {x y : Binary64} (hs : Binary64.ofText? s = some x)
  (hn : n.toBinary64? = some y) (hxy : y.value = x.value)

include hs in
theorem Check.measure_text : measure true (.text s) = .value x := by
  simp [measure, hs]

include hn in
theorem Check.measure_number (byValue : Bool) : measure byValue (.number n) = .value y := by
  simp [measure, hn]

include hs hn hxy

/-- A rule that looks at numbers answers the same for the text and for the number, if the field is
numeric or the rule does not mind. -/
theorem Rule.check_text_eq_check_number {rule : Rule} {i : Input} {p : Predicate}
    (hrule : i.numericField = true ∧ rule ∈ onNumbers ∨ rule ∈ onNumericText)
    (h : rule.factory i = .ok p) (record : Record) :
    p.check (.text s) record = p.check (.number n) record := by
  have hblank := allBlank_of_ofText? hs
  have hfield : rule ∉ onNumericText → i.numericField = true :=
    fun hnot => hrule.elim And.left fun hmem => absurd hmem hnot
  cases rule with
  | required =>
    cases h
    simp [Predicate.ofTest, Value.isEmpty, hblank]
  | nullable =>
    cases h
    rfl
  | numeric =>
    cases h
    simp [Predicate.ofTest, Value.isEmpty, Value.number?, hs, hn]
  | integer =>
    cases h
    have hunits := Binary64.units_eq_of_value_eq hxy
    simp [Predicate.ofTest, Value.isEmpty, Value.number?, hs, hn, hblank, Binary64.isIntegral,
      hunits]
  | min | max | size =>
    obtain ⟨bound, -, hp⟩ := exists_of_bind_eq_ok h
    cases hp
    simp only [hfield (by decide), Check.measure_text hs, Check.measure_number hn, hxy]
  | between =>
    obtain ⟨lo, -, h⟩ := exists_of_bind_eq_ok h
    obtain ⟨hi, -, hp⟩ := exists_of_bind_eq_ok h
    cases hp
    simp only [Check.measure_text hs, Check.measure_number hn, hxy]
  | _ => exact absurd hrule (by simp [onNumbers, onNumericText])

/-- What a token of such a rule contributes cannot tell the text from the number. -/
theorem Registry.check_text_eq_check_number {settings : Settings} {field : String}
    {numericField : Bool} {t : Token} {rule : Rule} {p : Predicate} (ht : t.name = rule.text)
    (hrule : numericField = true ∧ rule ∈ Rule.onNumbers ∨ rule ∈ Rule.onNumericText)
    (h : (builtin.resolve settings field numericField t).predicate? = some p) (record : Record) :
    p.check (.text s) record = p.check (.number n) record := by
  rw [resolve, factory?_builtin, ht, Rule.ofText?_text, Option.map_some] at h
  cases hf : rule.factory (inputOf field numericField t) with
  | ok q =>
    simp only [hf, Resolution.predicate?, Option.some.injEq] at h
    exact Rule.check_text_eq_check_number hs hn hxy hrule (h ▸ hf) record
  | error e =>
    simp only [hf] at h
    rw [Registry.eq_unusablePattern_of_onError h]
    rfl

theorem evaluateField_text_eq_number {settings : Settings} {field text : String}
    (h : ∀ t ∈ (FieldSpec.rules text).tokens, ∃ rule, t.name = rule.text ∧
      ((FieldSpec.rules text).isNumeric = true ∧ rule ∈ Rule.onNumbers ∨
        rule ∈ Rule.onNumericText)) (record : Record) :
    (Engine.mk .builtin settings).evaluateField field (.text s) record (some (.rules text)) =
      (Engine.mk .builtin settings).evaluateField field (.number n) record
        (some (.rules text)) := by
  refine Traced.bind_congr_ok fun built hbuilt => ?_
  have hskips : built.skips (.text s) = built.skips (.number n) := by
    simp [BuiltField.skips, Value.isEmpty, allBlank_of_ofText? hs]
  have hfail : built.firstFailure (.text s) record = built.firstFailure (.number n) record := by
    refine BuiltField.firstFailure_congr fun p hp => ?_
    have hspec : (FieldSpec.rules text).OnlyRules := trivial
    obtain ⟨t, ht, hres⟩ := Registry.exists_token_of_mem_build hspec hbuilt hp
    obtain ⟨rule, hname, hrule⟩ := h t ht
    exact Registry.check_text_eq_check_number hs hn hxy hname hrule hres record
  rw [hskips, hfail]

end Alike

/-- Text that writes a number, in any spelling, and a number of the same value get the same
evaluation, events included, by any rule string of rules that look at numbers, if it names `numeric`
or `integer` somewhere. Of `required`, `nullable` and `between` alone this is so without such a
name. -/
theorem numeric_text_evaluates_as_number (settings : Settings) (field text : String) {s : String}
    {n : Number} {x y : Binary64} (hs : Binary64.ofText? s = some x) (hn : n.toBinary64? = some y)
    (hxy : y.value = x.value) (record : Record) :
    let spec : FieldSpec := .rules text
    let evaluate := fun v => (Engine.mk .builtin settings).evaluateField field v record (some spec)
    ((∀ t ∈ spec.tokens, t.name ∈ Rule.onNumbers.map Rule.text) →
      (spec.declares .numeric || spec.declares .integer) = true →
      evaluate (.text s) = evaluate (.number n)) ∧
    ((∀ t ∈ spec.tokens, t.name ∈ Rule.onNumericText.map Rule.text) →
      evaluate (.text s) = evaluate (.number n)) := by
  intro spec evaluate
  constructor
  · intro htokens hmark
    rw [← FieldSpec.isNumeric_eq_declares] at hmark
    refine evaluateField_text_eq_number hs hn hxy (fun t ht => ?_) record
    obtain ⟨rule, hrule, hname⟩ := List.mem_map.mp (htokens t ht)
    exact ⟨rule, hname.symm, Or.inl ⟨hmark, hrule⟩⟩
  · intro htokens
    refine evaluateField_text_eq_number hs hn hxy (fun t ht => ?_) record
    obtain ⟨rule, hrule, hname⟩ := List.mem_map.mp (htokens t ht)
    exact ⟨rule, hname.symm, Or.inr hrule⟩

/-- Seventeen with a sign, a leading zero, an exponent and blanks around it. -/
theorem numeric_text_evaluates_as_seventeen :
    let evaluate := fun text v =>
      (Engine.mk .builtin {}).evaluateField "age" v .empty (some (.rules text))
    let written : Value := .text " +01.70e1\t"
    let marked := "required|min:18|size:x|integer:yes"
    let unmarked := "nullable|between:18,65"
    ∃ x y, Binary64.ofText? " +01.70e1\t" = some x ∧ (Number.int 17).toBinary64? = some y ∧
      y.value = x.value ∧
      (∀ t ∈ (FieldSpec.rules marked).tokens, t.name ∈ Rule.onNumbers.map Rule.text) ∧
      ((FieldSpec.rules marked).declares .numeric ||
        (FieldSpec.rules marked).declares .integer) = true ∧
      (∀ t ∈ (FieldSpec.rules unmarked).tokens, t.name ∈ Rule.onNumericText.map Rule.text) ∧
      evaluate marked written = evaluate marked (.number (.int 17)) ∧
      (evaluate marked written).result = .ok (some "Must be at least 18.") ∧
      evaluate unmarked written = evaluate unmarked (.number (.int 17)) ∧
      (evaluate unmarked written).result = .ok (some "Must be between 18 and 65.") := by
  intro evaluate written marked unmarked
  have hvalues : (Binary64.ofText? " +01.70e1\t").any (fun x =>
      (Number.int 17).toBinary64?.any fun y => y.value == x.value) = true := by decide +kernel
  obtain ⟨x, hx, hvalues⟩ := (Option.any_eq_true ..).mp hvalues
  obtain ⟨y, hy, hvalues⟩ := (Option.any_eq_true ..).mp hvalues
  have hxy : y.value = x.value := eq_of_beq hvalues
  have hmarked : ∀ t ∈ (FieldSpec.rules marked).tokens, t.name ∈ Rule.onNumbers.map Rule.text := by
    decide
  have hunmarked : ∀ t ∈ (FieldSpec.rules unmarked).tokens,
      t.name ∈ Rule.onNumericText.map Rule.text := by decide
  obtain ⟨hsame, -⟩ := numeric_text_evaluates_as_number {} "age" marked hx hy hxy .empty
  obtain ⟨-, hsame'⟩ := numeric_text_evaluates_as_number {} "age" unmarked hx hy hxy .empty
  exact ⟨x, y, hx, hy, hxy, hmarked, by decide, hunmarked, hsame hmarked (by decide),
    by decide +kernel, hsame' hunmarked, by decide +kernel⟩

end FieldRules
