import FieldRules.Proofs.BoundRules
import FieldRules.Proofs.NumericText
import FieldRules.Proofs.Rounding
/-!
How the rules about size fit together. Each of them compares its bounds with one amount of the value,
which is a length, a number, or nothing at all; what passes is said of that amount alone
(`passes_min_iff` and its neighbours). So an exact size is both bounds in one, `between` is both
bounds where there is an amount, and an exact number of digits is a range of one
(`size_rules_fit_together`).
-/

namespace FieldRules

/-! ### Amounts -/

namespace Check

/-- What a bound is compared with: the length or the value. -/
def Measure.amount? : Measure → Option Int
  | length n => some (ofCount n)
  | value x => some x.value
  | absent | unmeasurable => none

/-- The amount of a value; `byValue` says whether numeric text counts as its number. -/
def amount? (byValue : Bool) (v : Value) : Option Int := (measure byValue v).amount?

end Check

/-- Text, a list, or a number that a document can hold. -/
def Value.IsMeasurable : Value → Prop
  | .text _ | .list _ | .number (.float _) => True
  | .number (.int n) => Number.InRange n
  | .null | .bool _ | .object _ => False

theorem Value.IsMeasurable.exists_amount {v : Value} (h : v.IsMeasurable) (byValue : Bool) :
    ∃ n, Check.amount? byValue v = some n := by
  cases v with
  | number m =>
    obtain ⟨x, hx⟩ : ∃ x, m.toBinary64? = some x := by
      cases m with
      | int n =>
        obtain ⟨x, hx, -⟩ := Binary64.exists_ofInt? h
        exact ⟨x, hx⟩
      | float x => exact ⟨x, rfl⟩
    rw [Check.amount?, Check.measure_number hx]
    exact ⟨_, rfl⟩
  | text s =>
    simp only [Check.amount?, Check.measure]
    split_ifs
    · cases Binary64.ofText? s <;> exact ⟨_, rfl⟩
    · exact ⟨_, rfl⟩
  | list items => exact ⟨_, rfl⟩
  | null | bool | object => cases h

theorem Check.amount?_plain {v : Value} (h : ∀ s, v = .text s → Binary64.ofText? s = none) :
    amount? false v = amount? true v := by
  rw [amount?, amount?, measure_of_plain h]

/-! ### What passes -/

section Amounts

variable {settings : Settings} {field : String} {numericField : Bool} {record : Record}
  {a b : String} {x y : Binary64}

variable (ha : Binary64.ofText? a = some x) (hb : Binary64.ofText? b = some y) (v : Value)

include ha in
/-- `min` asks for an amount that is not below the bound. -/
theorem Rule.passes_min_iff :
    Rule.min.Passes settings field numericField record [a] v ↔
      ∃ n, Check.amount? numericField v = some n ∧ x.value ≤ n := by
  rw [Rule.passes_iff (by
    rw [Rule.factory, Check.min, Registry.number_inputOf (n := 0) rfl ha]
    rfl), Check.amount?]
  cases h : Check.measure numericField v <;>
    simp [h, Registry.inputOf, Check.Measure.amount?, Check.atLeast]

include ha in
/-- `max` rejects an amount above the bound, and nothing else. -/
theorem Rule.passes_max_iff :
    Rule.max.Passes settings field numericField record [a] v ↔
      ∀ n, Check.amount? numericField v = some n → n ≤ x.value := by
  rw [Rule.passes_iff (by
    rw [Rule.factory, Check.max, Registry.number_inputOf (n := 0) rfl ha]
    rfl), Check.amount?]
  cases h : Check.measure numericField v <;>
    simp [h, Registry.inputOf, Check.Measure.amount?, Check.atMost]

include ha in
theorem Rule.passes_size_iff :
    Rule.size.Passes settings field numericField record [a] v ↔
      Check.amount? numericField v = some x.value := by
  rw [Rule.passes_iff (by
    rw [Rule.factory, Check.size, Registry.number_inputOf (n := 0) rfl ha]
    rfl), Check.amount?]
  cases h : Check.measure numericField v <;> simp [h, Registry.inputOf, Check.Measure.amount?]

include ha hb in
/-- `between` rejects an amount outside its bounds, and nothing else. It measures numeric text by
value on every field. -/
theorem Rule.passes_between_iff :
    Rule.between.Passes settings field numericField record [a, b] v ↔
      ∀ n, Check.amount? true v = some n → x.value ≤ n ∧ n ≤ y.value := by
  rw [Rule.passes_iff (by
    rw [Rule.factory, Check.between, Registry.number_inputOf (n := 0) rfl ha]
    rw [Registry.number_inputOf (n := 1) rfl hb]
    rfl), Check.amount?]
  cases h : Check.measure true v <;> simp [h, Check.Measure.amount?, Check.atLeast, Check.atMost]

include ha in
theorem Rule.passes_digits_iff :
    Rule.digits.Passes settings field numericField record [a] v ↔
      ∃ n, Check.digitCount? v = some n ∧ Check.ofCount n = x.value := by
  rw [Rule.passes_iff (by
    rw [Rule.factory, Check.digits, Registry.number_inputOf (n := 0) rfl ha]
    rfl)]
  cases h : Check.digitCount? v <;> simp [Predicate.ofTest, h]

include ha hb in
theorem Rule.passes_digitsBetween_iff :
    Rule.digitsBetween.Passes settings field numericField record [a, b] v ↔
      ∃ n, Check.digitCount? v = some n ∧ x.value ≤ Check.ofCount n ∧ Check.ofCount n ≤ y.value := by
  rw [Rule.passes_iff (by
    rw [Rule.factory, Check.digitsBetween, Registry.number_inputOf (n := 0) rfl ha]
    rw [Registry.number_inputOf (n := 1) rfl hb]
    rfl)]
  cases h : Check.digitCount? v <;> simp [h, Check.atLeast, Check.atMost]

end Amounts

/-! ### Numeric bounds -/

/-- The rules about size with one bound. -/
def Rule.oneBound : List Rule := [min, max, size, digits]

/-- The rules about size with two bounds. -/
def Rule.twoBounds : List Rule := [between, digitsBetween]

theorem Rule.exists_factory_eq_of_oneBound {rule : Rule} (h : rule ∈ oneBound) :
    ∃ bind : Input → Binary64 → Predicate,
      ∀ i, rule.factory i = do return bind i (← i.number 0) := by
  simp only [oneBound, List.mem_cons, List.not_mem_nil, or_false] at h
  rcases h with rfl | rfl | rfl | rfl <;> exact ⟨_, fun _ => rfl⟩

theorem Rule.exists_factory_eq_of_twoBounds {rule : Rule} (h : rule ∈ twoBounds) :
    ∃ bind : Input → Binary64 → Binary64 → Predicate,
      ∀ i, rule.factory i = do return bind i (← i.number 0) (← i.number 1) := by
  simp only [twoBounds, List.mem_cons, List.not_mem_nil, or_false] at h
  rcases h with rfl | rfl <;> exact ⟨_, fun _ => rfl⟩

section Kept

variable (settings : Settings) (field : String) (record : Record) {n lo hi : String}
  (hn : (Binary64.ofText? n).isSome) (hlo : (Binary64.ofText? lo).isSome)
  (hhi : (Binary64.ofText? hi).isSome)

include hn in
/-- With a numeric bound the rule is kept, so that every value passes or fails it. -/
theorem Rule.passes_or_fails_of_oneBound {rule : Rule} (h : rule ∈ oneBound) (numericField : Bool)
    (v : Value) : rule.Passes settings field numericField record [n] v ∨
      rule.Fails settings field numericField record [n] v := by
  obtain ⟨x, hx⟩ := Option.isSome_iff_exists.mp hn
  obtain ⟨bind, hbind⟩ := exists_factory_eq_of_oneBound h
  have hp := hbind (Registry.inputOf field numericField ⟨rule.text, [n]⟩)
  rw [Registry.number_inputOf rfl hx] at hp
  rw [Rule.fails_iff hp]
  exact Classical.em _

include hlo hhi in
theorem Rule.passes_or_fails_of_twoBounds {rule : Rule} (h : rule ∈ twoBounds)
    (numericField : Bool) (v : Value) :
    rule.Passes settings field numericField record [lo, hi] v ∨
      rule.Fails settings field numericField record [lo, hi] v := by
  obtain ⟨x, hx⟩ := Option.isSome_iff_exists.mp hlo
  obtain ⟨y, hy⟩ := Option.isSome_iff_exists.mp hhi
  obtain ⟨bind, hbind⟩ := exists_factory_eq_of_twoBounds h
  have hp := hbind (Registry.inputOf field numericField ⟨rule.text, [lo, hi]⟩)
  rw [Registry.number_inputOf (n := 0) rfl hx, Registry.number_inputOf (n := 1) rfl hy] at hp
  rw [Rule.fails_iff hp]
  exact Classical.em _

end Kept

/-- On any field an exact size is both bounds at once, and `digits` is a range of one. `between` is
both bounds for text, lists and numbers on a numeric field, and also on a plain one if the text
writes no number; of the other values it passes all, as `max` does, where `min` fails them. -/
theorem size_rules_fit_together (settings : Settings) (field : String) (record : Record)
    {n lo hi : String} (hn : (Binary64.ofText? n).isSome) (hlo : (Binary64.ofText? lo).isSome)
    (hhi : (Binary64.ofText? hi).isSome) :
    let passes := fun (rule : Rule) numericField args v =>
      rule.Passes settings field numericField record args v
    let fails := fun (rule : Rule) numericField args v =>
      rule.Fails settings field numericField record args v
    (∀ numericField v,
      (∀ rule ∈ Rule.oneBound, passes rule numericField [n] v ∨ fails rule numericField [n] v) ∧
      ∀ rule ∈ Rule.twoBounds,
        passes rule numericField [lo, hi] v ∨ fails rule numericField [lo, hi] v) ∧
    (∀ numericField v, passes .size numericField [n] v ↔
      passes .min numericField [n] v ∧ passes .max numericField [n] v) ∧
    (∀ v : Value, v.IsMeasurable → (passes .between true [lo, hi] v ↔
      passes .min true [lo] v ∧ passes .max true [hi] v)) ∧
    (∀ v : Value, v = .null ∨ (∃ b, v = .bool b) ∨ (∃ members, v = .object members) →
      passes .between true [lo, hi] v ∧ passes .max true [hi] v ∧ fails .min true [lo] v) ∧
    (∀ v : Value, v.IsMeasurable → (∀ s, v = .text s → Binary64.ofText? s = none) →
      (passes .between false [lo, hi] v ↔ passes .min false [lo] v ∧ passes .max false [hi] v)) ∧
    ∀ numericField v, passes .digits numericField [n] v ↔
      passes .digitsBetween numericField [n, n] v := by
  intro passes fails
  have hkept : ∀ numericField v,
      (∀ rule ∈ Rule.oneBound, passes rule numericField [n] v ∨ fails rule numericField [n] v) ∧
      ∀ rule ∈ Rule.twoBounds,
        passes rule numericField [lo, hi] v ∨ fails rule numericField [lo, hi] v :=
    fun numericField v =>
      ⟨fun rule h => Rule.passes_or_fails_of_oneBound settings field record hn h numericField v,
        fun rule h =>
          Rule.passes_or_fails_of_twoBounds settings field record hlo hhi h numericField v⟩
  have hlower := fun v =>
    Rule.passes_or_fails_of_oneBound settings field record hlo
      (show Rule.min ∈ Rule.oneBound by decide) true v
  obtain ⟨x, hx⟩ := Option.isSome_iff_exists.mp hn
  obtain ⟨l, hl⟩ := Option.isSome_iff_exists.mp hlo
  obtain ⟨h, hh⟩ := Option.isSome_iff_exists.mp hhi
  -- where there is an amount, being between the bounds is being within each of them
  have hbetween : ∀ (numericField : Bool) (v : Value), v.IsMeasurable →
      Check.amount? numericField v = Check.amount? true v →
      (passes .between numericField [lo, hi] v ↔
        passes .min numericField [lo] v ∧ passes .max numericField [hi] v) := by
    intro numericField v hv hsame
    obtain ⟨m, hm⟩ := hv.exists_amount true
    simp only [passes, Rule.passes_between_iff hl hh, Rule.passes_min_iff hl,
      Rule.passes_max_iff hh, hsame, hm, Option.some.injEq, forall_eq', exists_eq_left']
  refine ⟨hkept, fun numericField v => ?_, fun v hv => hbetween true v hv rfl, fun v hv => ?_,
    fun v hv hplain => hbetween false v hv (Check.amount?_plain hplain), fun numericField v => ?_⟩
  · simp only [passes, Rule.passes_size_iff hx, Rule.passes_min_iff hx, Rule.passes_max_iff hx]
    cases hm : Check.amount? numericField v with
    | none => simp
    | some m =>
      simp only [Option.some.injEq, exists_eq_left', forall_eq']
      omega
  · have hnone : Check.amount? true v = none := by
      rcases hv with rfl | ⟨b, rfl⟩ | ⟨members, rfl⟩ <;> rfl
    refine ⟨?_, ?_, (hlower v).resolve_left ?_⟩
    · simp only [passes, Rule.passes_between_iff hl hh, hnone, reduceCtorEq, false_implies,
        implies_true]
    · simp only [passes, Rule.passes_max_iff hh, hnone, reduceCtorEq, false_implies, implies_true]
    · simp only [Rule.passes_min_iff hl, hnone, reduceCtorEq, false_and, exists_const,
        not_false_eq_true]
  · simp only [passes, Rule.passes_digits_iff hx, Rule.passes_digitsBetween_iff hx hx]
    refine exists_congr fun m => and_congr_right fun _ => ?_
    omega

/-- A fraction, a negative bound and one with an exponent, on a numeric text, a list and an object. -/
theorem size_rules_fit_together_of_price :
    let passes := fun (rule : Rule) numericField args v =>
      rule.Passes {} "price" numericField .empty args v
    let written : Value := .text " 25e-1"
    let pair : Value := .list [.null, .text "7"]
    (Binary64.ofText? "2.50").isSome ∧ (Binary64.ofText? "-1").isSome ∧
      (Binary64.ofText? "1e1").isSome ∧
      (passes .size true ["2.50"] written ↔
        passes .min true ["2.50"] written ∧ passes .max true ["2.50"] written) ∧
      pair.IsMeasurable ∧ (∀ s, pair = .text s → Binary64.ofText? s = none) ∧
      (passes .between false ["-1", "1e1"] pair ↔
        passes .min false ["-1"] pair ∧ passes .max false ["1e1"] pair) ∧
      passes .between true ["-1", "1e1"] (.object []) ∧
      Rule.min.Fails {} "price" true .empty ["-1"] (.object []) := by
  intro passes written pair
  have hn : (Binary64.ofText? "2.50").isSome := by decide +kernel
  have hlo : (Binary64.ofText? "-1").isSome := by decide +kernel
  have hhi : (Binary64.ofText? "1e1").isSome := by decide +kernel
  obtain ⟨-, hsize, -, hobject, hplain, -⟩ :=
    size_rules_fit_together {} "price" .empty hn hlo hhi
  obtain ⟨hbetween, -, hmin⟩ := hobject (.object []) (Or.inr (Or.inr ⟨[], rfl⟩))
  exact ⟨hn, hlo, hhi, hsize true written, trivial, nofun, hplain pair trivial nofun, hbetween, hmin⟩

end FieldRules
