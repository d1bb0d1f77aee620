import FieldRules.Proofs.BoundRules
import FieldRules.Proofs.Splitting
/-!
The order in time behind `after` and `before`. Instants are strictly ordered (`Instant.lt_trans`,
`Instant.lt_trichotomy`), and the two rules read a value and a reference as the same two instants.
So they are the two directions of one order (`after_and_before_are_one_order`), in whatever forms
the dates are written.
-/

namespace FieldRules

/-! ### Instants -/

namespace Calendar.Instant

variable {a b c : Instant}

theorem lt_iff : a < b ↔ a.seconds < b.seconds ∨ a.seconds = b.seconds ∧ a.nanos < b.nanos :=
  Iff.rfl

theorem lt_irrefl (a : Instant) : ¬ a < a := by
  rw [lt_iff]
  omega

theorem lt_trans (hab : a < b) (hbc : b < c) : a < c := by
  rw [lt_iff] at *
  omega

theorem lt_asymm (hab : a < b) : ¬ b < a := fun hba => lt_irrefl a (lt_trans hab hba)

theorem lt_trichotomy (a b : Instant) : a < b ∨ a = b ∨ b < a := by
  obtain ⟨s, m⟩ := a
  obtain ⟨t, n⟩ := b
  simp only [lt_iff, Instant.mk.injEq]
  omega

end Calendar.Instant

/-! ### Dates in values -/

theorem Calendar.instantOfText?_of_allBlank {s : String} (h : Text.allBlank s.toList = true) :
    instantOfText? s = none := by
  rw [instantOfText?, Text.trim_eq_nil_iff.mpr h]
  rfl

namespace Check

theorem instant?_of_isEmpty {v : Value} (h : v.isEmpty = true) : instant? v = none := by
  cases v with
  | null => rfl
  | text s => exact Calendar.instantOfText?_of_allBlank h
  | list items =>
    obtain rfl := List.isEmpty_iff.mp h
    rfl
  | bool | number | object => cases h

theorem bound?_eq_none_iff {t : String} {r : Record} :
    bound? t r = none ↔ Calendar.instantOfText? t = none ∧ instant? (r.read t) = none := by
  rw [bound?]
  cases Calendar.instantOfText? t <;> simp

/-- A name that does not read as a date refers to the field of that name. -/
theorem bound?_of_not_literal {t : String} {r : Record} (h : Calendar.instantOfText? t = none) :
    bound? t r = instant? (r.read t) := by
  rw [bound?, h]

end Check

/-! ### Comparisons -/

namespace Check

/-- What a predicate that compares a value with the reference `t` answers. -/
structure Compares (name : String) (holds : Calendar.Instant → Calendar.Instant → Bool) (t : String)
    (p : Predicate) : Prop where
  ofEmpty {v : Value} {r : Record} : v.isEmpty = true → p.check v r = none
  ofNoDate {v : Value} {r : Record} : v.isEmpty = false → instant? v = none ∨ bound? t r = none →
    p.check v r = some "Invalid date."
  ofDates {v : Value} {r : Record} {x y : Calendar.Instant} : instant? v = some x →
    bound? t r = some y →
      p.check v r = if holds x y then none else some ("Date must be " ++ name ++ " " ++ t ++ ".")

variable {name t : String} {holds : Calendar.Instant → Calendar.Instant → Bool} {i : Input}

theorem exists_compares_of_text (h : i.text 0 = .ok t) :
    ∃ p, relative name holds i = .ok p ∧ Compares name holds t p := by
  refine ⟨_, by rw [relative, h]; rfl, fun hv => if_pos hv, ?_, ?_⟩
  · intro v r hv hnone
    simp only [hv, Bool.false_eq_true, if_false]
    cases hx : instant? v with
    | none => rfl
    | some x => simp only [hnone.resolve_left (by simp [hx])]
  · intro v r x y hx hy
    have hv : ¬ v.isEmpty = true := fun hv => by simp [instant?_of_isEmpty hv] at hx
    simp only [if_neg hv, hx, hy]

namespace Compares

variable {p : Predicate} (h : Compares name holds t p) {v : Value} {r : Record}
  {x y : Calendar.Instant}

include h in
theorem check_eq_none_iff (hx : instant? v = some x) (hy : bound? t r = some y) :
    p.check v r = none ↔ holds x y = true := by
  rw [h.ofDates hx hy]
  split <;> simp_all

include h in
/-- A comparison is refused, rather than failed, exactly where one of the two dates is missing. -/
theorem check_eq_invalid_iff (hv : v.isEmpty = false) :
    p.check v r = some "Invalid date." ↔ instant? v = none ∨ bound? t r = none := by
  refine ⟨fun hcheck => ?_, h.ofNoDate hv⟩
  by_contra hdates
  simp only [not_or, ← ne_eq, Option.ne_none_iff_exists'] at hdates
  obtain ⟨⟨x, hx⟩, y, hy⟩ := hdates
  rw [h.ofDates hx hy, ite_eq_iff] at hcheck
  simp only [reduceCtorEq, and_false, false_or, Option.some.injEq] at hcheck
  -- the two messages differ in their first letter
  have hfirst := congrArg (fun s => s.toList.head?) hcheck.2
  simp [String.toList_append] at hfirst

end Compares

end Check

/-! ### Two rules for one order -/

/-- A rule that orders dates, with what it asks of the value's instant and the reference's. -/
inductive Rule.Orders : Rule → (Calendar.Instant → Calendar.Instant → Prop) → Prop
  | after : Orders .after fun x y => y < x
  | before : Orders .before fun x y => x < y

/-- The field may be referred to by its name and holds a date. -/
structure Record.HoldsDate (record : Record) (name : String) : Prop where
  named : name ≠ ""
  notLiteral : Calendar.instantOfText? name = none
  dated : (Check.instant? (record.read name)).isSome = true

theorem Record.HoldsDate.exists_instant {record : Record} {name : String}
    (h : record.HoldsDate name) :
    ∃ x, Check.instant? (record.read name) = some x ∧ Check.bound? name record = some x := by
  obtain ⟨x, hx⟩ := Option.isSome_iff_exists.mp h.dated
  exact ⟨x, hx, (Check.bound?_of_not_literal h.notLiteral).trans hx⟩

namespace Rule.Orders

variable {settings : Settings} {field : String} {numericField : Bool} {record : Record}
  {rule : Rule} {R : Calendar.Instant → Calendar.Instant → Prop} {t : String} {v : Value}
  {x y : Calendar.Instant}

variable (h : rule.Orders R) (ht : t ≠ "")

include h ht

/-- The rule is bound to every field, as a comparison by its order; of its arguments it takes the
first. -/
theorem exists_compares (field : String) (numericField : Bool) (rest : List String) :
    ∃ p name holds,
      rule.factory (Registry.inputOf field numericField ⟨rule.text, t :: rest⟩) = .ok p ∧
        Check.Compares name holds t p ∧ ∀ x y, holds x y = true ↔ R x y := by
  have htext : ∀ name,
      (Registry.inputOf field numericField ⟨name, t :: rest⟩).text 0 = .ok t :=
    fun name => Registry.text_inputOf rfl ht
  cases h with
  | after =>
    obtain ⟨p, hp, hcompares⟩ := Check.exists_compares_of_text (htext Rule.after.text)
    exact ⟨p, _, _, hp, hcompares, fun x y => decide_eq_true_iff⟩
  | before =>
    obtain ⟨p, hp, hcompares⟩ := Check.exists_compares_of_text (htext Rule.before.text)
    exact ⟨p, _, _, hp, hcompares, fun x y => decide_eq_true_iff⟩

theorem passes_of_isEmpty (hv : v.isEmpty = true) :
    rule.Passes settings field numericField record [t] v := by
  obtain ⟨p, name, holds, hp, hcompares, -⟩ := h.exists_compares ht field numericField []
  exact (passes_iff hp).mpr (hcompares.ofEmpty hv)

theorem answers_invalid_iff (hv : v.isEmpty = false) :
    rule.Answers settings field numericField record [t] v (some "Invalid date.") ↔
      Check.instant? v = none ∨ Check.bound? t record = none := by
  obtain ⟨p, name, holds, hp, hcompares, -⟩ := h.exists_compares ht field numericField []
  rw [answers_iff hp, hcompares.check_eq_invalid_iff hv]

theorem passes_iff_of_instants (hx : Check.instant? v = some x)
    (hy : Check.bound? t record = some y) :
    rule.Passes settings field numericField record [t] v ↔ R x y := by
  obtain ⟨p, name, holds, hp, hcompares, hR⟩ := h.exists_compares ht field numericField []
  rw [passes_iff hp, hcompares.check_eq_none_iff hx hy, hR]

theorem fails_iff_of_instants (hx : Check.instant? v = some x)
    (hy : Check.bound? t record = some y) :
    rule.Fails settings field numericField record [t] v ↔ ¬ R x y := by
  obtain ⟨p, name, holds, hp, -⟩ := h.exists_compares ht field numericField []
  rw [fails_iff hp, h.passes_iff_of_instants ht hx hy]

end Rule.Orders

/-- `after` and `before` agree on what is a date and are the two directions of one strict order. -/
theorem after_and_before_are_one_order (settings : Settings) (numeric : String → Bool)
    (record : Record) :
    let passes := fun field (rule : Rule) t v =>
      rule.Passes settings field (numeric field) record [t] v
    let fails := fun field (rule : Rule) t v =>
      rule.Fails settings field (numeric field) record [t] v
    let refuses := fun field (rule : Rule) t v =>
      rule.Answers settings field (numeric field) record [t] v (some "Invalid date.")
    (∀ field t v, t ≠ "" →
      (v.isEmpty = true → passes field .after t v ∧ passes field .before t v) ∧
      (v.isEmpty = false → ∀ rule ∈ [Rule.after, .before], refuses field rule t v ↔
        Check.instant? v = none ∨
          Calendar.instantOfText? t = none ∧ Check.instant? (record.read t) = none) ∧
      ∀ x y, Check.instant? v = some x → Check.bound? t record = some y →
        (passes field .after t v ↔ y < x) ∧ (passes field .before t v ↔ x < y) ∧
        ¬ (passes field .after t v ∧ passes field .before t v) ∧
        (fails field .after t v ∧ fails field .before t v ↔ x = y)) ∧
    ∀ a b c, record.HoldsDate a → record.HoldsDate b → record.HoldsDate c →
      (passes a .after b (record.read a) ↔ passes b .before a (record.read b)) ∧
      (passes a .after b (record.read a) → passes b .after c (record.read b) →
        passes a .after c (record.read a)) := by
  intro passes fails refuses
  constructor
  · intro field t v ht
    refine ⟨fun hv => ⟨Rule.Orders.after.passes_of_isEmpty ht hv,
      Rule.Orders.before.passes_of_isEmpty ht hv⟩, fun hv rule hrule => ?_, fun x y hx hy => ?_⟩
    · obtain ⟨R, hR⟩ : ∃ R, rule.Orders R := by
        simp only [List.mem_cons, List.not_mem_nil, or_false] at hrule
        obtain rfl | rfl := hrule
        exacts [⟨_, .after⟩, ⟨_, .before⟩]
      rw [← Check.bound?_eq_none_iff]
      exact hR.answers_invalid_iff ht hv
    · simp only [passes, fails, Rule.Orders.after.passes_iff_of_instants ht hx hy,
        Rule.Orders.before.passes_iff_of_instants ht hx hy,
        Rule.Orders.after.fails_iff_of_instants ht hx hy,
        Rule.Orders.before.fails_iff_of_instants ht hx hy]
      refine ⟨trivial, trivial, fun h => Calendar.Instant.lt_asymm h.1 h.2, fun h => ?_, ?_⟩
      · exact ((Calendar.Instant.lt_trichotomy x y).resolve_left h.2).resolve_right h.1
      · rintro rfl
        exact ⟨x.lt_irrefl, x.lt_irrefl⟩
  · intro a b c ha hb hc
    obtain ⟨x, hx, hxref⟩ := ha.exists_instant
    obtain ⟨y, hy, hyref⟩ := hb.exists_instant
    obtain ⟨z, -, hzref⟩ := hc.exists_instant
    simp only [passes, Rule.Orders.after.passes_iff_of_instants hb.named hx hyref,
      Rule.Orders.before.passes_iff_of_instants ha.named hy hxref,
      Rule.Orders.after.passes_iff_of_instants hc.named hy hzref,
      Rule.Orders.after.passes_iff_of_instants hc.named hx hzref]
    exact ⟨trivial, fun hyx hzy => Calendar.Instant.lt_trans hzy hyx⟩

/-- The dates of a booking in three forms and two offsets: a day, a local time and a mail header. -/
theorem after_and_before_on_booking :
    let booking : Record := Table.ofList [("opens", .text "2024-02-29"),
      ("closes", .text " 2024-02-29T10:30:15.5+02:00"),
      ("paid", .text "Thu, 29 Feb 2024 08:30:16 +0000")]
    let passes := fun field (rule : Rule) t v => rule.Passes {} field false booking [t] v
    booking.HoldsDate "opens" ∧ booking.HoldsDate "closes" ∧ booking.HoldsDate "paid" ∧
      "closes" ≠ "" ∧ passes "paid" .before "closes" .null ∧
      passes "paid" .after "closes" (booking.read "paid") ∧
      passes "closes" .before "paid" (booking.read "closes") ∧
      (passes "closes" .after "opens" (booking.read "closes") →
        passes "paid" .after "opens" (booking.read "paid")) := by
  intro booking passes
  have hopens : booking.HoldsDate "opens" := ⟨by decide, by decide +kernel, by decide +kernel⟩
  have hcloses : booking.HoldsDate "closes" := ⟨by decide, by decide +kernel, by decide +kernel⟩
  have hpaid : booking.HoldsDate "paid" := ⟨by decide, by decide +kernel, by decide +kernel⟩
  obtain ⟨hrules, hfields⟩ := after_and_before_are_one_order {} (fun _ => false) booking
  obtain ⟨hempty, -, -⟩ := hrules "paid" "closes" .null (by decide)
  obtain ⟨-, -, hdates⟩ := hrules "paid" "closes" (booking.read "paid") (by decide)
  obtain ⟨hafter, -⟩ := hdates ⟨1709195416, 0⟩ ⟨1709195415, 500000000⟩ (by decide +kernel)
    (by decide +kernel)
  have hlater := hafter.mpr (by decide)
  obtain ⟨hflip, htrans⟩ := hfields "paid" "closes" "opens" hpaid hcloses hopens
  exact ⟨hopens, hcloses, hpaid, by decide, (hempty rfl).2, hlater, hflip.mp hlater, htrans hlater⟩

end FieldRules
