import FieldRules.Proofs.DateCommas
import FieldRules.Proofs.DateOrder
import FieldRules.Proofs.PatternArguments
/-!
Literal dates in rule strings. The argument of `after` and `before` is cut at commas and only the
first piece is looked at. A date without a comma is one piece and is the bound that a value is
compared with; of any other date the piece before the first comma is left, which is no date and so
the name of a field (`date_literals_of_rule_strings`).
-/

namespace FieldRules

/-! ### The first argument of a comparison -/

/-- Arguments without a comma are one argument. -/
theorem Token.argsOf_of_not_mem {cs : List Char} (hcomma : ',' ∉ cs)
    (hvisible : Text.trim cs ≠ []) :
    (argsOf cs).map String.ofList = [String.ofList (Text.trim cs)] := by
  rw [argsOf, if_neg hvisible, Text.split_of_not_mem hcomma, List.map_singleton,
    List.map_singleton]

/-- The first argument ends at the first comma. -/
theorem Token.exists_argsOf_append {x y : List Char} (hx : ',' ∉ x)
    (hvisible : Text.trim (x ++ ',' :: y) ≠ []) :
    ∃ rest, (argsOf (x ++ ',' :: y)).map String.ofList = String.ofList (Text.trim x) :: rest := by
  rw [argsOf, if_neg hvisible, Text.split_append_sep, Text.split_of_not_mem hx,
    List.singleton_append, List.map_cons, List.map_cons]
  exact ⟨_, rfl⟩

namespace Rule.Orders

variable {rule : Rule} {R : Calendar.Instant → Calendar.Instant → Prop} {text a : String}
  {rest : List String}

variable (hrule : rule.Orders R) (ha : a ≠ "")
  (htoken : Token.ofText text = [⟨rule.text, a :: rest⟩])

include hrule ha htoken

theorem references_eq (field : String) : (FieldSpec.rules text).references field =
    if (Calendar.instantOfText? a).isSome then [] else [a] := by
  have hfirst : FieldSpec.firstText? ⟨rule.text, a :: rest⟩ = some a := by
    simp [FieldSpec.firstText?, ha]
  have hreads : FieldSpec.reads? field ⟨rule.text, a :: rest⟩ =
      (some a).filter fun b => (Calendar.instantOfText? b).isNone := by
    rw [← hfirst, FieldSpec.reads?, Token.rule?, Rule.ofText?_text]
    cases hrule <;> rfl
  rw [FieldSpec.references, FieldSpec.tokens, htoken, List.filterMap_cons, hreads]
  cases hlit : Calendar.instantOfText? a <;> simp [Option.filter, hlit, List.eraseDups_cons]

/-- The comparison is the one rule of the field, and passes where there is a bound in order. -/
theorem exists_build (settings : Settings) (field : String) :
    let e : Engine := ⟨.builtin, settings⟩
    (∃ p, (e.build field (.rules text)).result = .ok ⟨[p], false⟩) ∧
      ∀ v record x, Check.instant? v = some x →
        ((e.evaluateField field v record (some (.rules text))).result = .ok none ↔
          ∃ y, Check.bound? a record = some y ∧ R x y) := by
  intro e
  have hnullable : rule.text ≠ Rule.nullable.text := by cases hrule <;> decide
  obtain ⟨p, name, holds, hp, hcompares, hR⟩ :=
    hrule.exists_compares ha field (FieldSpec.rules text).isNumeric rest
  have hbuilt : (e.build field (.rules text)).result = .ok ⟨[p], false⟩ := by
    rw [Engine.build, Registry.result_build_of_token settings field htoken hnullable,
      Registry.resolve_eq_kept hp]
    rfl
  refine ⟨⟨p, hbuilt⟩, fun v record x hx => ?_⟩
  rw [Engine.result_evaluateField_of_single hbuilt, Except.ok.injEq]
  cases hy : Check.bound? a record with
  | none =>
    have hv : v.isEmpty = false := Bool.eq_false_iff.mpr fun hv => by
      rw [Check.instant?_of_isEmpty hv] at hx
      cases hx
    simp [hcompares.ofNoDate hv (.inr hy)]
  | some y => simp [hcompares.check_eq_none_iff hx hy, hR]

end Rule.Orders

/-! ### Literal dates -/

namespace Calendar

theorem exists_form_of_instantOfText? {s : String} {t : Instant} (h : instantOfText? s = some t) :
    Text.trim s.toList ≠ [] ∧ ∃ f ∈ forms, ∃ d, f (Text.trim s.toList) = some d := by
  obtain ⟨hne, h⟩ := Option.ite_none_left_eq_some.mp h
  obtain ⟨f, hf, hform⟩ := List.exists_of_findSome?_eq_some h
  obtain ⟨d, hd, -⟩ := Option.bind_eq_some_iff.mp hform
  exact ⟨hne, f, hf, d, hd⟩

theorem instantOfText?_trim (cs : List Char) :
    instantOfText? (String.ofList (Text.trim cs)) = instantOfText? (String.ofList cs) := by
  rw [instantOfText?, instantOfText?, String.toList_ofList, String.toList_ofList, Text.trim_trim]

/-- The piece before the first comma of a date names a field. -/
theorem instantOfText?_before_comma {s : String} {t : Instant} (h : instantOfText? s = some t)
    {x y : List Char} (hx : ',' ∉ x) (hs : s.toList = x ++ ',' :: y) :
    String.ofList (Text.trim x) ≠ "" ∧ instantOfText? (String.ofList (Text.trim x)) = none := by
  obtain ⟨-, f, hf, d, hd⟩ := exists_form_of_instantOfText? h
  obtain ⟨l, x', y', r, hl, -, hcut, rfl, rfl⟩ :=
    Text.splitOnce_trim (by decide) (hs ▸ Text.splitOnce_append_sep hx y)
  obtain ⟨htrim, hx'⟩ := Text.eq_append_of_splitOnce_eq_some hcut
  obtain ⟨hne, hnone⟩ := not_date_before_comma hx' hf (htrim ▸ hd)
  have hpad := Text.trim_padding hl (rfl : Text.allBlank [] = true) x'
  rw [List.append_nil] at hpad
  rw [hpad, instantOfText?, String.toList_ofList, Text.trim_trim, if_neg hne]
  refine ⟨fun hempty => hne (String.ofList_eq_empty_iff.mp hempty), ?_⟩
  exact List.findSome?_eq_none_iff.mpr fun g hg => by rw [hnone g hg, Option.bind_none]

end Calendar

/-- A date without a comma is the bound of a comparison, which then refers to no field. Any other
date is cut at its first comma: the comparison refers to the field that the piece before it names,
and the date is no bound. -/
theorem date_literals_of_rule_strings {rule : Rule}
    {R : Calendar.Instant → Calendar.Instant → Prop} (hrule : rule.Orders R) {d : String}
    {t : Calendar.Instant} (hbar : '|' ∉ d.toList) (hd : Calendar.instantOfText? d = some t)
    (settings : Settings) (field : String) :
    let spec : FieldSpec := .rules (rule.text ++ ":" ++ d)
    let e : Engine := ⟨.builtin, settings⟩
    let passes := fun v record => (e.evaluateField field v record (some spec)).result = .ok none
    (',' ∉ d.toList →
      (∃ p, (e.build field spec).result = .ok ⟨[p], false⟩) ∧ spec.references field = [] ∧
      ∀ v record x, Check.instant? v = some x → (passes v record ↔ R x t)) ∧
    ∀ first others, ',' ∉ first → d.toList = first ++ ',' :: others →
      let name := String.ofList (Text.trim first)
      Calendar.instantOfText? name = none ∧
      (∃ p, (e.build field spec).result = .ok ⟨[p], false⟩) ∧ spec.references field = [name] ∧
      ∀ v record x, Check.instant? v = some x →
        (passes v record ↔ ∃ y, Check.instant? (record.read name) = some y ∧ R x y) := by
  intro spec e passes
  have htoken := Token.ofText_rule rule hbar
  obtain ⟨hvisible, -⟩ := Calendar.exists_form_of_instantOfText? hd
  constructor
  · intro hcomma
    have hname : String.ofList (Text.trim d.toList) ≠ "" := fun hempty =>
      hvisible (String.ofList_eq_empty_iff.mp hempty)
    have hlit : Calendar.instantOfText? (String.ofList (Text.trim d.toList)) = some t := by
      rw [Calendar.instantOfText?_trim, String.ofList_toList, hd]
    rw [Token.argsOf_of_not_mem hcomma hvisible] at htoken
    obtain ⟨hbuilt, hpasses⟩ := hrule.exists_build hname htoken settings field
    refine ⟨hbuilt, ?_, fun v record x hx => (hpasses v record x hx).trans ?_⟩
    · rw [hrule.references_eq hname htoken, hlit]
      rfl
    · simp [Check.bound?, hlit]
  · intro first others hfirst hsplit name
    obtain ⟨hname, hlit⟩ := Calendar.instantOfText?_before_comma hd hfirst hsplit
    rw [hsplit] at hvisible htoken
    obtain ⟨rest, hargs⟩ := Token.exists_argsOf_append hfirst hvisible
    rw [hargs] at htoken
    obtain ⟨hbuilt, hpasses⟩ := hrule.exists_build hname htoken settings field
    refine ⟨hlit, hbuilt, ?_, fun v record x hx => (hpasses v record x hx).trans ?_⟩
    · rw [hrule.references_eq hname htoken, hlit]
      rfl
    · rw [Check.bound?_of_not_literal hlit]

/-- A deadline with an offset, whose text has colons, hyphens and a plus sign in it. -/
theorem date_literal_with_offset :
    let d := " 2024-02-29T10:30:15.5+02:00"
    let spec : FieldSpec := .rules (Rule.before.text ++ ":" ++ d)
    '|' ∉ d.toList ∧ Calendar.instantOfText? d = some ⟨1709195415, 500000000⟩ ∧
      spec.references "paid" = [] ∧
      Check.instant? (.text "2024-02-29 08:30:15") = some ⟨1709195415, 0⟩ ∧
      (Engine.evaluateField ⟨.builtin, {}⟩ "paid" (.text "2024-02-29 08:30:15") .empty
        (some spec)).result = .ok none := by
  intro d spec
  have hbar : '|' ∉ d.toList := by decide
  have hread : Calendar.instantOfText? d = some ⟨1709195415, 500000000⟩ := by decide +kernel
  have hvalue : Check.instant? (.text "2024-02-29 08:30:15") = some ⟨1709195415, 0⟩ := by
    decide +kernel
  obtain ⟨hwhole, -⟩ := date_literals_of_rule_strings .before hbar hread {} "paid"
  obtain ⟨-, hreferences, hpasses⟩ := hwhole (by decide)
  exact ⟨hbar, hread, hreferences, hvalue, (hpasses _ _ _ hvalue).mpr (by decide)⟩

/-- A mail date is read as a date, and a later day is not accepted as later than it: the comparison
looks for a field with the name of the weekday. -/
theorem mail_date_lost_at_comma :
    let d := "Thu, 29 Feb 2024 10:30:15 +0000"
    let spec : FieldSpec := .rules (Rule.after.text ++ ":" ++ d)
    '|' ∉ d.toList ∧ Calendar.instantOfText? d = some ⟨1709202615, 0⟩ ∧
      Check.instant? (.text "2024-03-01") = some ⟨1709251200, 0⟩ ∧
      (⟨1709202615, 0⟩ : Calendar.Instant) < ⟨1709251200, 0⟩ ∧
      spec.references "paid" = ["Thu"] ∧
      (Engine.evaluateField ⟨.builtin, {}⟩ "paid" (.text "2024-03-01") .empty (some spec)).result =
        .ok (some "Invalid date.") := by
  decide +kernel

end FieldRules
