import FieldRules.Proofs.EmptyValues
import FieldRules.Proofs.PatternArguments
import FieldRules.Proofs.SpecShapes
/-!
Lists within lists. The text of a list is that of its leaves, joined by commas, however deep they
lie; an empty list is a leaf without text. Rules that look at the text of a value therefore see the
leaves of a list and nothing of the lists around them (`nested_lists_read_as_their_leaves`).
-/

namespace FieldRules

/-! ### Text of leaves -/

theorem Text.joined_append (sep : String) {xs ys : List String} (hxs : xs ≠ []) (hys : ys ≠ []) :
    joined sep (xs ++ ys) = joined sep xs ++ sep ++ joined sep ys := by
  induction xs with
  | nil => exact absurd rfl hxs
  | cons s rest ih =>
    cases rest with
    | nil =>
      obtain ⟨t, more, rfl⟩ := List.exists_cons_of_ne_nil hys
      rfl
    | cons t more =>
      have hrest : joined sep (t :: more ++ ys) = joined sep (t :: more) ++ sep ++ joined sep ys :=
        ih (List.cons_ne_nil _ _)
      rw [List.cons_append, List.cons_append, joined, ← List.cons_append, hrest, joined]
      simp only [String.append_assoc]

namespace Value

mutual

/-- What a value holds at any depth in lists, from left to right. An empty list is a leaf, and so is
all that is no list. -/
def leaves : Value → List Value
  | list [] => [list []]
  | list (x :: rest) => leaves x ++ leavesOf rest
  | v => [v]

def leavesOf : List Value → List Value
  | [] => []
  | x :: rest => leaves x ++ leavesOf rest

end

theorem leavesOf_eq_flatMap (items : List Value) : leavesOf items = items.flatMap leaves := by
  induction items with
  | nil => rfl
  | cons x rest ih => rw [leavesOf, ih, List.flatMap_cons]

/-- The leaves of a list are those of its items in order, but an empty list is a leaf itself. -/
theorem leaves_list (items : List Value) :
    (list items).leaves = if items = [] then [list []] else items.flatMap leaves := by
  cases items with
  | nil => rfl
  | cons x rest =>
    rw [leaves, leavesOf_eq_flatMap, if_neg (List.cons_ne_nil _ _), List.flatMap_cons]

theorem leaves_ne_nil : ∀ v : Value, v.leaves ≠ []
  | list [] => List.cons_ne_nil _ _
  | list (x :: rest) => by
    rw [leaves]
    exact List.append_ne_nil_of_left_ne_nil (leaves_ne_nil x) _
  | null | bool _ | number _ | text _ | object _ => List.cons_ne_nil _ _

mutual

theorem toText_eq_joined_leaves : ∀ v : Value, v.toText = Text.joined "," (v.leaves.map toText)
  | list [] => rfl
  | list (x :: rest) => by
    have h := joined_texts (x :: rest)
    rwa [leavesOf] at h
  | null | bool _ | number _ | text _ | object _ => rfl

/-- Joining the texts of items, which are joined themselves, joins all of their leaves. -/
theorem joined_texts : ∀ items : List Value,
    Text.joined "," (texts items) = Text.joined "," ((leavesOf items).map toText)
  | [] => rfl
  | [x] => by
    rw [leavesOf, leavesOf, List.append_nil, ← toText_eq_joined_leaves x]
    rfl
  | x :: y :: rest => by
    have hx : x.leaves.map toText ≠ [] := by simp [leaves_ne_nil]
    have hy : (leavesOf (y :: rest)).map toText ≠ [] := by simp [leavesOf, leaves_ne_nil]
    rw [leavesOf, List.map_append, Text.joined_append _ hx hy, ← toText_eq_joined_leaves x,
      ← joined_texts (y :: rest)]
    rfl

end

/-- The value within this many lists that hold nothing else. -/
def wrapped (v : Value) : Nat → Value
  | 0 => v
  | depth + 1 => list [wrapped v depth]

theorem toText_wrapped (v : Value) (depth : Nat) : (v.wrapped depth).toText = v.toText := by
  induction depth with
  | zero => rfl
  | succ depth ih => exact ih

/-- The values have the same text, and both are `null` or neither is. -/
structure TextAlike (v w : Value) : Prop where
  text : v.toText = w.toText
  null : v.isNull = w.isNull

theorem textAlike_of_leaves {xs ys : List Value}
    (h : (list xs).leaves.map toText = (list ys).leaves.map toText) :
    (list xs).TextAlike (list ys) := by
  refine ⟨?_, rfl⟩
  rw [toText_eq_joined_leaves, h, ← toText_eq_joined_leaves]

theorem textAlike_wrapped {v : Value} (hv : v ≠ .null) (depth : Nat) :
    (v.wrapped depth).TextAlike v := by
  refine ⟨toText_wrapped v depth, ?_⟩
  cases depth with
  | zero => rfl
  | succ depth =>
    cases v with
    | null => exact absurd rfl hv
    | _ => rfl

end Value

/-! ### Rules that look at the text -/

/-- The rules that look at the text of a value, and otherwise only at whether it is `null`. -/
def Rule.lookingAtText : List Rule := [oneOf, noneOf, regex, digits, digitsBetween]

/-- No rule of this kind lets empty values skip all rules. -/
theorem FieldSpec.isNullable_of_lookingAtText {spec : FieldSpec}
    (htokens : ∀ t ∈ spec.tokens, ∃ rule ∈ Rule.lookingAtText, t.name = rule.text) :
    spec.isNullable = false := by
  rw [isNullable, ← Bool.not_eq_true, declares_iff]
  rintro ⟨t, ht, hname⟩
  obtain ⟨rule, hrule, hname'⟩ := htokens t ht
  obtain rfl := Rule.text_injective (hname'.symm.trans hname)
  exact absurd hrule (by decide)

section Alike

variable {v w : Value} (hvw : v.TextAlike w)
include hvw

theorem Check.digitCount?_of_textAlike : digitCount? v = digitCount? w := by
  rw [digitCount?, digitCount?, hvw.text]

theorem Rule.check_of_textAlike {rule : Rule} (hrule : rule ∈ lookingAtText) {i : Input}
    {p : Predicate} (h : rule.factory i = .ok p) (r s : Record) : p.check v r = p.check w s := by
  have hcount := Check.digitCount?_of_textAlike hvw
  cases rule with
  | oneOf | noneOf =>
    cases h
    simp only [Predicate.ofTest, hvw.text]
  | regex =>
    obtain ⟨-, -, h⟩ := exists_of_bind_eq_ok h
    dsimp only at h
    split at h
    · cases h
    · cases h
      simp only [Predicate.ofTest, hvw.text, hvw.null]
  | digits =>
    obtain ⟨bound, -, hp⟩ := exists_of_bind_eq_ok h
    cases hp
    simp only [Predicate.ofTest, hcount]
  | digitsBetween =>
    obtain ⟨lo, -, h⟩ := exists_of_bind_eq_ok h
    obtain ⟨hi, -, hp⟩ := exists_of_bind_eq_ok h
    cases hp
    simp only [hcount]
  | _ => exact absurd hrule (by decide)

/-- This also holds of what stands in for a pattern that cannot be read. -/
theorem Registry.check_of_textAlike {settings : Settings} {field : String} {numericField : Bool}
    {t : Token} {rule : Rule} (hrule : rule ∈ Rule.lookingAtText) (hname : t.name = rule.text)
    {p : Predicate} (h : (builtin.resolve settings field numericField t).predicate? = some p)
    (r s : Record) : p.check v r = p.check w s := by
  rw [resolve, factory?_builtin, hname, Rule.ofText?_text, Option.map_some] at h
  dsimp only at h
  cases hfactory : rule.factory (inputOf field numericField t) with
  | ok q =>
    rw [hfactory] at h
    cases h
    exact Rule.check_of_textAlike hvw hrule hfactory r s
  | error e =>
    rw [hfactory] at h
    rw [eq_unusablePattern_of_onError h]
    simp only [Check.unusablePattern, Predicate.ofTest, hvw.null]

theorem Engine.result_evaluateField_of_textAlike {settings : Settings} {field : String}
    {spec : FieldSpec} (hspec : spec.OnlyRules)
    (htokens : ∀ t ∈ spec.tokens, ∃ rule ∈ Rule.lookingAtText, t.name = rule.text) (r s : Record) :
    ((Engine.mk .builtin settings).evaluateField field v r (some spec)).result =
      ((Engine.mk .builtin settings).evaluateField field w s (some spec)).result := by
  rw [result_evaluateField, result_evaluateField]
  cases hbuild : ((Engine.mk .builtin settings).build field spec).result with
  | error e => rfl
  | ok built =>
    have hnullable : built.nullable = false := by
      rw [build, Registry.build_eq_ok_iff] at hbuild
      rw [hbuild.2]
      exact FieldSpec.isNullable_of_lookingAtText htokens
    have hfailure : built.firstFailure v r = built.firstFailure w s := by
      refine BuiltField.firstFailure_congr fun p hp => ?_
      obtain ⟨t, ht, hres⟩ := Registry.exists_token_of_mem_build hspec hbuild hp
      obtain ⟨rule, hrule, hname⟩ := htokens t ht
      exact Registry.check_of_textAlike hvw hrule hname hres r s
    simp only [Except.map, BuiltField.evaluate, BuiltField.skips, hnullable, hfailure,
      Bool.false_and]

end Alike

/-- No rule that looks at the text tells the values apart, whatever its arguments, its field and the
record are; nor does a field that has no other rules. -/
structure Value.AlikeToRules (v w : Value) : Prop where
  rule : ∀ rule ∈ Rule.lookingAtText, ∀ settings field numericField args r s answer,
    rule.Answers settings field numericField r args v answer ↔
      rule.Answers settings field numericField s args w answer
  field : ∀ settings field r s spec, spec.OnlyRules →
    (∀ t ∈ spec.tokens, ∃ rule ∈ Rule.lookingAtText, t.name = rule.text) →
    ((Engine.mk .builtin settings).evaluateField field v r (some spec)).result =
      ((Engine.mk .builtin settings).evaluateField field w s (some spec)).result

theorem Value.TextAlike.alikeToRules {v w : Value} (h : v.TextAlike w) : v.AlikeToRules w := by
  constructor
  · intro rule hrule settings field numericField args r s answer
    refine exists_congr fun p => and_congr_right fun hp => ?_
    rw [Registry.check_of_textAlike h hrule rfl (by rw [hp]; rfl) r s]
  · intro settings field r s spec hspec htokens
    exact Engine.result_evaluateField_of_textAlike h hspec htokens r s

/-- The text of a list is that of its leaves, in order, with commas between them. So lists whose
leaves have the same texts are alike to every rule that looks at the text, and so are a value other
than `null` and that value within lists of one item. -/
theorem nested_lists_read_as_their_leaves :
    (∀ items : List Value, (Value.list items).leaves =
      if items = [] then [.list []] else items.flatMap Value.leaves) ∧
    (∀ v : Value, (∀ items, v ≠ .list items) → v.leaves = [v]) ∧
    (∀ items : List Value, (Value.list items).toText =
      Text.joined "," ((Value.list items).leaves.map Value.toText)) ∧
    (∀ xs ys : List Value,
      (Value.list xs).leaves.map Value.toText = (Value.list ys).leaves.map Value.toText →
      (Value.list xs).AlikeToRules (.list ys)) ∧
    ∀ (v : Value) (depth : Nat), v ≠ .null →
      (v.wrapped depth).toText = v.toText ∧ (v.wrapped depth).AlikeToRules v := by
  refine ⟨Value.leaves_list, fun v hv => ?_, fun items => Value.toText_eq_joined_leaves _,
    fun xs ys h => (Value.textAlike_of_leaves h).alikeToRules, fun v depth hv => ?_⟩
  · cases v with
    | list items => exact absurd rfl (hv items)
    | _ => rfl
  · have h := Value.textAlike_wrapped hv depth
    exact ⟨h.text, h.alikeToRules⟩

/-- Two lists of three leaves, two of which have no text, and a digit within three lists. -/
theorem nested_lists_read_as_their_leaves_of_tags :
    let xs := [Value.list [.text "a", .list []], .null]
    let ys := [Value.text "a", .list [.text "", .list [.list [.text ""]]]]
    let seven := Value.number (.int 7)
    let evaluate := fun v text => ((Engine.mk .builtin {}).evaluateField "tags" v .empty
      (some (.rules text))).result
    (Value.list xs).leaves.map Value.toText = (Value.list ys).leaves.map Value.toText ∧
      (Value.list xs).toText = "a,," ∧ evaluate (.list xs) "not_in:a|regex:^a,,$" = .ok none ∧
      evaluate (.list ys) "not_in:a|regex:^a,,$" = .ok none ∧
      seven ≠ .null ∧ evaluate (seven.wrapped 3) "digits:1" = .ok none := by
  intro xs ys seven evaluate
  obtain ⟨-, -, htext, halike, hwrapped⟩ := nested_lists_read_as_their_leaves
  have hleaves : (Value.list xs).leaves.map Value.toText =
      (Value.list ys).leaves.map Value.toText := by decide
  have hxs : evaluate (.list xs) "not_in:a|regex:^a,,$" = .ok none := by decide +kernel
  have hdigit : evaluate seven "digits:1" = .ok none := by decide +kernel
  have hseven : seven ≠ .null := nofun
  have hlists := (halike xs ys hleaves).field {} "tags" .empty .empty
    (.rules "not_in:a|regex:^a,,$") trivial (by decide)
  have hdigits := (hwrapped seven 3 hseven).2.field {} "tags" .empty .empty (.rules "digits:1")
    trivial (by decide)
  exact ⟨hleaves, (htext xs).trans (by decide), hxs, hlists.symm.trans hxs, hseven,
    hdigits.trans hdigit⟩

/-- A pattern passes `null` whatever it is, but not a list that holds `null`. -/
example :
    let evaluate := fun v => ((Engine.mk .builtin {}).evaluateField "tags" v .empty
      (some (.rules "regex:a"))).result
    evaluate .null = .ok none ∧ evaluate (.list [.null]) = .ok (some "Invalid format.") := by
  decide +kernel

end FieldRules
