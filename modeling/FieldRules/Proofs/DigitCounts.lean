import FieldRules.Proofs.Candidates
import FieldRules.Proofs.NumberReading
/-!
Numbers of digits. The text of a whole number is its decimal digits after a sign, and how many of
them there are is a matter of powers of ten. So `digits` asks of a number that it is not negative
and lies between two of these, and of text that it is that many digits and nothing else
(`digits_counts_decimal_digits`).
-/

attribute [local instance (high)] instPowNat

namespace FieldRules

/-! ### Decimal digits of whole numbers -/

/-- The integer is not negative and is written with this many decimal digits; zero is one digit. -/
def HasDigits (k : Nat) (n : Int) : Prop :=
  ∃ m : Nat, n = m ∧ (10 ^ (k - 1) ≤ m ∧ m < 10 ^ k ∨ m = 0 ∧ k = 1)

theorem length_toDigits_eq_iff {k : Nat} (hk : 1 ≤ k) (n : Nat) :
    (Nat.toDigits 10 n).length = k ↔ 10 ^ (k - 1) ≤ n ∧ n < 10 ^ k ∨ n = 0 ∧ k = 1 := by
  have hpos : 0 < (Nat.toDigits 10 n).length := List.length_pos_iff.mpr Nat.toDigits_ne_nil
  have hle : (Nat.toDigits 10 n).length ≤ k ↔ n < 10 ^ k :=
    Nat.length_toDigits_le_iff (by decide) hk
  obtain ⟨j, rfl⟩ := Nat.exists_eq_add_of_le' hk
  rw [Nat.add_sub_cancel]
  cases j with
  | zero => omega
  | succ j =>
    have hlt : (Nat.toDigits 10 n).length ≤ j + 1 ↔ n < 10 ^ (j + 1) :=
      Nat.length_toDigits_le_iff (by decide) (Nat.succ_pos j)
    omega

theorem Binary64.natAbs_value (x : Binary64) : x.value.natAbs = x.units := by
  rw [value]
  split_ifs
  · rw [Int.natAbs_neg, Int.natAbs_natCast]
  · rw [Int.natAbs_natCast]

/-- The number stands for an integer, and is below 10^15 if it is a fraction by its type. -/
def Number.IsWhole : Number → Int → Prop
  | int i, n => i = n
  | float x, n => x.value = n * Binary64.one ∧ n.natAbs < 10 ^ (15 : Nat)

/-- A whole number is written as the integer that it stands for, without a sign of zero. -/
theorem Number.IsWhole.toText_eq {m : Number} {n : Int} (h : m.IsWhole n) :
    (Value.number m).toText = signedText n := by
  cases m with
  | int i => exact congrArg signedText h
  | float x =>
    obtain ⟨hvalue, hsmall⟩ := h
    have hunits : x.units = n.natAbs * Binary64.one := by
      rw [← Binary64.natAbs_value, hvalue, Int.natAbs_mul, Int.natAbs_natCast]
    have htrunc : x.trunc = n := by
      have hone : (Binary64.one : Int) ≠ 0 := Int.natCast_ne_zero.mpr Binary64.one_pos.ne'
      rw [Binary64.trunc, hvalue, Int.mul_tdiv_cancel _ hone]
    have hintegral : x.isIntegral = true := by
      rw [Binary64.isIntegral, hunits, Nat.mul_mod_left]
      rfl
    have hshown : x.shown = signedText x.trunc :=
      if_pos ⟨hintegral, hunits.trans_lt (Nat.mul_lt_mul_of_pos_right hsmall Binary64.one_pos)⟩
    exact hshown.trans (congrArg signedText htrunc)

/-! ### Counting -/

namespace Check

theorem digitCount?_text_iff {k : Nat} (hk : 1 ≤ k) (s : String) :
    digitCount? (.text s) = some k ↔ s.length = k ∧ ∀ c ∈ s.toList, c.isDigit = true := by
  have htext : (Value.text s).toText = s := rfl
  rw [digitCount?, htext, ← String.length_toList, Option.ite_none_right_eq_some, List.all_eq_true,
    Option.some.injEq]
  constructor
  · rintro ⟨⟨-, hdigits⟩, hlength⟩
    exact ⟨hlength, hdigits⟩
  · rintro ⟨hlength, hdigits⟩
    exact ⟨⟨List.ne_nil_of_length_pos (hlength ▸ hk), hdigits⟩, hlength⟩

/-- The digits of a number that is not negative are as many as its powers of ten say; a minus sign
is no digit. -/
theorem digitCount?_signedText_iff {k : Nat} (hk : 1 ≤ k) (n : Int) :
    digitCount? (.text (signedText n)) = some k ↔ HasDigits k n := by
  rw [digitCount?_text_iff hk, ← String.length_toList, HasDigits]
  cases n with
  | ofNat m =>
    have hlist : (signedText (Int.ofNat m)).toList = Nat.toDigits 10 m := by
      have hsign : ¬ Int.ofNat m < 0 := Int.not_lt.mpr (Int.natCast_nonneg m)
      rw [signedText, if_neg hsign, decimalText, String.toList_ofList]
      rfl
    rw [hlist, length_toDigits_eq_iff hk]
    constructor
    · rintro ⟨hbounds, -⟩
      exact ⟨m, rfl, hbounds⟩
    · rintro ⟨m', hm, hbounds⟩
      obtain rfl : m = m' := Int.ofNat.inj hm
      exact ⟨hbounds, isDigit_toDigits m⟩
  | negSucc m =>
    have hsign : '-' ∈ (signedText (Int.negSucc m)).toList := by
      simp [signedText]
    constructor
    · rintro ⟨-, hdigits⟩
      exact absurd (hdigits '-' hsign) (by decide)
    · rintro ⟨m', hm, -⟩
      exact absurd hm (by omega)

theorem any_digitCount?_iff {x : Binary64} {k : Nat} (hx : x.value = k * Binary64.one) (v : Value) :
    ((digitCount? v).any fun n => ofCount n == x.value) = true ↔ digitCount? v = some k := by
  have hone : (Binary64.one : Int) ≠ 0 := Int.natCast_ne_zero.mpr Binary64.one_pos.ne'
  have hcount : ∀ n : Nat, ofCount n = x.value ↔ n = k := fun n => by
    rw [hx, ofCount, Int.mul_eq_mul_right_iff hone, Int.natCast_inj]
  cases digitCount? v with
  | none => simp
  | some n => rw [Option.any_some, beq_iff_eq, hcount, Option.some.injEq]

end Check

/-! ### The argument -/

theorem PlainDecimal.exists_count {k : Nat} {a : String} (ha : PlainDecimal k a)
    (hk : k < 2 ^ (53 : Nat)) :
    ∃ x, Binary64.ofText? a = some x ∧ x.value = k * Binary64.one := by
  obtain ⟨x, hx, hvalue⟩ := ha.exists_ofText? ⟨by omega, by omega⟩
  exact ⟨x, hx, hvalue.trans (Binary64.nearestUnits_of_small (by omega))⟩

/-- An integer that is written out is one tight argument. -/
theorem PlainDecimal.canonical {n : Int} {a : String} (ha : PlainDecimal n a) (rule : Rule) :
    Token.Canonical ⟨rule.text, [a]⟩ := by
  obtain ⟨sign, ds, hs, hne, hdigits, hvalue⟩ := ha
  have hsign : ∀ c ∈ sign, c = '+' ∨ c = '-' := by
    rcases hvalue with ⟨rfl | rfl, -⟩ | ⟨rfl, -⟩ <;> simp
  have hchars : ∀ c ∈ a.toList, Text.isBlank c = false ∧ c ≠ '|' ∧ c ≠ ',' := by
    intro c hc
    rw [hs, List.mem_append] at hc
    rcases hc with hc | hc
    · rcases hsign c hc with rfl | rfl <;> decide
    · refine ⟨Text.isBlank_of_isDigit (hdigits c hc), ?_, ?_⟩ <;>
        · rintro rfl
          exact absurd (hdigits _ hc) (by decide)
  refine Token.canonical_of_candidates rule (List.forall_mem_singleton.mpr ⟨?_, ?_, ?_⟩) ?_
  · rw [Text.trimmed, Text.trim_eq_self_of_forall fun c hc => (hchars c hc).1, String.ofList_toList]
  · exact fun hbar => (hchars _ hbar).2.1 rfl
  · exact fun hcomma => (hchars _ hcomma).2.2 rfl
  · rintro ⟨⟩
    exact hne (List.append_eq_nil_iff.mp hs.symm).2

/-! ### The rule -/

/-- `digits` with a whole number below 2^53, for a field and as a token anywhere. A number passes if
it has that many decimal digits, integers exactly and whole fractions up to 10^15; text passes if it
is that many digits and nothing else. So an integer gets the answer of its decimal text. -/
theorem digits_counts_decimal_digits (settings : Settings) (field : String) (record : Record)
    {k : Nat} (hk : 1 ≤ k) (hsmall : k < 2 ^ (53 : Nat)) {a : String} (ha : PlainDecimal k a) :
    let evaluate := fun v => ((Engine.mk .builtin settings).evaluateField field v record
      (some (.rules (Rule.digits.text ++ ":" ++ a)))).result
    let passes := fun v => evaluate v = .ok none
    (∃ message, ∀ v, passes v ∨ evaluate v = .ok (some message)) ∧
    (∀ (m : Number) n, m.IsWhole n → (passes (.number m) ↔ HasDigits k n)) ∧
    (∀ s, passes (.text s) ↔ s.length = k ∧ ∀ c ∈ s.toList, c.isDigit = true) ∧
    (∀ (m : Number) n, m.IsWhole n → evaluate (.number m) = evaluate (.text (signedText n))) ∧
    ∀ numericField v, Rule.digits.Passes settings field numericField record [a] v ↔ passes v := by
  intro evaluate passes
  obtain ⟨x, hx, hvalue⟩ := ha.exists_count hsmall
  have hfactory : ∀ numericField,
      Rule.digits.factory (Registry.inputOf field numericField ⟨Rule.digits.text, [a]⟩) =
        .ok (.ofTest "digits" ("Must be " ++ x.shown ++ " digits.") fun v =>
          (Check.digitCount? v).any fun n => Check.ofCount n == x.value) := fun numericField => by
    rw [Rule.factory, Check.digits, Registry.number_inputOf (n := 0) rfl hx]
    rfl
  have hevaluate : ∀ v, evaluate v = .ok
      (if (Check.digitCount? v).any fun n => Check.ofCount n == x.value then none
        else some ("Must be " ++ x.shown ++ " digits.")) := fun v =>
    Engine.result_evaluateField_of_test (ha.canonical .digits) (by decide) hfactory v record
  have hanswers := fun v => answers_of_test (hevaluate v) (Check.any_digitCount?_iff hvalue v)
  have hpasses : ∀ v, passes v ↔ Check.digitCount? v = some k := fun v => (hanswers v).1
  -- the rule sees nothing of a value but its text
  have hsame : ∀ (m : Number) n, m.IsWhole n →
      Check.digitCount? (.number m) = Check.digitCount? (.text (signedText n)) := fun m n h => by
    rw [Check.digitCount?, h.toText_eq]
    rfl
  refine ⟨⟨"Must be " ++ x.shown ++ " digits.", fun v => ?_⟩, fun m n h => ?_, fun s => ?_,
    fun m n h => ?_, fun numericField v => ?_⟩
  · exact (Classical.em _).imp (hpasses v).mpr (hanswers v).2
  · rw [hpasses, hsame m n h, Check.digitCount?_signedText_iff hk]
  · rw [hpasses, Check.digitCount?_text_iff hk]
  · rw [hevaluate, hevaluate, hsame m n h]
  · rw [Rule.passes_iff (hfactory numericField), Predicate.check_ofTest_eq_none_iff, hpasses,
      Check.any_digitCount?_iff hvalue]

/-- The largest integer of a document and its text, and one digit: zero with a sign is one, and a
negative number has none. -/
theorem digits_counts_decimal_digits_at_ends :
    let evaluate := fun a v => ((Engine.mk .builtin {}).evaluateField "code" v .empty
      (some (.rules (Rule.digits.text ++ ":" ++ a)))).result
    PlainDecimal (20 : Nat) "20" ∧ PlainDecimal (1 : Nat) "+01" ∧
      evaluate "20" (.number (.int 18446744073709551615)) = .ok none ∧
      evaluate "20" (.text "18446744073709551615") = .ok none ∧
      (Number.float (.zero true)).IsWhole 0 ∧
      evaluate "+01" (.number (.float (.zero true))) = .ok none ∧
      evaluate "+01" (.number (.int (-1))) ≠ .ok none := by
  intro evaluate
  have htwenty : PlainDecimal (20 : Nat) "20" :=
    ⟨[], ['2', '0'], rfl, by decide, List.all_eq_true.mp rfl, Or.inl ⟨Or.inl rfl, by decide⟩⟩
  have hone : PlainDecimal (1 : Nat) "+01" :=
    ⟨['+'], ['0', '1'], rfl, by decide, List.all_eq_true.mp rfl,
      Or.inl ⟨Or.inr rfl, by decide⟩⟩
  obtain ⟨-, hlargest, htext, -⟩ :=
    digits_counts_decimal_digits {} "code" .empty (by decide) (by decide) htwenty
  obtain ⟨-, hsingle, -⟩ :=
    digits_counts_decimal_digits {} "code" .empty (by decide) (by decide) hone
  have hzero : (Number.float (.zero true)).IsWhole 0 := ⟨(Int.zero_mul _).symm, by decide⟩
  refine ⟨htwenty, hone, ?_, (htext _).mpr ⟨by decide, List.all_eq_true.mp (by decide)⟩, hzero, ?_, ?_⟩
  · exact (hlargest (.int 18446744073709551615) _ rfl).mpr
      ⟨18446744073709551615, rfl, Or.inl (by decide)⟩
  · exact (hsingle _ 0 hzero).mpr ⟨0, rfl, Or.inr ⟨rfl, rfl⟩⟩
  · intro hpasses
    obtain ⟨m, hm, -⟩ := (hsingle (.int (-1)) (-1) rfl).mp hpasses
    omega

end FieldRules
