import Mathlib.Data.List.TakeDrop
import FieldRules.Proofs.SizeRules
import FieldRules.Proofs.Splitting
/-!
Integers against integer bounds. Both are rounded to 64 bits before they are compared, so a bound
sees two integers as equal when they have the same nearest number, and otherwise as the integers
they are (`integer_bounds_compare_rounded`). Only integers beyond 2^53 can be confused in that way.
-/

attribute [local instance (high)] instPowNat

namespace FieldRules

/-! ### Plain decimal text -/

/-- Text that writes an integer with digits alone, after a sign or without one. -/
def PlainDecimal (n : Int) (s : String) : Prop :=
  ∃ sign ds, s.toList = sign ++ ds ∧ ds ≠ [] ∧ (∀ c ∈ ds, c.isDigit = true) ∧
    ((sign = [] ∨ sign = ['+']) ∧ n = digitsValue ds ∨ sign = ['-'] ∧ n = -(digitsValue ds : Int))

theorem digitsValue_toDigits (n : Nat) : digitsValue (Nat.toDigits 10 n) = n :=
  Nat.ofDigitChars_toDigits (by decide) (by decide)

theorem isDigit_toDigits (n : Nat) : ∀ c ∈ Nat.toDigits 10 n, c.isDigit = true :=
  fun _ hc => Nat.isDigit_of_mem_toDigits (by decide) (by decide) hc

/-- The integers that are written out are plain decimals. -/
theorem plainDecimal_signedText (n : Int) : PlainDecimal n (signedText n) := by
  have hdigits := isDigit_toDigits n.natAbs
  have hne : Nat.toDigits 10 n.natAbs ≠ [] := Nat.toDigits_ne_nil
  rw [signedText, decimalText]
  split_ifs with hn
  · refine ⟨['-'], _, ?_, hne, hdigits, Or.inr ⟨rfl, ?_⟩⟩
    · simp
    · rw [digitsValue_toDigits]
      omega
  · refine ⟨[], _, ?_, hne, hdigits, Or.inl ⟨Or.inl rfl, ?_⟩⟩
    · simp
    · rw [digitsValue_toDigits]
      omega

/-! ### Reading plain decimals -/

theorem spanDigits_of_all {ds : List Char} (h : ∀ c ∈ ds, c.isDigit = true) :
    spanDigits ds = (ds, []) := by
  rw [spanDigits, List.span_eq_takeWhile_dropWhile, List.takeWhile_eq_self_iff.mpr h,
    List.dropWhile_eq_nil_iff.mpr h]

theorem Decimal.ofChars?_of_digits {sign ds : List Char} {negative : Bool}
    (hsign : spanSign (sign ++ ds) = (negative, ds)) (hne : ds ≠ [])
    (hdigits : ∀ c ∈ ds, c.isDigit = true) :
    ofChars? (sign ++ ds) = some ⟨negative, digitsValue ds, 0⟩ := by
  simp [ofChars?, hsign, spanDigits_of_all hdigits, hne, exponent?]

/-- A digit is not a sign. -/
theorem spanSign_cons {c : Char} (hc : c.isDigit = true) (rest : List Char) :
    spanSign (c :: rest) = (false, c :: rest) := by
  rw [spanSign]
  · rintro rest ⟨⟩
    cases hc
  · rintro rest ⟨⟩
    cases hc

/-- Digits are read without a sign. -/
theorem spanSign_digits {ds : List Char} (hdigits : ∀ c ∈ ds, c.isDigit = true) :
    spanSign ds = (false, ds) := by
  cases ds with
  | nil => rfl
  | cons c ds => exact spanSign_cons (hdigits c List.mem_cons_self) ds

/-- Whole digits are read as the number nearest to the integer that they write. -/
theorem Binary64.exists_ofDecimal? {digits : Nat} (negative : Bool)
    (hrange : rounded (digits * one) < beyond) :
    ∃ x, ofDecimal? negative digits 0 = some x ∧
      x.value = nearestUnits (if negative then -(digits : Int) else digits) := by
  by_cases hzero : digits = 0
  · subst hzero
    refine ⟨zero negative, by rw [ofDecimal?, if_pos rfl], ?_⟩
    have hsign : (if negative then -((0 : Nat) : Int) else (0 : Nat)) = 0 := by simp
    rw [hsign, nearestUnits_of_small (by decide), Int.zero_mul]
    cases negative <;> rfl
  · obtain ⟨x, hx, hsign, hunits⟩ := exists_nearest? negative hrange
    refine ⟨x, ?_, ?_⟩
    · rw [ofDecimal?, if_neg hzero, if_neg (by decide), if_neg (by omega), if_pos (by decide),
        Int.toNat_zero, Nat.pow_zero, Nat.mul_one, hx]
    · rw [value, hsign, hunits, nearestUnits]
      cases negative with
      | false =>
        have hsigned : ¬ (digits : Int) < 0 := by omega
        simp only [Bool.false_eq_true, if_false, if_neg hsigned, Int.natAbs_natCast]
      | true =>
        have hsigned : -(digits : Int) < 0 := by omega
        simp only [if_true, if_pos hsigned, Int.natAbs_neg, Int.natAbs_natCast]

theorem PlainDecimal.exists_ofText? {n : Int} {s : String} (h : PlainDecimal n s)
    (hn : Number.InRange n) :
    ∃ x, Binary64.ofText? s = some x ∧ x.value = Binary64.nearestUnits n := by
  obtain ⟨sign, ds, hs, hne, hdigits, hvalue⟩ := h
  obtain ⟨negative, hspan, hplain, rfl⟩ : ∃ negative, spanSign (sign ++ ds) = (negative, ds) ∧
      (∀ c ∈ sign, Text.isBlank c = false) ∧
      n = if negative then -(digitsValue ds : Int) else digitsValue ds := by
    rcases hvalue with ⟨rfl | rfl, hvalue⟩ | ⟨rfl, hvalue⟩
    · exact ⟨false, spanSign_digits hdigits, nofun, hvalue⟩
    · exact ⟨false, rfl, List.forall_mem_singleton.mpr rfl, hvalue⟩
    · exact ⟨true, rfl, List.forall_mem_singleton.mpr rfl, hvalue⟩
  have htrim : Text.trim (sign ++ ds) = sign ++ ds := by
    refine Text.trim_eq_self_of_forall fun c hc => ?_
    rcases List.mem_append.mp hc with hc | hc
    · exact hplain c hc
    · exact Text.isBlank_of_isDigit (hdigits c hc)
  have hrange : Binary64.rounded (digitsValue ds * Binary64.one) < Binary64.beyond := by
    refine Binary64.rounded_mul_one_lt_beyond (k := 64) ?_ (by decide)
    obtain ⟨hlo, hhi⟩ := hn
    split_ifs at hlo hhi <;> omega
  obtain ⟨x, hx, hvalue⟩ := Binary64.exists_ofDecimal? negative hrange
  refine ⟨x, ?_, hvalue⟩
  rw [Binary64.ofText?, hs, htrim, Decimal.ofChars?_of_digits hspan hne hdigits]
  exact hx

/-! ### Comparisons -/

/-- The two integers have the same nearest number of 64 bits. -/
def SameNearest (m n : Int) : Prop := Binary64.ofInt? m = Binary64.ofInt? n

/-- Rounded integers are ordered as the integers are, but for those that are rounded to the same. -/
theorem nearestUnits_le_iff {m n : Int} (hm : Number.InRange m) (hn : Number.InRange n) :
    Binary64.nearestUnits m ≤ Binary64.nearestUnits n ↔ m ≤ n ∨ SameNearest m n := by
  rw [SameNearest, Binary64.ofInt?_eq_iff_nearestUnits hm hn]
  constructor
  · intro h
    rcases Int.le_total m n with hle | hge
    · exact Or.inl hle
    · exact Or.inr (Int.le_antisymm h (Binary64.nearestUnits_mono hge))
  · rintro (hle | heq)
    · exact Binary64.nearestUnits_mono hle
    · exact Int.le_of_eq heq

/-- An integer is a value, or a text that writes it on a field that reads text by value. -/
def Value.IsInteger (byValue : Bool) (n : Int) : Value → Prop
  | .number (.int m) => m = n
  | .text s => byValue = true ∧ PlainDecimal n s
  | _ => False

theorem Value.IsInteger.by_value {byValue : Bool} {n : Int} {v : Value}
    (h : v.IsInteger byValue n) : v.IsInteger true n := by
  cases v with
  | text s => exact ⟨rfl, h.2⟩
  | number m => cases m <;> exact h
  | null | bool | list | object => cases h

theorem Value.IsInteger.amount?_eq {byValue : Bool} {n : Int} {v : Value}
    (h : v.IsInteger byValue n) (hn : Number.InRange n) :
    Check.amount? byValue v = some (Binary64.nearestUnits n) := by
  cases v with
  | number m =>
    cases m with
    | int m =>
      obtain rfl : m = n := h
      obtain ⟨x, hx, -, hvalue⟩ := Binary64.exists_ofInt? hn
      have hm : (Number.int m).toBinary64? = some x := hx
      rw [Check.amount?, Check.measure_number hm, Check.Measure.amount?, hvalue]
    | float x => cases h
  | text s =>
    obtain ⟨rfl, hs⟩ := h
    obtain ⟨x, hx, hvalue⟩ := hs.exists_ofText? hn
    rw [Check.amount?, Check.measure_text hx, Check.Measure.amount?, hvalue]
  | null | bool | list | object => cases h

/-- Where an integer is compared by value with plain decimal bounds, a bound sees it as equal to the
integers that have the same nearest number, and as smaller or larger than others as it is. An integer
and a bound of which one is below 2^53 have the same nearest number only if they are equal. -/
theorem integer_bounds_compare_rounded (settings : Settings) (field : String) (record : Record)
    {v n lo hi : Int} (hv : Number.InRange v) (hn : Number.InRange n) (hlo : Number.InRange lo)
    (hhi : Number.InRange hi) {a b c : String} (ha : PlainDecimal n a) (hb : PlainDecimal lo b)
    (hc : PlainDecimal hi c) :
    (∀ (numericField : Bool) (w : Value), w.IsInteger numericField v →
      let passes := fun (rule : Rule) args =>
        rule.Passes settings field numericField record args w
      (passes .min [a] ↔ n ≤ v ∨ SameNearest n v) ∧
      (passes .max [a] ↔ v ≤ n ∨ SameNearest v n) ∧
      (passes .size [a] ↔ SameNearest v n) ∧
      (passes .between [b, c] ↔
        (lo ≤ v ∨ SameNearest lo v) ∧ (v ≤ hi ∨ SameNearest v hi))) ∧
    ∀ i j, Number.InRange i → Number.InRange j →
      i.natAbs < 2 ^ (53 : Nat) ∨ j.natAbs < 2 ^ (53 : Nat) →
      (SameNearest i j ↔ i = j) := by
  obtain ⟨x, hx, hxvalue⟩ := ha.exists_ofText? hn
  obtain ⟨y, hy, hyvalue⟩ := hb.exists_ofText? hlo
  obtain ⟨z, hz, hzvalue⟩ := hc.exists_ofText? hhi
  refine ⟨fun numericField w hw => ?_, fun i j hi hj hsmall => ?_⟩
  · have hamount := hw.amount?_eq hv
    have hamount' := hw.by_value.amount?_eq hv
    intro passes
    refine ⟨?_, ?_, ?_, ?_⟩
    · simp only [passes, Rule.passes_min_iff hx, hamount, Option.some.injEq, exists_eq_left',
        hxvalue, nearestUnits_le_iff hn hv]
    · simp only [passes, Rule.passes_max_iff hx, hamount, Option.some.injEq, forall_eq', hxvalue,
        nearestUnits_le_iff hv hn]
    · simp only [passes, Rule.passes_size_iff hx, hamount, Option.some.injEq, hxvalue, SameNearest,
        Binary64.ofInt?_eq_iff_nearestUnits hv hn]
    · simp only [passes, Rule.passes_between_iff hy hz, hamount', Option.some.injEq, forall_eq',
        hyvalue, hzvalue, nearestUnits_le_iff hlo hv, nearestUnits_le_iff hv hhi]
  · rw [SameNearest, Binary64.ofInt?_eq_iff_nearestUnits hi hj]
    exact ⟨Binary64.eq_of_nearestUnits_eq hsmall, fun h => h ▸ rfl⟩

/-- An integer just beyond 2^53, as text with a sign and a leading zero, between a small bound and the
largest one. -/
theorem integer_bounds_of_padded_id :
    let v : Int := 9007199254740993
    let w : Value := .text "+09007199254740993"
    let passes := fun (rule : Rule) args => rule.Passes {} "id" true .empty args w
    Number.InRange v ∧ Number.InRange (-5) ∧ Number.InRange 18446744073709551615 ∧
      PlainDecimal (-5) "-5" ∧ PlainDecimal 18446744073709551615 "18446744073709551615" ∧
      w.IsInteger true v ∧
      (passes .min ["-5"] ↔ -5 ≤ v ∨ SameNearest (-5) v) ∧
      (passes .between ["-5", "18446744073709551615"] ↔
        (-5 ≤ v ∨ SameNearest (-5) v) ∧
          (v ≤ 18446744073709551615 ∨ SameNearest v 18446744073709551615)) ∧
      (SameNearest (-5) v ↔ -5 = v) := by
  intro v w passes
  have hv : Number.InRange v := by decide
  have hlo : Number.InRange (-5) := by decide
  have hhi : Number.InRange 18446744073709551615 := by decide
  have hb : PlainDecimal (-5) "-5" := plainDecimal_signedText (-5)
  have hc : PlainDecimal 18446744073709551615 "18446744073709551615" :=
    plainDecimal_signedText 18446744073709551615
  have hw : w.IsInteger true v :=
    ⟨rfl, ['+'], "09007199254740993".toList, rfl, by decide, List.all_eq_true.mp (by decide),
      Or.inl ⟨Or.inr rfl, by decide⟩⟩
  obtain ⟨hcompare, hexact⟩ :=
    integer_bounds_compare_rounded {} "id" .empty hv hlo hlo hhi hb hb hc
  obtain ⟨hmin, -, -, hbetween⟩ := hcompare true w hw
  exact ⟨hv, hlo, hhi, hb, hc, hw, hmin, hbetween, hexact (-5) v hlo hv (Or.inl (by decide))⟩

/-- Two neighbours beyond 2^53 that are rounded to the same number: neither of them is a bound that
keeps the other one out. -/
theorem bounds_confuse_neighbours :
    let passes := fun (rule : Rule) args v => rule.Passes {} "id" false .empty args (.number (.int v))
    let n : Int := 9007199254740992
    let v : Int := 9007199254740993
    Number.InRange n ∧ Number.InRange v ∧ PlainDecimal n "9007199254740992" ∧
      PlainDecimal v "9007199254740993" ∧
      ¬ (passes .size ["9007199254740992"] v ↔ v = n) ∧
      ¬ (passes .min ["9007199254740993"] n ↔ v ≤ n) ∧
      ¬ (passes .max ["9007199254740992"] v ↔ v ≤ n) ∧
      ¬ (passes .between ["9007199254740993", "9007199254740993"] n ↔ v ≤ n ∧ n ≤ v) := by
  intro passes n v
  have hn : Number.InRange n := by decide
  have hv : Number.InRange v := by decide
  have ha : PlainDecimal n "9007199254740992" := plainDecimal_signedText 9007199254740992
  have hb : PlainDecimal v "9007199254740993" := plainDecimal_signedText 9007199254740993
  obtain ⟨x, hx, hxvalue⟩ := ha.exists_ofText? hn
  obtain ⟨y, hy, hyvalue⟩ := hb.exists_ofText? hv
  have hsame : Binary64.nearestUnits v = Binary64.nearestUnits n := by decide +kernel
  have hamount : ∀ byValue i, Number.InRange i →
      Check.amount? byValue (.number (.int i)) = some (Binary64.nearestUnits i) :=
    fun byValue i hi => (show (Value.number (.int i)).IsInteger byValue i from rfl).amount?_eq hi
  have hsize : passes .size ["9007199254740992"] v := by
    refine (Rule.passes_size_iff hx _).mpr ?_
    rw [hamount _ _ hv, hxvalue, hsame]
  have hmin : passes .min ["9007199254740993"] n := by
    refine (Rule.passes_min_iff hy _).mpr ⟨_, hamount _ _ hn, ?_⟩
    rw [hyvalue, hsame]
  have hmax : passes .max ["9007199254740992"] v := by
    refine (Rule.passes_max_iff hx _).mpr fun i hi => ?_
    rw [hamount _ _ hv, Option.some.injEq] at hi
    rw [← hi, hxvalue, hsame]
  have hbetween : passes .between ["9007199254740993", "9007199254740993"] n := by
    refine (Rule.passes_between_iff hy hy _).mpr fun i hi => ?_
    rw [hamount _ _ hn, Option.some.injEq] at hi
    rw [← hi, hyvalue, hsame]
    exact ⟨Int.le_refl _, Int.le_refl _⟩
  refine ⟨hn, hv, ha, hb, fun h => ?_, fun h => ?_, fun h => ?_, fun h => ?_⟩
  · exact absurd (h.mp hsize) (by decide)
  · exact absurd (h.mp hmin) (by decide)
  · exact absurd (h.mp hmax) (by decide)
  · exact absurd (h.mp hbetween).1 (by decide)

end FieldRules
