import FieldRules.Proofs.IntegerBounds
import FieldRules.Proofs.ShortestDecimal
/-!
Numbers that are written and read back. The digits of a number are the shortest ones in its interval,
so reading rounds them to the number again; whole numbers of moderate size are written as integers,
which 53 bits hold exactly. Nothing but the sign of zero is lost between a number and its text
(`number_text_reads_back`).
-/

attribute [local instance (high)] instPowNat

namespace FieldRules

/-! ### Digits with a point -/

theorem digitsValue_append_zeros (ds : List Char) (n : Nat) :
    digitsValue (ds ++ List.replicate n '0') = digitsValue ds * 10 ^ n := by
  induction n with
  | zero => simp
  | succ n ih =>
    have hzero : digitValue '0' = 0 := rfl
    rw [List.replicate_succ', ← List.append_assoc, digitsValue_concat, ih, hzero, Nat.add_zero,
      Nat.mul_comm 10, Nat.mul_assoc, Nat.pow_succ]

theorem digitsValue_zeros_append (n : Nat) (ds : List Char) :
    digitsValue (List.replicate n '0' ++ ds) = digitsValue ds := by
  induction n with
  | zero => rfl
  | succ n ih => exact ih

theorem isDigit_zeros (n : Nat) : ∀ c ∈ List.replicate n '0', c.isDigit = true :=
  fun _ hc => List.eq_of_mem_replicate hc ▸ rfl

theorem spanDigits_append {ds : List Char} (hdigits : ∀ c ∈ ds, c.isDigit = true) {c : Char}
    (hc : c.isDigit = false) (rest : List Char) :
    spanDigits (ds ++ c :: rest) = (ds, c :: rest) := by
  rw [spanDigits, List.span_eq_takeWhile_dropWhile, List.takeWhile_append_of_pos hdigits,
    List.dropWhile_append_of_pos hdigits, List.takeWhile_cons_of_neg (by simp [hc]),
    List.dropWhile_cons_of_neg (by simp [hc]), List.append_nil]

/-- The characters of a sign. -/
def signChars (negative : Bool) : List Char := if negative then ['-'] else []

theorem spanSign_signChars (negative : Bool) {ds : List Char} (hne : ds ≠ [])
    (hdigits : ∀ c ∈ ds, c.isDigit = true) (rest : List Char) :
    spanSign (signChars negative ++ (ds ++ rest)) = (negative, ds ++ rest) := by
  cases negative with
  | true => rfl
  | false =>
    cases ds with
    | nil => exact absurd rfl hne
    | cons c ds => exact spanSign_cons (hdigits c List.mem_cons_self) (ds ++ rest)

theorem Decimal.ofChars?_signed (negative : Bool) {ds : List Char} (hne : ds ≠ [])
    (hdigits : ∀ c ∈ ds, c.isDigit = true) :
    ofChars? (signChars negative ++ ds) = some ⟨negative, digitsValue ds, 0⟩ := by
  have hspan := spanSign_signChars negative hne hdigits []
  rw [List.append_nil] at hspan
  exact ofChars?_of_digits hspan hne hdigits

theorem Decimal.ofChars?_of_point (negative : Bool) {whole fraction : List Char} (hne : whole ≠ [])
    (hwhole : ∀ c ∈ whole, c.isDigit = true) (hfraction : ∀ c ∈ fraction, c.isDigit = true) :
    ofChars? (signChars negative ++ (whole ++ '.' :: fraction)) =
      some ⟨negative, digitsValue (whole ++ fraction), -(fraction.length : Int)⟩ := by
  simp [ofChars?, spanSign_signChars negative hne hwhole, spanDigits_append hwhole,
    spanDigits_of_all hfraction, hne, exponent?]

/-! ### Decimals without an exponent -/

namespace ShortDecimal

/-- What a decimal is read as: it is written without an exponent, and with zeros for a positive
one. -/
def decimal (negative : Bool) (d : ShortDecimal) : Decimal :=
  if 0 ≤ d.exponent then ⟨negative, d.digits * 10 ^ d.exponent.toNat, 0⟩
  else ⟨negative, d.digits, d.exponent⟩

/-- The digits of a whole number, with zeros behind them. -/
theorem plain_of_nonneg {d : ShortDecimal} (h : 0 ≤ d.exponent) :
    d.plain ≠ [] ∧ (∀ c ∈ d.plain, c.isDigit = true) ∧
      digitsValue d.plain = d.digits * 10 ^ d.exponent.toNat := by
  have hplain : d.plain = Nat.toDigits 10 d.digits ++ List.replicate d.exponent.toNat '0' := if_pos h
  rw [hplain]
  exact ⟨List.append_ne_nil_of_left_ne_nil Nat.toDigits_ne_nil _,
    List.forall_mem_append.mpr ⟨isDigit_toDigits _, isDigit_zeros _⟩,
    by rw [digitsValue_append_zeros, digitsValue_toDigits]⟩

/-- The digits of a fraction, with zeros before them for a place in front of the point. -/
theorem plain_of_neg {d : ShortDecimal} (h : d.exponent < 0) :
    ∃ whole fraction, d.plain = whole ++ '.' :: fraction ∧ whole ≠ [] ∧
      (∀ c ∈ whole ++ fraction, c.isDigit = true) ∧ digitsValue (whole ++ fraction) = d.digits ∧
      -(fraction.length : Int) = d.exponent := by
  let places := (-d.exponent).toNat
  let ds := Nat.toDigits 10 d.digits
  let padded := List.replicate (places + 1 - ds.length) '0' ++ ds
  have hplain : d.plain = padded.take (padded.length - places) ++
      '.' :: padded.drop (padded.length - places) := if_neg (by omega)
  have hlength : places + 1 ≤ padded.length := by
    rw [List.length_append, List.length_replicate]
    omega
  have hjoin : padded.take (padded.length - places) ++ padded.drop (padded.length - places) =
      padded := List.take_append_drop ..
  refine ⟨_, _, hplain, ?_, ?_, ?_, ?_⟩
  · refine List.ne_nil_of_length_pos ?_
    rw [List.length_take]
    omega
  · rw [hjoin]
    exact List.forall_mem_append.mpr ⟨isDigit_zeros _, isDigit_toDigits _⟩
  · rw [hjoin, digitsValue_zeros_append, digitsValue_toDigits]
  · rw [List.length_drop]
    omega

theorem ofChars?_plain (negative : Bool) (d : ShortDecimal) :
    Decimal.ofChars? (signChars negative ++ d.plain) = some (d.decimal negative) := by
  by_cases h : 0 ≤ d.exponent
  · obtain ⟨hne, hdigits, hvalue⟩ := plain_of_nonneg h
    rw [Decimal.ofChars?_signed negative hne hdigits, hvalue, decimal, if_pos h]
  · obtain ⟨whole, fraction, hplain, hne, hdigits, hvalue, hlength⟩ := plain_of_neg (Int.not_le.mp h)
    obtain ⟨hwhole, hfraction⟩ := List.forall_mem_append.mp hdigits
    rw [hplain, Decimal.ofChars?_of_point negative hne hwhole hfraction, hvalue, hlength, decimal,
      if_neg h]

theorem isBlank_of_mem_plain {d : ShortDecimal} : ∀ c ∈ d.plain, Text.isBlank c = false := by
  intro c hc
  by_cases h : 0 ≤ d.exponent
  · exact Text.isBlank_of_isDigit ((plain_of_nonneg h).2.1 c hc)
  · obtain ⟨whole, fraction, hplain, -, hdigits, -⟩ := plain_of_neg (Int.not_le.mp h)
    rw [hplain, List.mem_append, List.mem_cons] at hc
    rcases hc with hc | rfl | hc
    · exact Text.isBlank_of_isDigit (hdigits c (List.mem_append_left _ hc))
    · rfl
    · exact Text.isBlank_of_isDigit (hdigits c (List.mem_append_right _ hc))

/-- A decimal that is not too small is rounded as the quotient that it is. -/
theorem ofDecimal?_decimal (negative : Bool) {d : ShortDecimal} (hne : d.digits ≠ 0)
    (hexponent : -360 ≤ d.exponent) :
    let r := d.decimal negative
    Binary64.ofDecimal? r.negative r.digits r.exponent =
      Binary64.nearest? negative (d.digits * (10 ^ d.exponent.toNat * Binary64.one))
        (10 ^ (-d.exponent).toNat) := by
  simp only [decimal]
  split_ifs with h
  · have hdigits : d.digits * 10 ^ d.exponent.toNat ≠ 0 :=
      Nat.mul_ne_zero hne (Nat.pow_pos (by decide)).ne'
    simp only [Binary64.ofDecimal?]
    rw [if_neg hdigits, if_neg (by decide), if_neg (by omega), if_pos (Int.le_refl 0),
      Int.toNat_zero, Nat.pow_zero, Nat.mul_one, Int.toNat_of_nonpos (show -d.exponent ≤ 0 by omega),
      Nat.pow_zero, Nat.mul_assoc]
  · simp only [Binary64.ofDecimal?]
    rw [if_neg hne, if_neg (by omega), if_neg (by omega), if_neg h,
      Int.toNat_of_nonpos (show d.exponent ≤ 0 by omega), Nat.pow_zero, Nat.one_mul]

end ShortDecimal

namespace Binary64

theorem isBlank_of_mem_signChars {negative : Bool} :
    ∀ c ∈ signChars negative, Text.isBlank c = false := by
  cases negative <;> simp [signChars, Text.isBlank]

/-- The shortest digits of a number are read as this number. -/
theorem ofText?_plain {x : Binary64} (hx : 0 < x.units) : ofText? x.plain = some x := by
  obtain ⟨hne, hexponent, hhas⟩ := shortest_spec .up hx x.representable.lt_beyond
  generalize hd : shortest .up x.units = d at hne hexponent hhas
  have hplain : x.plain.toList = signChars x.negative ++ d.plain := by
    rw [plain, hd, String.toList_append, String.toList_ofList, signText, signChars]
    split_ifs <;> rfl
  have htrim : Text.trim (signChars x.negative ++ d.plain) = signChars x.negative ++ d.plain :=
    Text.trim_eq_self_of_forall (List.forall_mem_append.mpr
      ⟨isBlank_of_mem_signChars, ShortDecimal.isBlank_of_mem_plain⟩)
  rw [gridPoint_eq] at hhas
  rw [ofText?, hplain, htrim, ShortDecimal.ofChars?_plain]
  exact (ShortDecimal.ofDecimal?_decimal _ hne hexponent).trans
    (nearest?_eq_of_has (Nat.pow_pos (by decide)) hhas)

/-! ### Integers -/

theorem ofDecimal?_natAbs (n : Int) : ofDecimal? (decide (n < 0)) n.natAbs 0 = ofInt? n := by
  rw [ofInt?, ofDecimal?]
  split_ifs with hzero
  · obtain rfl : n = 0 := Int.natAbs_eq_zero.mp hzero
    rw [Int.natAbs_zero, Nat.zero_mul]
    exact (@nearest?_eq_some (zero false) 0 1 0 0 rfl (by decide) (by decide)).symm
  · omega
  · omega
  · rw [Int.toNat_zero, Nat.pow_zero, Nat.mul_one]
  · omega

/-- An integer and the text of its digits are the same number. -/
theorem ofText?_signedText (n : Int) : ofText? (signedText n) = ofInt? n := by
  have hdigits := isDigit_toDigits n.natAbs
  have hlist : (signedText n).toList = signChars (decide (n < 0)) ++ Nat.toDigits 10 n.natAbs := by
    by_cases hn : n < 0 <;> simp [signedText, signChars, decimalText, hn]
  have htrim : Text.trim (signedText n).toList = (signedText n).toList := by
    rw [hlist]
    exact Text.trim_eq_self_of_forall (List.forall_mem_append.mpr
      ⟨isBlank_of_mem_signChars, fun c hc => Text.isBlank_of_isDigit (hdigits c hc)⟩)
  rw [ofText?, htrim, hlist, Decimal.ofChars?_signed _ Nat.toDigits_ne_nil hdigits,
    digitsValue_toDigits]
  exact ofDecimal?_natAbs n

/-! ### The sign of zero -/

/-- The number without a sign of zero. -/
def plainZero (x : Binary64) : Binary64 := if x.units = 0 then zero false else x

theorem value_plainZero (x : Binary64) : x.plainZero.value = x.value := by
  rw [plainZero]
  split_ifs with h
  · simp [value, h, zero]
  · rfl

theorem negative_plainZero (x : Binary64) : x.plainZero.negative = decide (x.value < 0) := by
  rw [plainZero]
  split_ifs with h
  · simp [value, h, zero]
  · cases hx : x.negative
    · simp [value, hx]
    · simp [value, hx]
      omega

/-- A number of the same value whose sign is that of its value. -/
theorem plainZero_eq {x y : Binary64} (hvalue : y.value = x.value)
    (hsign : y.negative = decide (y.value < 0)) : x.plainZero = y := by
  refine eq_of_value_eq ?_ ((value_plainZero x).trans hvalue.symm)
  rw [negative_plainZero, hsign, hvalue]

theorem exists_plain_ofInt? {n : Int} (h : Number.InRange n) :
    ∃ x, ofInt? n = some x ∧ x.value = nearestUnits n ∧ x.negative = decide (x.value < 0) := by
  obtain ⟨x, hx, hsign, hvalue⟩ := exists_ofInt? h
  exact ⟨x, hx, hvalue, by rw [hsign, hvalue, decide_eq_decide, nearestUnits_neg_iff]⟩

/-! ### Numbers as they are shown -/

/-- A number without a fraction is a whole number of ones. -/
theorem trunc_of_isIntegral {x : Binary64} (h : x.isIntegral = true) :
    x.value = x.trunc * one ∧ x.units = x.trunc.natAbs * one := by
  obtain ⟨q, hq⟩ : ∃ q, x.units = q * one :=
    exists_eq_mul_left_of_dvd (Nat.dvd_of_mod_eq_zero (eq_of_beq h))
  have hone : (one : Int) ≠ 0 := Int.natCast_ne_zero.mpr one_pos.ne'
  have hvalue : x.value = (if x.negative then -(q : Int) else q) * one := by
    rw [value, hq, Int.natCast_mul]
    split_ifs
    · rw [Int.neg_mul]
    · rfl
  have htrunc : x.trunc = if x.negative then -(q : Int) else q := by
    rw [trunc, hvalue, Int.mul_tdiv_cancel _ hone]
  have hcount : x.trunc.natAbs = q := by
    rw [htrunc]
    split_ifs <;> simp
  exact ⟨by rw [htrunc, hvalue], by rw [hcount, hq]⟩

/-- What is shown of a number is read as this number, but for the sign of zero. -/
theorem ofText?_shown (x : Binary64) : ofText? x.shown = some x.plainZero := by
  rw [shown]
  split_ifs with h
  · obtain ⟨hvalue, hunits⟩ := trunc_of_isIntegral h.1
    have hsmall : x.trunc.natAbs < 10 ^ (15 : Nat) :=
      Nat.lt_of_mul_lt_mul_right (hunits.symm.trans_lt h.2)
    obtain ⟨y, hy, hyvalue, hsign⟩ := @exists_plain_ofInt? x.trunc ⟨by omega, by omega⟩
    rw [nearestUnits_of_small (by omega), ← hvalue] at hyvalue
    rw [ofText?_signedText, hy, plainZero_eq hyvalue hsign]
  · have hx : 0 < x.units := Nat.pos_of_ne_zero fun hzero =>
      h ⟨by simp [isIntegral, hzero], by simp [hzero, one_pos]⟩
    rw [ofText?_plain hx, plainZero, if_neg hx.ne']

end Binary64

theorem Argument.number?_coerce (raw : String) : (coerce raw).number? = Binary64.ofText? raw := by
  rw [coerce]
  cases Binary64.ofText? raw <;> rfl

theorem Argument.shown_coerce {raw : String} {x : Binary64} (h : Binary64.ofText? raw = some x) :
    (coerce raw).shown = x.shown := by
  rw [coerce, h, shown]

/-- The text of a number is read as the number, with zero losing its sign: the form of numbers in
messages, the text of an integer or a fraction of a document that rules look at, and an argument
as messages show it. A whole number below 10^15 is shown as an integer, by its digits after a sign. -/
theorem number_text_reads_back :
    (∀ x : Binary64, Binary64.ofText? x.shown = some x.plainZero) ∧
    (∀ n : Number, (∀ i, n = .int i → Number.InRange i) →
      ∃ x, (Value.number n).number? = some x ∧
        (Value.text (Value.number n).toText).number? = some x.plainZero) ∧
    (∀ raw x, (Argument.coerce raw).number? = some x →
      ∃ y, (Argument.coerce (Argument.coerce raw).shown).number? = some y ∧ y.value = x.value) ∧
    (∀ x : Binary64, x.isIntegral = true → x.units < 10 ^ (15 : Nat) * Binary64.one →
      ∃ n : Int, x.value = n * Binary64.one ∧ x.shown = signedText n ∧ PlainDecimal n x.shown) := by
  refine ⟨Binary64.ofText?_shown, fun n hn => ?_, fun raw x hx => ?_, fun x hwhole hsmall => ?_⟩
  · cases n with
    | int i =>
      obtain ⟨x, hx, -, hsign⟩ := Binary64.exists_plain_ofInt? (hn i rfl)
      refine ⟨x, hx, ?_⟩
      rw [Binary64.plainZero_eq rfl hsign, ← hx]
      exact Binary64.ofText?_signedText i
    | float x => exact ⟨x, rfl, Binary64.ofText?_shown x⟩
  · rw [Argument.number?_coerce] at hx
    rw [Argument.shown_coerce hx, Argument.number?_coerce, Binary64.ofText?_shown]
    exact ⟨x.plainZero, rfl, Binary64.value_plainZero x⟩
  · obtain ⟨hvalue, -⟩ := Binary64.trunc_of_isIntegral hwhole
    have hshown : x.shown = signedText x.trunc := if_pos ⟨hwhole, hsmall⟩
    exact ⟨x.trunc, hvalue, hshown, hshown ▸ plainDecimal_signedText x.trunc⟩

/-- The largest integer of a document, an argument with an exponent, and zero with a sign. -/
theorem number_text_reads_back_at_ends :
    let largest : Int := 18446744073709551615
    let zero := Binary64.zero true
    (∀ i, Number.int largest = .int i → Number.InRange i) ∧
    (∃ x, (Value.number (.int largest)).number? = some x ∧
      (Value.text "18446744073709551615").number? = some x.plainZero) ∧
    (∃ x y, (Argument.coerce "-015.0e2").number? = some x ∧
      (Argument.coerce "-1500").number? = some y ∧ y.value = x.value) ∧
    zero.isIntegral = true ∧ zero.units < 10 ^ (15 : Nat) * Binary64.one ∧ zero.shown = "0" := by
  intro largest zero
  obtain ⟨-, hnumbers, harguments, hwhole⟩ := number_text_reads_back
  have hrange : ∀ i, Number.int largest = .int i → Number.InRange i := by
    rintro i ⟨⟩
    decide
  have hlargest := hnumbers (.int largest) hrange
  have htext : (Value.number (.int largest)).toText = "18446744073709551615" := by decide +kernel
  rw [htext] at hlargest
  obtain ⟨x, hx⟩ := Option.isSome_iff_exists.mp
    (show (Argument.coerce "-015.0e2").number?.isSome = true by decide +kernel)
  obtain ⟨y, hy, hyx⟩ := harguments "-015.0e2" x hx
  have hshown : (Argument.coerce "-015.0e2").shown = "-1500" := by decide +kernel
  rw [hshown] at hy
  have hintegral : zero.isIntegral = true := by decide +kernel
  have hsmall : zero.units < 10 ^ (15 : Nat) * Binary64.one := by decide +kernel
  obtain ⟨n, hn, hzero, -⟩ := hwhole zero hintegral hsmall
  obtain rfl : n = 0 := by
    rcases Int.mul_eq_zero.mp hn.symm with h | h
    · exact h
    · exact absurd h (Int.natCast_ne_zero.mpr Binary64.one_pos.ne')
  exact ⟨hrange, hlargest, ⟨x, y, hx, hy, hyx⟩, hintegral, hsmall, hzero⟩

end FieldRules
