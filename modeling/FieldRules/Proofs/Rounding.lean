import Mathlib.Tactic.SplitIfs
import Mathlib.Tactic.ByContra
import Mathlib.Algebra.Order.Ring.Int
import FieldRules.Number.Number
/-!
Rounding whole numbers to 64 bits. Rounding keeps the order of numbers (`rounded_mono`) and changes
none that 53 bits can hold (`nearestUnits_of_small`). For integers of a document this says: every one
of them has a nearest number (`exists_ofInt?`), these are ordered as the integers are, and two integers
have the same one only if they are equal or both are large (`ofInt?_eq_iff_nearestUnits`).
-/

attribute [local instance (high)] instPowNat

namespace FieldRules

namespace Binary64

/-! ### Counts of units -/

theorem roundEven_mono {m n den : Nat} (h : m ≤ n) :
    roundEven m den ≤ roundEven n den := by
  have hquot : m / den ≤ n / den := Nat.div_le_div_right h
  rcases Nat.lt_or_eq_of_le hquot with hlt | heq
  · calc roundEven m den ≤ m / den + 1 := (roundEven_bounds m den).2
      _ ≤ n / den := hlt
      _ ≤ roundEven n den := (roundEven_bounds n den).1
  · -- with equal quotients the remainders are ordered
    have hrem : m % den ≤ n % den := by
      have hm := Nat.div_add_mod m den
      have hn := Nat.div_add_mod n den
      rw [heq] at hm
      omega
    simp only [roundEven, heq]
    split_ifs <;> omega

theorem roundEven_of_dvd {n den : Nat} (hden : 0 < den) (h : den ∣ n) :
    roundEven n den * den = n := by
  have hrem : n % den = 0 := Nat.mod_eq_zero_of_dvd h
  rw [roundEven, hrem, if_pos (by omega), Nat.div_mul_cancel h]

theorem excess_le_iff {u e : Nat} : excess u ≤ e ↔ u < 2 ^ (53 + e) := by
  constructor
  · intro h
    exact Nat.lt_of_lt_of_le (lt_pow_excess u) (Nat.pow_le_pow_right (by omega) (by omega))
  · intro h
    by_contra hlt
    have hle : 2 ^ (52 + excess u) ≤ u := pow_le_of_excess (by omega)
    have : 2 ^ (53 + e) ≤ 2 ^ (52 + excess u) := Nat.pow_le_pow_right (by omega) (by omega)
    omega

theorem excess_mono {u w : Nat} (h : u ≤ w) : excess u ≤ excess w :=
  excess_le_iff.mpr (Nat.lt_of_le_of_lt h (lt_pow_excess w))

/-- A count of units rounded to a significand of 53 bits, however large. -/
def rounded (u : Nat) : Nat := roundEven u (2 ^ excess u) * 2 ^ excess u

theorem rounded_mono {u w : Nat} (h : u ≤ w) : rounded u ≤ rounded w := by
  rcases Nat.lt_or_eq_of_le (excess_mono h) with hlt | heq
  · -- a power of two lies between the two
    have hu : roundEven u (2 ^ excess u) ≤ 2 ^ (53 : Nat) := by simpa using roundEven_le u 1
    have hw : 2 ^ (52 : Nat) ≤ roundEven w (2 ^ excess w) := by
      simpa using @le_roundEven w 1 (by rw [Nat.div_one]; omega)
    calc rounded u ≤ 2 ^ (53 : Nat) * 2 ^ excess u := Nat.mul_le_mul_right _ hu
      _ = 2 ^ (52 : Nat) * 2 ^ (excess u + 1) := by rw [Nat.pow_succ']; omega
      _ ≤ 2 ^ (52 : Nat) * 2 ^ excess w :=
        Nat.mul_le_mul_left _ (Nat.pow_le_pow_right (by omega) hlt)
      _ ≤ rounded w := Nat.mul_le_mul_right _ hw
  · rw [rounded, rounded, heq]
    exact Nat.mul_le_mul_right _ (roundEven_mono h)

/-- What 53 bits can hold has no digits beyond these. -/
theorem pow_excess_dvd {m e : Nat} (h : m ≤ 2 ^ (53 : Nat)) : 2 ^ excess (m * 2 ^ e) ∣ m * 2 ^ e := by
  rcases Nat.lt_or_eq_of_le h with hlt | rfl
  · have hle : excess (m * 2 ^ e) ≤ e := by
      rw [excess_le_iff, Nat.pow_add]
      exact Nat.mul_lt_mul_of_pos_right hlt (Nat.two_pow_pos e)
    exact Nat.dvd_trans (Nat.pow_dvd_pow 2 hle) (Nat.dvd_mul_left _ _)
  · rw [← Nat.pow_add]
    refine Nat.pow_dvd_pow 2 (excess_le_iff.mpr ?_)
    exact Nat.pow_lt_pow_right (by omega) (by omega)

/-- A count that 53 bits can hold is its own rounding. -/
theorem rounded_mul_pow {m e : Nat} (h : m ≤ 2 ^ (53 : Nat)) : rounded (m * 2 ^ e) = m * 2 ^ e :=
  roundEven_of_dvd (Nat.two_pow_pos _) (pow_excess_dvd h)

theorem rounded_le_two_pow {u e : Nat} (h : u ≤ 2 ^ e) : rounded u ≤ 2 ^ e := by
  have hpow : rounded (2 ^ e) = 2 ^ e := by
    simpa only [Nat.one_mul] using rounded_mul_pow (m := 1) (e := e) (by decide)
  exact hpow ▸ rounded_mono h

theorem exists_nearest? (negative : Bool) {u : Nat} (h : rounded u < beyond) :
    ∃ x, nearest? negative u 1 = some x ∧ x.negative = negative ∧ x.units = rounded u := by
  have hround : roundEven u (1 * 2 ^ excess (u / 1)) * 2 ^ excess (u / 1) = rounded u := by
    rw [Nat.div_one, Nat.one_mul, rounded]
  rw [nearest?, dif_pos (hround ▸ h)]
  exact ⟨_, rfl, rfl, hround⟩

/-! ### Whole numbers -/

/-- One is a power of two in units, and the range ends 1024 powers above it. -/
theorem exists_one_eq_pow : ∃ e, one = 2 ^ e ∧ beyond = 2 ^ (1024 + e) := by
  -- named, so that no power of this size is evaluated
  obtain ⟨e, he⟩ : ∃ e : Nat, e = 1074 := ⟨_, rfl⟩
  have hbeyond : 2098 = 1024 + e := by rw [he]
  exact ⟨e, by rw [one, ← he], by rw [beyond, hbeyond]⟩

theorem rounded_mul_one {n : Nat} (h : n ≤ 2 ^ (53 : Nat)) : rounded (n * one) = n * one := by
  obtain ⟨e, he, -⟩ := exists_one_eq_pow
  rw [he, rounded_mul_pow h]

theorem rounded_mul_one_lt_beyond {n k : Nat} (h : n ≤ 2 ^ k) (hk : k < 1024) :
    rounded (n * one) < beyond := by
  obtain ⟨e, he, hbeyond⟩ := exists_one_eq_pow
  have hle : n * one ≤ 2 ^ (k + e) := by
    rw [Nat.pow_add, ← he]
    exact Nat.mul_le_mul_right one h
  rw [hbeyond]
  exact Nat.lt_of_le_of_lt (rounded_le_two_pow hle) (Nat.pow_lt_pow_right (by decide) (by omega))

/-- The value of the number nearest to an integer, in units. -/
def nearestUnits (n : Int) : Int :=
  if n < 0 then -(rounded (n.natAbs * one) : Int) else rounded (n.natAbs * one)

theorem nearestUnits_mono {m n : Int} (h : m ≤ n) : nearestUnits m ≤ nearestUnits n := by
  have hle : ∀ {a b : Nat}, a ≤ b → rounded (a * one) ≤ rounded (b * one) :=
    fun hab => rounded_mono (Nat.mul_le_mul_right one hab)
  simp only [nearestUnits]
  split_ifs with hm hn hn
  · have := hle (show n.natAbs ≤ m.natAbs by omega)
    omega
  · omega
  · omega
  · have := hle (show m.natAbs ≤ n.natAbs by omega)
    omega

/-- An integer that 53 bits can hold is exact. -/
theorem nearestUnits_of_small {n : Int} (h : n.natAbs ≤ 2 ^ (53 : Nat)) :
    nearestUnits n = n * one := by
  rw [nearestUnits, rounded_mul_one h]
  push_cast
  split_ifs with hn
  · rw [abs_of_neg hn, neg_mul, neg_neg]
  · rw [abs_of_nonneg (by omega)]

theorem exists_ofInt? {n : Int} (h : Number.InRange n) :
    ∃ x, ofInt? n = some x ∧ x.negative = decide (n < 0) ∧ x.value = nearestUnits n := by
  have hbound : rounded (n.natAbs * one) < beyond := by
    obtain ⟨hlo, hhi⟩ := h
    exact rounded_mul_one_lt_beyond (k := 64) (by omega) (by decide)
  obtain ⟨x, hx, hsign, hunits⟩ := exists_nearest? (decide (n < 0)) hbound
  refine ⟨x, hx, hsign, ?_⟩
  rw [value, nearestUnits, hsign, hunits]
  simp only [decide_eq_true_eq]

theorem one_pos : 0 < one := by
  obtain ⟨e, he, -⟩ := exists_one_eq_pow
  exact he ▸ Nat.two_pow_pos e

/-- Rounding keeps two integers apart when one of them is below 2^53. -/
theorem nearestUnits_lt {m n : Int} (h : m < n)
    (hsmall : m.natAbs < 2 ^ (53 : Nat) ∨ n.natAbs < 2 ^ (53 : Nat)) :
    nearestUnits m < nearestUnits n := by
  have hone : 0 < (one : Int) := Int.natCast_pos.mpr one_pos
  rcases hsmall with hm | hn
  · calc nearestUnits m = m * one := nearestUnits_of_small (by omega)
      _ < (m + 1) * one := Int.mul_lt_mul_of_pos_right (by omega) hone
      _ = nearestUnits (m + 1) := (nearestUnits_of_small (by omega)).symm
      _ ≤ nearestUnits n := nearestUnits_mono h
  · calc nearestUnits m ≤ nearestUnits (n - 1) := nearestUnits_mono (by omega)
      _ = (n - 1) * one := nearestUnits_of_small (by omega)
      _ < n * one := Int.mul_lt_mul_of_pos_right (by omega) hone
      _ = nearestUnits n := (nearestUnits_of_small (by omega)).symm

theorem eq_of_nearestUnits_eq {m n : Int}
    (hsmall : m.natAbs < 2 ^ (53 : Nat) ∨ n.natAbs < 2 ^ (53 : Nat))
    (h : nearestUnits m = nearestUnits n) : m = n := by
  rcases Int.lt_trichotomy m n with hlt | heq | hgt
  · exact absurd h (Int.ne_of_lt (nearestUnits_lt hlt hsmall))
  · exact heq
  · exact absurd h.symm (Int.ne_of_lt (nearestUnits_lt hgt hsmall.symm))

theorem nearestUnits_neg_iff {n : Int} : nearestUnits n < 0 ↔ n < 0 := by
  have hzero : nearestUnits 0 = 0 := by
    rw [nearestUnits_of_small (by decide), Int.zero_mul]
  constructor
  · intro h
    by_contra hn
    have hle := nearestUnits_mono (Int.not_lt.mp hn)
    omega
  · intro h
    have hlt := nearestUnits_lt h (Or.inr (by decide))
    omega

/-- A number is its sign and its value. -/
theorem eq_of_value_eq {x y : Binary64} (hsign : x.negative = y.negative)
    (h : x.value = y.value) : x = y := by
  obtain ⟨s, u, hu⟩ := x
  obtain ⟨t, w, hw⟩ := y
  obtain rfl : s = t := hsign
  obtain rfl : u = w := by
    simp only [value] at h
    split_ifs at h <;> omega
  rfl

/-- Two integers have the same nearest number exactly if the values of these agree. -/
theorem ofInt?_eq_iff_nearestUnits {m n : Int} (hm : Number.InRange m) (hn : Number.InRange n) :
    ofInt? m = ofInt? n ↔ nearestUnits m = nearestUnits n := by
  obtain ⟨x, hx, hxsign, hxvalue⟩ := exists_ofInt? hm
  obtain ⟨y, hy, hysign, hyvalue⟩ := exists_ofInt? hn
  rw [hx, hy, ← hxvalue, ← hyvalue, Option.some.injEq]
  constructor
  · intro h
    rw [h]
  · intro h
    refine eq_of_value_eq ?_ h
    rw [hxsign, hysign, decide_eq_decide, ← nearestUnits_neg_iff, ← nearestUnits_neg_iff (n := n),
      ← hxvalue, ← hyvalue, h]

end Binary64

end FieldRules
