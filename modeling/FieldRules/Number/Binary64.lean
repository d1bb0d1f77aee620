/-!
Finite binary floating-point numbers of 64 bits, held exactly: a sign and a count of the smallest
unit, 2^-1074. Order and equality are those of the exact values, so both zeros are equal.

`nearest?` rounds an exact quotient to the closest such number, a tie going to the even
significand, and gives nothing when that lies beyond the largest one.
-/

-- powers are the core ones, also where algebra is imported before this module
attribute [local instance (high)] instPowNat

namespace FieldRules

/-- A count of units that has a significand of at most 53 bits and lies in range. -/
def Representable (u : Nat) : Prop := ∃ m e : Nat, m < 2 ^ (53 : Nat) ∧ e ≤ 2045 ∧ u = m * 2 ^ e

/-- A finite number of 64 bits. -/
structure Binary64 where
  negative : Bool
  units : Nat
  representable : Representable units
  deriving DecidableEq

namespace Binary64

/-- How many units make one. -/
def one : Nat := 2 ^ (1074 : Nat)

/-- The power of two just beyond the largest number, in units. -/
def beyond : Nat := 2 ^ (2098 : Nat)

/-- The exact value in units. -/
def value (x : Binary64) : Int := if x.negative then -(x.units : Int) else x.units

/-- Both zeros are equal. -/
instance : BEq Binary64 := ⟨fun x y => x.value == y.value⟩

instance : LE Binary64 := ⟨fun x y => x.value ≤ y.value⟩
instance : LT Binary64 := ⟨fun x y => x.value < y.value⟩

instance (x y : Binary64) : Decidable (x ≤ y) := inferInstanceAs (Decidable (x.value ≤ y.value))
instance (x y : Binary64) : Decidable (x < y) := inferInstanceAs (Decidable (x.value < y.value))

/-! ### Rounding -/

/-- The nearest whole number to a quotient; a tie goes to the even one. -/
def roundEven (num den : Nat) : Nat :=
  let q := num / den
  let r := num % den
  if 2 * r < den then q else if den < 2 * r then q + 1 else if q % 2 = 0 then q else q + 1

/-- Binary digits of a count beyond the 53 of a significand. -/
def excess (u : Nat) : Nat := if u = 0 then 0 else u.log2 + 1 - 53

theorem lt_pow_excess (u : Nat) : u < 2 ^ (53 + excess u) := by
  by_cases h : u = 0
  · subst h
    exact Nat.two_pow_pos _
  · have := Nat.lt_log2_self (n := u)
    refine Nat.lt_of_lt_of_le this (Nat.pow_le_pow_right (by omega) ?_)
    simp only [excess, h, if_false]
    omega

theorem pow_le_of_excess {u : Nat} (h : excess u ≠ 0) : 2 ^ (52 + excess u) ≤ u := by
  by_cases h0 : u = 0
  · simp [excess, h0] at h
  · have hl := Nat.log2_self_le h0
    simp only [excess, h0, if_false] at h ⊢
    exact Nat.le_trans (Nat.pow_le_pow_right (by omega) (by omega)) hl

theorem roundEven_bounds (num den : Nat) :
    num / den ≤ roundEven num den ∧ roundEven num den ≤ num / den + 1 := by
  simp only [roundEven]
  split
  · omega
  · split
    · omega
    · split <;> omega

/-- The significand after rounding has at most 53 bits, or is the next power of two. -/
theorem roundEven_le (num den : Nat) :
    roundEven num (den * 2 ^ excess (num / den)) ≤ 2 ^ (53 : Nat) := by
  have h1 := (roundEven_bounds num (den * 2 ^ excess (num / den))).2
  have h2 := lt_pow_excess (num / den)
  rw [← Nat.div_div_eq_div_mul] at h1
  have h3 : num / den / 2 ^ excess (num / den) < 2 ^ (53 : Nat) := by
    rw [Nat.div_lt_iff_lt_mul (Nat.two_pow_pos _), ← Nat.pow_add]
    exact h2
  omega

theorem le_roundEven {num den : Nat} (h : excess (num / den) ≠ 0) :
    2 ^ (52 : Nat) ≤ roundEven num (den * 2 ^ excess (num / den)) := by
  have h1 := (roundEven_bounds num (den * 2 ^ excess (num / den))).1
  have h2 := pow_le_of_excess h
  rw [← Nat.div_div_eq_div_mul] at h1
  refine Nat.le_trans ?_ h1
  rw [Nat.le_div_iff_mul_le (Nat.two_pow_pos _), ← Nat.pow_add]
  exact h2

/-- What rounding gives is representable as long as it is in range. -/
theorem representable_round (num den : Nat)
    (h : roundEven num (den * 2 ^ excess (num / den)) * 2 ^ excess (num / den) < beyond) :
    Representable (roundEven num (den * 2 ^ excess (num / den)) * 2 ^ excess (num / den)) := by
  have hle := roundEven_le num den
  have hge := @le_roundEven num den
  rw [beyond] at h
  revert h hle hge
  generalize excess (num / den) = k
  generalize roundEven num (den * 2 ^ k) = m
  intro h hle hge
  by_cases hk : k = 0
  · subst hk
    by_cases hm : m < 2 ^ (53 : Nat)
    · exact ⟨m, 0, hm, by omega, rfl⟩
    · refine ⟨2 ^ (52 : Nat), 1, by decide, by omega, ?_⟩
      omega
  · have hkm := hge hk
    have hk2 : 52 + k < 2098 := by
      refine (Nat.pow_lt_pow_iff_right (a := 2) (by omega)).1 (Nat.lt_of_le_of_lt ?_ h)
      rw [Nat.pow_add]
      exact Nat.mul_le_mul_right _ hkm
    by_cases hm : m < 2 ^ (53 : Nat)
    · exact ⟨m, k, hm, by clear h; omega, rfl⟩
    · have hm' : m = 2 ^ (53 : Nat) := by omega
      subst hm'
      have hk3 : 53 + k < 2098 := by
        refine (Nat.pow_lt_pow_iff_right (a := 2) (by omega)).1 ?_
        rw [Nat.pow_add]
        exact h
      refine ⟨2 ^ (52 : Nat), k + 1, by decide, by omega, ?_⟩
      rw [show (2 : Nat) ^ (53 : Nat) = 2 ^ (52 : Nat) * 2 from rfl, Nat.mul_assoc, ← Nat.pow_succ']

/-- The number nearest to `num / den` units, with the given sign. -/
def nearest? (negative : Bool) (num den : Nat) : Option Binary64 :=
  let k := excess (num / den)
  if h : roundEven num (den * 2 ^ k) * 2 ^ k < beyond then
    some ⟨negative, _, representable_round num den h⟩
  else none

/-! ### Numbers from whole and decimal numbers -/

def zero (negative : Bool) : Binary64 := ⟨negative, 0, 0, 0, by decide, by decide, rfl⟩

instance : Inhabited Binary64 := ⟨zero false⟩

/-- The number nearest to a whole number. -/
def ofInt? (n : Int) : Option Binary64 := nearest? (n < 0) (n.natAbs * one) 1

/-- The number nearest to `digits * 10 ^ exponent`. The two early answers are those that rounding
would give, found without building the power. -/
def ofDecimal? (negative : Bool) (digits : Nat) (exponent : Int) : Option Binary64 :=
  if digits = 0 then some (zero negative)
  else if 400 < exponent then none
  else if exponent + digits.log2 < -500 then some (zero negative)
  else if 0 ≤ exponent then nearest? negative (digits * 10 ^ exponent.toNat * one) 1
  else nearest? negative (digits * one) (10 ^ (-exponent).toNat)

/-! ### Arithmetic -/

/-- The rounded product. -/
def mul? (x y : Binary64) : Option Binary64 :=
  nearest? (x.negative != y.negative) (x.units * y.units) one

/-- The rounded quotient by a divisor other than zero. -/
def div? (x y : Binary64) : Option Binary64 :=
  nearest? (x.negative != y.negative) (x.units * one) y.units

def neg (x : Binary64) : Binary64 := ⟨!x.negative, x.units, x.representable⟩

/-- Without a fractional part. -/
def isIntegral (x : Binary64) : Bool := x.units % one == 0

/-- The whole part, cut toward zero. -/
def trunc (x : Binary64) : Int := x.value.tdiv one

/-! ### Bits -/

/-- The interchange format: sign, eleven bits of exponent, 52 bits of fraction. -/
def bits (x : Binary64) : Nat :=
  let k := excess x.units
  let m := x.units >>> k
  (if x.negative then 2 ^ (63 : Nat) else 0) +
    if m < 2 ^ (52 : Nat) then m else (k + 1) * 2 ^ (52 : Nat) + (m - 2 ^ (52 : Nat))

end Binary64

end FieldRules
