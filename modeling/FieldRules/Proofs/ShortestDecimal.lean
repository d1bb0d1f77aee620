import FieldRules.Proofs.NearestNumber
/-!
The search for the shortest decimal. It tries grids of powers of ten that grow finer, and takes a
point of one of them in the interval of the number. It ends on such a point for every number
(`shortest_spec`): the last grid that it may try is finer than the interval is wide.
-/

attribute [local instance (high)] instPowNat

namespace FieldRules.Binary64

variable {tie : Tie} {units : Nat} {p : Int}

/-! ### Grids -/

/-- A point that is taken lies in the interval. -/
theorem has_of_onGrid {c : Nat} (h : onGrid tie units p = some c) :
    c ≠ 0 ∧ (interval units).has (gridPoint c p).1 (gridPoint c p).2 = true := by
  simp only [onGrid] at h
  generalize (gridBelow units p).1 = below at h
  split_ifs at h with hlower hupper
  · obtain rfl : below = c := Option.some.inj h
    exact hlower.1
  · obtain rfl : below + 1 = c := Option.some.inj h
    exact ⟨Nat.succ_ne_zero below, hupper⟩

/-- The point below the number, with both powers of ten in one quotient. -/
theorem gridBelow_fst (units : Nat) (p : Int) :
    (gridBelow units p).1 = units * 10 ^ (-p).toNat / (10 ^ p.toNat * one) := by
  rw [gridBelow]
  split_ifs with hp
  · rw [Int.toNat_of_nonpos (show -p ≤ 0 by omega), Nat.pow_zero, Nat.mul_one]
  · rw [Int.toNat_of_nonpos (show p ≤ 0 by omega), Nat.pow_zero, Nat.one_mul]

/-- A point of a grid, with both powers of ten in one quotient. -/
theorem gridPoint_eq (c : Nat) (p : Int) :
    gridPoint c p = (4 * (c * (10 ^ p.toNat * one)), 10 ^ (-p).toNat) := by
  rw [gridPoint]
  split_ifs with hp
  · rw [Int.toNat_of_nonpos (show -p ≤ 0 by omega), Nat.pow_zero, Nat.mul_assoc, Nat.mul_assoc]
  · rw [Int.toNat_of_nonpos (show p ≤ 0 by omega), Nat.pow_zero, Nat.one_mul, Nat.mul_assoc]

/-- The point just above the number is in the interval if the step is less than half of the gap
between numbers. -/
theorem has_above {num step den : Nat} (hstep : 0 < step) (hnum : num = units * den)
    (h : 2 * step < 2 ^ excess units * den) :
    (interval units).has (4 * ((num / step + 1) * step)) den = true := by
  have habove : num < (num / step + 1) * step := by
    rw [Nat.mul_comm _ step]
    exact Nat.lt_mul_div_succ _ hstep
  have hbelow : num / step * step ≤ num := Nat.div_mul_le_self ..
  rw [Nat.succ_mul (num / step)] at habove ⊢
  refine Interval.has_of_between ?_ ?_
  · calc (interval units).low * den ≤ 4 * units * den := Nat.mul_le_mul_right _ (Nat.sub_le ..)
      _ = 4 * num := by rw [Nat.mul_assoc, hnum]
      _ < 4 * (num / step * step + step) := by omega
  · calc 4 * (num / step * step + step) < 4 * num + 2 * (2 ^ excess units * den) := by omega
      _ = (interval units).high * den := by
        rw [interval, Nat.add_mul, Nat.mul_assoc, Nat.mul_assoc, hnum]

/-- So a grid with such a step has a point in the interval. -/
theorem isSome_onGrid (h : 2 * (10 ^ p.toNat * one) < 2 ^ excess units * 10 ^ (-p).toNat) :
    (onGrid tie units p).isSome = true := by
  have hstep : 0 < 10 ^ p.toNat * one := Nat.mul_pos (Nat.pow_pos (by decide)) one_pos
  have hupper : (interval units).has (gridPoint ((gridBelow units p).1 + 1) p).1
      (gridPoint ((gridBelow units p).1 + 1) p).2 = true := by
    rw [gridPoint_eq, gridBelow_fst]
    exact has_above hstep rfl h
  simp only [onGrid, hupper, if_true]
  split_ifs <;> rfl

/-! ### The search -/

/-- A search that comes to a grid with a point in the interval ends on such a grid. -/
theorem search_spec {fuel steps : Nat} (hsteps : steps < fuel)
    (h : (onGrid tie units (p - steps)).isSome = true) :
    let d := search tie units fuel p
    onGrid tie units d.exponent = some d.digits ∧ p - steps ≤ d.exponent := by
  -- each grid without a point brings the one that is known to have a point a step nearer
  induction fuel generalizing steps p with
  | zero => omega
  | succ fuel ih =>
    rw [search]
    split
    · next c hc => exact ⟨hc, Int.sub_le_self p (Int.natCast_nonneg steps)⟩
    · next hnone =>
      cases steps with
      | zero =>
        rw [Int.natCast_zero, Int.sub_zero, hnone] at h
        cases h
      | succ steps =>
        have hnext : p - (steps + 1 : Nat) = p - 1 - steps := by omega
        rw [hnext] at h ⊢
        exact ih (by omega) h

theorem ten_pow_le_two_pow (n : Nat) : 10 ^ n ≤ 2 ^ (10 * ((n + 2) / 3)) :=
  calc 10 ^ n ≤ 10 ^ (3 * ((n + 2) / 3)) := Nat.pow_le_pow_right (by decide) (by omega)
    _ = (10 ^ (3 : Nat)) ^ ((n + 2) / 3) := Nat.pow_mul ..
    _ ≤ (2 ^ (10 : Nat)) ^ ((n + 2) / 3) := Nat.pow_le_pow_left (by decide) _
    _ = 2 ^ (10 * ((n + 2) / 3)) := (Nat.pow_mul ..).symm

theorem two_pow_le_ten_pow (n : Nat) : 2 ^ (13 * (n / 4)) ≤ 10 ^ n :=
  calc 2 ^ (13 * (n / 4)) = (2 ^ (13 : Nat)) ^ (n / 4) := Nat.pow_mul ..
    _ ≤ (10 ^ (4 : Nat)) ^ (n / 4) := Nat.pow_le_pow_left (by decide) _
    _ = 10 ^ (4 * (n / 4)) := (Nat.pow_mul ..).symm
    _ ≤ 10 ^ n := Nat.pow_le_pow_right (by decide) (by omega)

/-- The last of the 40 grids is fine enough. It is so by far, and rough bounds between powers of two
and of ten do: 10^3 is below 2^10, and 10^4 above 2^13. -/
theorem last_grid_fine (hpos : 0 < units) (hrange : units < beyond) :
    let p := coarsest units - (39 : Nat)
    2 * (10 ^ p.toNat * one) < 2 ^ excess units * 10 ^ (-p).toNat := by
  intro p
  have hlog : units.log2 < 2098 := by
    rw [beyond] at hrange
    exact (Nat.log2_lt (by omega)).mpr hrange
  have hexcess : excess units = units.log2 + 1 - 53 := if_neg (by omega)
  have hp : p = ((units.log2 : Int) - 1072) * 30103 / 100000 + 2 - 39 := by
    rw [← Int.fdiv_eq_ediv_of_nonneg _ (by decide)]
    rfl
  calc 2 * (10 ^ p.toNat * one) ≤ 2 * (2 ^ (10 * ((p.toNat + 2) / 3)) * one) :=
      Nat.mul_le_mul_left _ (Nat.mul_le_mul_right _ (ten_pow_le_two_pow _))
    _ = 2 ^ (1075 + 10 * ((p.toNat + 2) / 3)) := by
      rw [one, ← Nat.pow_add 2 _ 1074, ← Nat.pow_succ', Nat.add_comm 1075]
    _ < 2 ^ (excess units + 13 * ((-p).toNat / 4)) :=
      Nat.pow_lt_pow_right (by decide) (by omega)
    _ ≤ 2 ^ excess units * 10 ^ (-p).toNat := by
      rw [Nat.pow_add]
      exact Nat.mul_le_mul_left _ (two_pow_le_ten_pow _)

/-- The shortest decimal of a number lies in its interval. -/
theorem shortest_spec (tie : Tie) (hpos : 0 < units) (hrange : units < beyond) :
    let d := shortest tie units
    d.digits ≠ 0 ∧ -360 ≤ d.exponent ∧
      (interval units).has (gridPoint d.digits d.exponent).1 (gridPoint d.digits d.exponent).2 := by
  intro d
  have hd : d = search tie units 40 (coarsest units) := if_neg (by omega)
  have hfine : (onGrid tie units (coarsest units - (39 : Nat))).isSome = true :=
    isSome_onGrid (last_grid_fine hpos hrange)
  obtain ⟨hgrid, hlast⟩ := search_spec (show 39 < 40 by decide) hfine
  rw [← hd] at hgrid hlast
  obtain ⟨hne, hhas⟩ := has_of_onGrid hgrid
  refine ⟨hne, ?_, hhas⟩
  rw [coarsest, Int.fdiv_eq_ediv_of_nonneg _ (by decide)] at hlast
  omega

end FieldRules.Binary64
