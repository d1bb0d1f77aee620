import FieldRules.Number.Shortest
import FieldRules.Proofs.Rounding
/-!
Quotients that round to a number. They form an interval around it, which is narrower below where the
significand is a power of two, and which has its ends where the significand is even. The interval is
cut out by comparisons of whole numbers, and rounding gives the number for every quotient in it
(`nearest?_eq_of_has`).
-/

attribute [local instance (high)] instPowNat

namespace FieldRules

/-! ### Significands -/

/-- A count of units is a significand of 53 bits, or fewer where units are the smallest ones. -/
theorem Representable.exists_significand {u : Nat} (h : Representable u) :
    ∃ m, u = m * 2 ^ Binary64.excess u ∧ m < 2 ^ (53 : Nat) ∧
      (Binary64.excess u ≠ 0 → 2 ^ (52 : Nat) ≤ m) := by
  obtain ⟨m, hm⟩ : 2 ^ Binary64.excess u ∣ u := by
    obtain ⟨m, e, hm, -, rfl⟩ := h
    exact Binary64.pow_excess_dvd (by omega)
  have hpos : 0 < 2 ^ Binary64.excess u := Nat.two_pow_pos _
  refine ⟨m, by rw [Nat.mul_comm]; exact hm, ?_, fun hk => ?_⟩
  · have hlt := Binary64.lt_pow_excess u
    rw [Nat.pow_add, Nat.mul_comm (2 ^ (53 : Nat))] at hlt
    exact Nat.lt_of_mul_lt_mul_left (hm.symm.trans_lt hlt)
  · have hle := Binary64.pow_le_of_excess hk
    rw [Nat.pow_add, Nat.mul_comm (2 ^ (52 : Nat))] at hle
    exact Nat.le_of_mul_le_mul_left (hle.trans_eq hm) hpos

theorem Representable.lt_beyond {u : Nat} (h : Representable u) : u < Binary64.beyond := by
  obtain ⟨m, e, hm, he, rfl⟩ := h
  -- named, so that no power of this size is evaluated
  obtain ⟨k, hk⟩ : ∃ k : Nat, k = 2098 := ⟨_, rfl⟩
  rw [Binary64.beyond, ← hk]
  calc m * 2 ^ e < 2 ^ (53 : Nat) * 2 ^ e := Nat.mul_lt_mul_of_pos_right hm (Nat.two_pow_pos e)
    _ = 2 ^ (53 + e) := (Nat.pow_add ..).symm
    _ ≤ 2 ^ k := Nat.pow_le_pow_right Nat.two_pos (by omega)

namespace Binary64

/-! ### Rounding to a given significand -/

/-- A quotient is rounded to a whole number within one half of it, and at a distance of one half if
this is even. -/
theorem roundEven_eq {num den m : Nat} (hden : 0 < den) (hlo : 2 * (m * den) ≤ 2 * num + den)
    (hhi : 2 * num ≤ 2 * (m * den) + den)
    (hodd : m % 2 = 1 → 2 * (m * den) < 2 * num + den ∧ 2 * num < 2 * (m * den) + den) :
    roundEven num den = m := by
  have hsplit := Nat.div_add_mod num den
  have hrem := Nat.mod_lt num hden
  simp only [roundEven]
  generalize num / den = q at *
  generalize num % den = r at *
  rw [Nat.mul_comm den] at hsplit
  have hle : q ≤ m := by
    refine Nat.le_of_lt_succ (Nat.lt_of_mul_lt_mul_right (a := den) ?_)
    rw [Nat.succ_mul]
    omega
  have hge : m ≤ q + 1 := by
    refine Nat.le_of_lt_succ (Nat.lt_of_mul_lt_mul_right (a := den) ?_)
    rw [Nat.succ_mul, Nat.succ_mul]
    omega
  obtain rfl | rfl : m = q ∨ m = q + 1 := by omega
  · split_ifs <;> omega
  · have hsucc : (q + 1) * den = q * den + den := Nat.succ_mul q den
    split_ifs <;> omega

/-- The digits beyond 53 bits of a quotient between two powers of two. -/
theorem excess_div_eq {num den k : Nat} (hden : 0 < den)
    (hlo : k ≠ 0 → 2 ^ (52 : Nat) * (den * 2 ^ k) ≤ num)
    (hhi : num < 2 ^ (53 : Nat) * (den * 2 ^ k)) :
    excess (num / den) = k := by
  have hupper : num / den < 2 ^ (53 + k) := by
    rw [Nat.div_lt_iff_lt_mul hden, Nat.pow_add, Nat.mul_assoc, Nat.mul_comm (2 ^ k)]
    exact hhi
  refine Nat.le_antisymm (excess_le_iff.mpr hupper) (Nat.le_of_not_lt fun hlt => ?_)
  have hlower : 2 ^ (52 + k) ≤ num / den := by
    rw [Nat.le_div_iff_mul_le hden, Nat.pow_add, Nat.mul_assoc, Nat.mul_comm (2 ^ k)]
    exact hlo (by omega)
  have hshort : num / den < 2 ^ (53 + (k - 1)) := excess_le_iff.mp (by omega)
  rw [show 53 + (k - 1) = 52 + k by omega] at hshort
  omega

/-- A quotient is rounded to the number whose significand is the nearest whole one. -/
theorem nearest?_eq_some {x : Binary64} {num den m k : Nat} (hx : x.units = m * 2 ^ k)
    (hk : excess (num / den) = k) (hm : roundEven num (den * 2 ^ k) = m) :
    nearest? x.negative num den = some x := by
  have hunits : roundEven num (den * 2 ^ excess (num / den)) * 2 ^ excess (num / den) = x.units := by
    rw [hk, hm, hx]
  rw [nearest?, dif_pos (hunits ▸ x.representable.lt_beyond), Option.some.injEq]
  obtain ⟨negative, units, h⟩ := x
  obtain rfl : _ = units := hunits
  rfl

/-- So it is for a quotient that is near a significand of 53 bits. -/
theorem nearest?_eq_of_near {x : Binary64} {num den m k : Nat} (hx : x.units = m * 2 ^ k)
    (hden : 0 < den) (hlo : k ≠ 0 → 2 ^ (52 : Nat) * (den * 2 ^ k) ≤ num)
    (hhi : num < 2 ^ (53 : Nat) * (den * 2 ^ k))
    (hbelow : 2 * (m * (den * 2 ^ k)) ≤ 2 * num + den * 2 ^ k)
    (habove : 2 * num ≤ 2 * (m * (den * 2 ^ k)) + den * 2 ^ k)
    (hodd : m % 2 = 1 → 2 * (m * (den * 2 ^ k)) < 2 * num + den * 2 ^ k ∧
      2 * num < 2 * (m * (den * 2 ^ k)) + den * 2 ^ k) :
    nearest? x.negative num den = some x :=
  nearest?_eq_some hx (excess_div_eq hden hlo hhi)
    (roundEven_eq (Nat.mul_pos hden (Nat.two_pow_pos k)) hbelow habove hodd)

/-! ### The interval of a number -/

theorem Interval.bounds_of_has {i : Interval} {num den : Nat} (h : i.has num den = true) :
    i.low * den ≤ num ∧ num ≤ i.high * den ∧
      (i.closed = false → i.low * den < num ∧ num < i.high * den) := by
  rw [has] at h
  split_ifs at h with hclosed
  · simp only [Bool.and_eq_true, decide_eq_true_eq] at h
    exact ⟨h.1, h.2, fun hopen => absurd (hopen ▸ hclosed) (by decide)⟩
  · simp only [Bool.and_eq_true, decide_eq_true_eq] at h
    exact ⟨Nat.le_of_lt h.1, Nat.le_of_lt h.2, fun _ => h⟩

theorem Interval.has_of_between {i : Interval} {num den : Nat} (hlow : i.low * den < num)
    (hhigh : num < i.high * den) : i.has num den = true := by
  rw [has]
  split_ifs
  · simp [Nat.le_of_lt hlow, Nat.le_of_lt hhigh]
  · simp [hlow, hhigh]

/-- What it is to lie in the interval around a significand. -/
theorem bounds_of_has_interval {m k num den : Nat} (hk : excess (m * 2 ^ k) = k)
    (h : (interval (m * 2 ^ k)).has (4 * num) den = true) :
    let step := den * 2 ^ k
    let below := if m = 2 ^ (52 : Nat) ∧ 0 < k then step else 2 * step
    4 * (m * step) ≤ 4 * num + below ∧ 2 * num ≤ 2 * (m * step) + step ∧
      (m % 2 = 1 → 4 * (m * step) < 4 * num + below ∧ 2 * num < 2 * (m * step) + step) := by
  intro step below
  have hsignificand : (m * 2 ^ k) >>> k = m := by
    rw [Nat.shiftRight_eq_div_pow, Nat.mul_div_cancel _ (Nat.two_pow_pos k)]
  have hlow : (interval (m * 2 ^ k)).low * den = 4 * (m * step) - below := by
    simp only [interval, hk, hsignificand, Nat.sub_mul, Nat.mul_assoc, ite_mul, below, step,
      Nat.mul_comm (2 ^ k) den]
  have hhigh : (interval (m * 2 ^ k)).high * den = 4 * (m * step) + 2 * step := by
    simp only [interval, hk, Nat.add_mul, Nat.mul_assoc, step, Nat.mul_comm (2 ^ k) den]
  have hclosed : (interval (m * 2 ^ k)).closed = (m % 2 == 0) := by
    simp only [interval, hk, hsignificand]
  obtain ⟨hlo, hhi, hopen⟩ := Interval.bounds_of_has h
  rw [hlow] at hlo hopen
  rw [hhigh] at hhi hopen
  refine ⟨by omega, by omega, fun hodd => ?_⟩
  obtain ⟨hlo, hhi⟩ := hopen (by rw [hclosed, hodd]; rfl)
  exact ⟨by omega, by omega⟩

/-- Every quotient in the interval of a number is rounded to this number. -/
theorem nearest?_eq_of_has {x : Binary64} {num den : Nat} (hden : 0 < den)
    (h : (interval x.units).has (4 * num) den = true) : nearest? x.negative num den = some x := by
  obtain ⟨m, hm, hm53, hm52⟩ := x.representable.exists_significand
  generalize hk : excess x.units = k at hm hm52
  rw [hm] at h hk
  obtain ⟨hlo, hhi, hodd⟩ := bounds_of_has_interval hk h
  have hstep : 0 < den * 2 ^ k := Nat.mul_pos hden (Nat.two_pow_pos k)
  have hnext : (m + 1) * (den * 2 ^ k) ≤ 2 ^ (53 : Nat) * (den * 2 ^ k) :=
    Nat.mul_le_mul_right _ hm53
  rw [Nat.succ_mul] at hnext
  -- below a power of two the quotient has one digit less, and its last digit is rounded
  by_cases hgap : (m = 2 ^ (52 : Nat) ∧ 0 < k) ∧ num < m * (den * 2 ^ k)
  · obtain ⟨⟨rfl, hpos⟩, hlt⟩ := hgap
    obtain ⟨j, rfl⟩ : ∃ j, k = j + 1 := ⟨k - 1, by omega⟩
    have hhalf : den * 2 ^ (j + 1) = 2 * (den * 2 ^ j) := by
      rw [Nat.pow_succ']
      exact Nat.mul_left_comm ..
    rw [if_pos ⟨rfl, hpos⟩] at hlo
    rw [hhalf] at hlo hlt hstep
    have hunits : x.units = 2 ^ (53 : Nat) * 2 ^ j := by
      rw [hm, Nat.pow_succ']
      omega
    exact nearest?_eq_of_near hunits hden (fun _ => by omega) (by omega) (by omega) (by omega)
      (by omega)
  · have hwide : 4 * (m * (den * 2 ^ k)) ≤ 4 * num + 2 * (den * 2 ^ k) ∧
        (m % 2 = 1 → 4 * (m * (den * 2 ^ k)) < 4 * num + 2 * (den * 2 ^ k)) := by
      split_ifs at hlo hodd with hpow
      · have : ¬ num < m * (den * 2 ^ k) := fun hlt => hgap ⟨hpow, hlt⟩
        omega
      · exact ⟨hlo, fun h1 => (hodd h1).1⟩
    have hlower : k ≠ 0 → 2 ^ (52 : Nat) * (den * 2 ^ k) ≤ num := fun hne => by
      rcases Nat.lt_or_eq_of_le (hm52 hne) with hlt | rfl
      · have hmul : (2 ^ (52 : Nat) + 1) * (den * 2 ^ k) ≤ m * (den * 2 ^ k) :=
            Nat.mul_le_mul_right _ hlt
        omega
      · exact Nat.le_of_not_lt fun hlt => hgap ⟨⟨rfl, Nat.pos_of_ne_zero hne⟩, hlt⟩
    refine nearest?_eq_of_near hm hden hlower (by omega) (by omega) hhi fun h1 => ?_
    have hstrict := hwide.2 h1
    exact ⟨by omega, (hodd h1).2⟩

end Binary64

end FieldRules
