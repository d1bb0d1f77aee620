import Mathlib.Data.List.Basic
import FieldRules.Calendar.Day
/-!
Counting days. The number of a date is 0 on the first of January 1970 and grows by one from each
day of the calendar to the next (`number_next`), so it is the count of days of the Gregorian
calendar in both directions; it orders dates by year, month and day (`number_lt_iff`).
-/

namespace FieldRules.Calendar.Date

variable {d e : Date} {year : Int} {month : Nat}

/-- The month has the day, and the year the month. -/
structure OnCalendar (d : Date) : Prop where
  month_pos : 1 ≤ d.month
  month_le : d.month ≤ 12
  day_pos : 1 ≤ d.day
  day_le : d.day ≤ daysInMonth d.year d.month

/-- The day after: within the month, on the first of the next month, or on the first of January. -/
def next (d : Date) : Date :=
  if d.day < daysInMonth d.year d.month then { d with day := d.day + 1 }
  else if d.month < 12 then ⟨d.year, d.month + 1, 1⟩
  else ⟨d.year + 1, 1, 1⟩

/-! ### Months and years -/

theorem daysInMonth_le (year : Int) (month : Nat) : daysInMonth year month ≤ 31 := by
  unfold daysInMonth
  repeat' split
  all_goals decide

theorem daysInMonth_pos (year : Int) (month : Nat) : 1 ≤ daysInMonth year month := by
  unfold daysInMonth
  repeat' split
  all_goals decide

def daysInYear (year : Int) : Nat := if isLeap year then 366 else 365

theorem daysBeforeMonth_one (year : Int) : daysBeforeMonth year 1 = 0 := rfl

theorem daysBeforeMonth_succ (year : Int) (hmonth : 1 ≤ month) :
    daysBeforeMonth year (month + 1) = daysBeforeMonth year month + daysInMonth year month := by
  have hadd : ∀ (l : List Nat) (n : Nat),
      l.foldr (fun m days => daysInMonth year (m + 1) + days) n =
        l.foldr (fun m days => daysInMonth year (m + 1) + days) 0 + n := by
    intro l n
    induction l with
    | nil => simp
    | cons m rest ih => simp only [List.foldr_cons, ih, Nat.add_assoc]
  obtain ⟨k, rfl⟩ := Nat.exists_eq_add_of_le' hmonth
  rw [daysBeforeMonth, Nat.add_sub_cancel, List.range_succ, List.foldr_append, hadd]
  rfl

theorem daysBeforeMonth_thirteen (year : Int) : daysBeforeMonth year 13 = daysInYear year := by
  rw [daysInYear]
  simp [daysBeforeMonth, List.range_succ, daysInMonth]
  split <;> rfl

/-- Months that come later begin after the end of those before. -/
theorem daysBeforeMonth_add_le (hmonth : 1 ≤ month) : ∀ {later : Nat}, month < later →
    daysBeforeMonth year month + daysInMonth year month ≤ daysBeforeMonth year later
  | 0, h => absurd h month.not_lt_zero
  | later + 1, h => by
    obtain hlt | rfl := Nat.lt_or_eq_of_le (Nat.le_of_lt_succ h)
    · have ih := daysBeforeMonth_add_le hmonth hlt
      rw [daysBeforeMonth_succ year (by omega)]
      omega
    · exact Nat.le_of_eq (daysBeforeMonth_succ year hmonth).symm

theorem daysBeforeYear_succ (year : Int) :
    daysBeforeYear (year + 1) = daysBeforeYear year + daysInYear year := by
  rw [daysInYear, isLeap]
  simp only [daysBeforeYear, decide_eq_true_eq]
  split <;> omega

/-- Years that come later begin after the end of those before. -/
theorem daysBeforeYear_add_le {later : Int} (h : year < later) :
    daysBeforeYear year + daysInYear year ≤ daysBeforeYear later := by
  rw [← daysBeforeYear_succ]
  obtain ⟨n, rfl⟩ := Int.le.dest h
  induction n with
  | zero => simp
  | succ n ih =>
    have hlast := daysBeforeYear_succ (year + 1 + n)
    rw [Int.natCast_succ, ← Int.add_assoc, hlast]
    omega

/-! ### The count -/

theorem number_epoch : number ⟨1970, 1, 1⟩ = 0 := by decide

theorem OnCalendar.next (h : d.OnCalendar) : d.next.OnCalendar := by
  rw [Date.next]
  split
  · next hday => exact ⟨h.month_pos, h.month_le, Nat.le_succ_of_le h.day_pos, hday⟩
  · split
    · next hmonth =>
      exact ⟨Nat.le_succ_of_le h.month_pos, hmonth, Nat.le_refl 1, daysInMonth_pos _ _⟩
    · exact ⟨Nat.le_refl 1, Nat.le_add_left 1 11, Nat.le_refl 1, daysInMonth_pos _ _⟩

/-- The count goes up by one from each day to the next. -/
theorem number_next (h : d.OnCalendar) : d.next.number = d.number + 1 := by
  have hday := h.day_pos
  have hlast := h.day_le
  rw [next]
  split
  · simp only [number]
    omega
  · next hend =>
    have hsucc := daysBeforeMonth_succ d.year h.month_pos
    split
    · simp only [number]
      omega
    · next hdecember =>
      have hmonth : d.month = 12 := by
        have := h.month_le
        omega
      have hyear := daysBeforeYear_succ d.year
      have hlength := daysBeforeMonth_thirteen d.year
      rw [hmonth, hlength] at hsucc
      rw [hmonth] at hend hlast
      simp only [number, daysBeforeMonth_one, hmonth]
      omega

/-- A date lies in its year. -/
theorem number_lt_of_year_lt (hd : d.OnCalendar) (he : e.OnCalendar) (h : d.year < e.year) :
    d.number < e.number := by
  have hyears := daysBeforeYear_add_le h
  have hyear : daysBeforeMonth d.year d.month + daysInMonth d.year d.month ≤ daysInYear d.year := by
    rw [← daysBeforeMonth_thirteen]
    exact daysBeforeMonth_add_le hd.month_pos (Nat.lt_succ_of_le hd.month_le)
  have hday := hd.day_le
  have hday' := he.day_pos
  simp only [number]
  omega

theorem number_lt_of_month_lt (hd : d.OnCalendar) (he : e.OnCalendar) (hyear : d.year = e.year)
    (h : d.month < e.month) : d.number < e.number := by
  have hmonths : daysBeforeMonth d.year d.month + daysInMonth d.year d.month ≤
      daysBeforeMonth d.year e.month := daysBeforeMonth_add_le hd.month_pos h
  have hday := hd.day_le
  have hday' := he.day_pos
  simp only [number, ← hyear]
  omega

/-- Dates are counted in the order of years, months and days. -/
theorem number_lt_iff (hd : d.OnCalendar) (he : e.OnCalendar) : d.number < e.number ↔
    d.year < e.year ∨
      d.year = e.year ∧ (d.month < e.month ∨ d.month = e.month ∧ d.day < e.day) := by
  obtain hlt | heq | hgt := Int.lt_trichotomy d.year e.year
  · simp only [number_lt_of_year_lt hd he hlt, hlt, true_or]
  · obtain hlt' | heq' | hgt' := Nat.lt_trichotomy d.month e.month
    · simp only [number_lt_of_month_lt hd he heq hlt', heq, hlt', true_or, and_true, or_true]
    · simp only [number, heq, heq', Int.lt_irrefl, Nat.lt_irrefl, true_and, false_or]
      omega
    · have := number_lt_of_month_lt he hd heq.symm hgt'
      omega
  · have := number_lt_of_year_lt he hd hgt
    omega

end FieldRules.Calendar.Date
