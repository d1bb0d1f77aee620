import FieldRules.Number.Binary64
/-!
The fewest decimal digits that read back as the same number. All reals in an interval around a
number round to it; the shortest decimal is a point of the coarsest grid of multiples of a power of
ten that meets this interval, and of several such points the nearest.
-/

attribute [local instance (high)] instPowNat

namespace FieldRules

/-- Which of two equally near decimals is taken. -/
inductive Tie | up | even
  deriving DecidableEq

/-- The decimal `digits * 10 ^ exponent`. -/
structure ShortDecimal where
  digits : Nat
  exponent : Int
  deriving DecidableEq

namespace Binary64

/-- The reals that round to a positive number, in quarters of a unit. -/
structure Interval where
  low : Nat
  high : Nat
  closed : Bool

/-- The gap below a power of two is half the gap above it. -/
def interval (units : Nat) : Interval :=
  let k := excess units
  let m := units >>> k
  let below := if m = 2 ^ (52 : Nat) ∧ 0 < k then 2 ^ k else 2 * 2 ^ k
  ⟨4 * units - below, 4 * units + 2 * 2 ^ k, m % 2 == 0⟩

/-- Whether `num / den` quarters of a unit lie in the interval. -/
def Interval.has (i : Interval) (num den : Nat) : Bool :=
  if i.closed then i.low * den ≤ num && num ≤ i.high * den
  else i.low * den < num && num < i.high * den

/-- A multiple of `10 ^ p` as a quotient of quarters of a unit. -/
def gridPoint (c : Nat) (p : Int) : Nat × Nat :=
  if 0 ≤ p then (4 * c * 10 ^ p.toNat * one, 1) else (4 * c * one, 10 ^ (-p).toNat)

/-- The multiple of `10 ^ p` just below the number, with what is left over and the grid's step in
one common measure. -/
def gridBelow (units : Nat) (p : Int) : Nat × Nat × Nat :=
  let (num, step) :=
    if 0 ≤ p then (units, 10 ^ p.toNat * one) else (units * 10 ^ (-p).toNat, one)
  (num / step, num % step, step)

/-- The nearest multiple of `10 ^ p` in the interval, if there is one. -/
def onGrid (tie : Tie) (units : Nat) (p : Int) : Option Nat :=
  let (c, left, step) := gridBelow units p
  let i := interval units
  let hasLower := c ≠ 0 ∧ i.has (gridPoint c p).1 (gridPoint c p).2
  let hasUpper := i.has (gridPoint (c + 1) p).1 (gridPoint (c + 1) p).2
  let lowerNearer := 2 * left < step ∨ 2 * left = step ∧ tie = .even ∧ c % 2 = 0
  if hasLower ∧ (¬ hasUpper ∨ lowerNearer) then some c
  else if hasUpper then some (c + 1)
  else none

/-- Tries finer and finer grids, `fuel` of them. -/
def search (tie : Tie) (units : Nat) : Nat → Int → ShortDecimal
  | 0, p => ⟨units * 10 ^ (-p).toNat / one, p⟩
  | fuel + 1, p =>
    match onGrid tie units p with
    | some c => ⟨c, p⟩
    | none => search tie units fuel (p - 1)

/-- An exponent so large that no positive multiple of its power of ten rounds to the number. -/
def coarsest (units : Nat) : Int := (((units.log2 : Int) - 1072) * 30103).fdiv 100000 + 2

/-- The shortest decimal of a magnitude. -/
def shortest (tie : Tie) (units : Nat) : ShortDecimal :=
  if units = 0 then ⟨0, 0⟩ else search tie units 40 (coarsest units)

end Binary64

end FieldRules
