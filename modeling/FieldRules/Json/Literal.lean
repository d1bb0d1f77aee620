import FieldRules.Number.Number
import FieldRules.Number.Decimal
/-!
Number literals of JSON text and the numbers they stand for. A literal without fraction and exponent
is an integer if it fits 64 bits. Any other is computed from at most 64 bits of its digits by one
rounded multiplication or division by a power of ten, so its last bit can differ from that of the
nearest number.
-/

attribute [local instance (high)] instPowNat

namespace FieldRules

/-- A number as it stands in JSON text. -/
structure Literal where
  negative : Bool
  whole : List Char
  fraction : Option (List Char)
  /-- The sign, true for a minus, and the digits. -/
  exponent : Option (Bool × List Char)
  deriving DecidableEq

namespace Literal

/-- Takes in digits as long as the number stays below 2^64; gives the number, how many digits were
taken, and the digits that were left. -/
def accumulate (n : Nat) : List Char → Nat × Nat × List Char
  | [] => (n, 0, [])
  | c :: cs =>
    let m := 10 * n + digitValue c
    if m < 2 ^ (64 : Nat) then
      let (r, taken, left) := accumulate m cs
      (r, taken + 1, left)
    else (n, 0, c :: cs)

/-- The significand and its decimal exponent. Digits of the whole part that were left count in the
exponent; digits of the fraction that were left are dropped. -/
def significand (l : Literal) : Nat × Int :=
  let (n, _, left) := accumulate 0 l.whole
  let (m, taken, _) := accumulate n (l.fraction.getD [])
  (m, (left.length : Int) - taken)

/-- One multiplication or division by a power of ten, after divisions by 10^308 as long as the
exponent lies below -308. -/
def scale? : Nat → Binary64 → Int → Option Binary64
  | 0, x, _ => some x
  | fuel + 1, x, e =>
    if e.natAbs ≤ 308 then do
      let p ← Binary64.ofInt? (10 ^ e.natAbs)
      if 0 ≤ e then x.mul? p else x.div? p
    else if x.units = 0 then some x
    else if 0 ≤ e then none
    else do
      let p ← Binary64.ofInt? (10 ^ (308 : Nat))
      let y ← x.div? p
      scale? fuel y (e + 308)

/-- The value of an exponent of ten digits or more is beyond all numbers. -/
def exponentValue (e : Option (Bool × List Char)) : Int :=
  match e with
  | none => 0
  | some (negative, ds) =>
    let n : Int := min (digitsValue ds) (2 ^ (31 : Nat))
    if negative then -n else n

/-- The rounded number of a literal, unless it is too large. -/
def toBinary64? (l : Literal) : Option Binary64 := do
  let (n, e) := l.significand
  let x ← Binary64.ofInt? n
  let y ← scale? 5 x (e + exponentValue l.exponent)
  some (if l.negative then y.neg else y)

/-- The number of a literal, unless it is too large. The literal `-0` is a zero with a sign. -/
def toNumber? (l : Literal) : Option Number :=
  let n : Int := if l.negative then -digitsValue l.whole else digitsValue l.whole
  if l.fraction = none ∧ l.exponent = none ∧ Number.InRange n ∧ ¬ (l.negative ∧ n = 0) then
    some (.int n)
  else l.toBinary64?.map .float

end Literal

end FieldRules
