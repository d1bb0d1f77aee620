import FieldRules.Number.Shortest
/-!
How numbers are written. `Binary64.plain` never uses an exponent; `Binary64.shown` is the form of
numbers in messages, where a whole number of moderate size has no sign of zero and no fraction;
`Binary64.compact` is the form of a fraction in compact JSON text.
-/

attribute [local instance (high)] instPowNat

namespace FieldRules

/-- Decimal digits of a natural number. -/
def decimalText (n : Nat) : String := String.ofList (Nat.toDigits 10 n)

/-- Decimal digits of an integer after its sign. -/
def signedText (n : Int) : String :=
  if n < 0 then "-" ++ decimalText n.natAbs else decimalText n.natAbs

namespace ShortDecimal

/-- Digits with a point where one belongs. -/
def plain (d : ShortDecimal) : List Char :=
  let ds := Nat.toDigits 10 d.digits
  if 0 ≤ d.exponent then ds ++ List.replicate d.exponent.toNat '0'
  else
    let places := (-d.exponent).toNat
    let padded := List.replicate (places + 1 - ds.length) '0' ++ ds
    padded.take (padded.length - places) ++ '.' :: padded.drop (padded.length - places)

/-- The exponent of the first digit. -/
def leading (d : ShortDecimal) : Int := d.exponent + (Nat.toDigits 10 d.digits).length - 1

/-- One digit, the others after a point, and a signed exponent. -/
def scientific (d : ShortDecimal) : List Char :=
  let mantissa := match Nat.toDigits 10 d.digits with
    | first :: second :: rest => first :: '.' :: second :: rest
    | ds => ds
  let e := d.leading
  mantissa ++ 'e' :: (if e < 0 then '-' else '+') :: Nat.toDigits 10 e.natAbs

end ShortDecimal

namespace Binary64

def signText (x : Binary64) : String := if x.negative then "-" else ""

/-- The shortest digits that read back, written without an exponent; a tie goes up. -/
def plain (x : Binary64) : String :=
  x.signText ++ String.ofList (shortest .up x.units).plain

/-- Whole numbers below 10^15 are written as integers, all others plainly. -/
def shown (x : Binary64) : String :=
  if x.isIntegral ∧ x.units < 10 ^ (15 : Nat) * one then signedText x.trunc else x.plain

/-- The shortest digits that read back, a tie going to the even digit; positional from 10^-5 up to
10^16 and then always with a point, otherwise with an exponent. -/
def compact (x : Binary64) : String :=
  let d := shortest .even x.units
  let magnitude :=
    if x.units = 0 ∨ -5 ≤ d.leading ∧ d.leading < 16 then
      if 0 ≤ d.exponent then d.plain ++ ['.', '0'] else d.plain
    else d.scientific
  x.signText ++ String.ofList magnitude

end Binary64

end FieldRules
