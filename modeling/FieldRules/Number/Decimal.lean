import FieldRules.Number.Binary64
import FieldRules.Text.Blank
/-!
Decimal text. A decimal is an optional sign, digits with at most one point among or beside them, and
an optional exponent; `Decimal.ofChars?` takes it apart and `Binary64.ofText?` rounds it to the
nearest number. Text for infinities and for no number is not a decimal.
-/

namespace FieldRules

/-- The value of one ASCII digit. -/
def digitValue (c : Char) : Nat := c.toNat - '0'.toNat

/-- The number that a run of ASCII digits writes. -/
def digitsValue (cs : List Char) : Nat := cs.foldl (fun n c => 10 * n + digitValue c) 0

theorem digitsValue_concat (ds : List Char) (c : Char) :
    digitsValue (ds ++ [c]) = 10 * digitsValue ds + digitValue c := by
  simp [digitsValue]

/-- A run of ASCII digits at the front, and the rest. -/
def spanDigits (cs : List Char) : List Char × List Char := cs.span (·.isDigit)

/-- An optional sign, true for a minus, and the rest. -/
def spanSign : List Char → Bool × List Char
  | '+' :: rest => (false, rest)
  | '-' :: rest => (true, rest)
  | rest => (false, rest)

/-- The number `digits * 10 ^ exponent`, with a sign. -/
structure Decimal where
  negative : Bool
  digits : Nat
  exponent : Int
  deriving DecidableEq

namespace Decimal

/-- The exponent part: nothing, or a mark, an optional sign and digits. -/
def exponent? : List Char → Option Int
  | [] => some 0
  | c :: rest =>
    if c = 'e' ∨ c = 'E' then
      let (negative, digits) := spanSign rest
      if digits ≠ [] ∧ digits.all (·.isDigit) then
        some (if negative then -(digitsValue digits : Int) else digitsValue digits)
      else none
    else none

/-- Reads the whole text as a decimal. -/
def ofChars? (cs : List Char) : Option Decimal :=
  let (negative, rest) := spanSign cs
  let (whole, rest) := spanDigits rest
  let (fraction, rest) := match rest with
    | '.' :: rest => spanDigits rest
    | rest => ([], rest)
  if whole ++ fraction = [] then none
  else do
    let e ← exponent? rest
    some ⟨negative, digitsValue (whole ++ fraction), e - fraction.length⟩

end Decimal

/-- The number nearest to a decimal text, blank characters at its ends aside. -/
def Binary64.ofText? (s : String) : Option Binary64 := do
  let d ← Decimal.ofChars? (Text.trim s.toList)
  Binary64.ofDecimal? d.negative d.digits d.exponent

end FieldRules
