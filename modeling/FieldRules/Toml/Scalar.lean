import FieldRules.Calendar.Day
import FieldRules.Calendar.Scan
import FieldRules.Text.Digits
/-!
Words of TOML text that write a number or a moment. Integers have 64 bits; other numbers may not be
too large; dates exist in the calendar.
-/

attribute [local instance (high)] instPowNat

namespace FieldRules.Toml

/-! ### Numbers -/

/-- Digits of a base, with single underscores between them. -/
def isDigits (base : Nat) : List Char → Bool
  | [] => false
  | [c] => (Text.digitIn? base c).isSome
  | c :: '_' :: rest => (Text.digitIn? base c).isSome && isDigits base rest
  | c :: rest => (Text.digitIn? base c).isSome && isDigits base rest

/-- The number that digits with underscores write. -/
def valueOf (base : Nat) (cs : List Char) : Nat :=
  (Text.valueIn? base (cs.filter (· ≠ '_'))).getD 0

/-- Decimal digits without a leading zero. -/
def isWhole (cs : List Char) : Bool := isDigits 10 cs && (cs.length = 1 || cs.head? ≠ some '0')

/-- A decimal integer with an optional sign, or digits of another base after its mark. -/
def isInteger (cs : List Char) : Bool :=
  let unsigned (base : Nat) (ds : List Char) : Bool :=
    isDigits base ds && valueOf base ds < 2 ^ (63 : Nat)
  match cs with
  | '0' :: 'x' :: ds => unsigned 16 ds
  | '0' :: 'o' :: ds => unsigned 8 ds
  | '0' :: 'b' :: ds => unsigned 2 ds
  | cs =>
    let (negative, ds) := spanSign cs
    isWhole ds && valueOf 10 ds < 2 ^ (63 : Nat) + if negative then 1 else 0

/-- Digits and underscores at the front, and the rest. -/
def spanNumeral (cs : List Char) : List Char × List Char := cs.span fun c => c.isDigit || c = '_'

/-- An exponent. -/
def isExponent : List Char → Bool
  | [] => false
  | c :: cs => (c = 'e' || c = 'E') && isDigits 10 (spanSign cs).2

/-- A number with a fraction, an exponent or both, or a name of no finite number. -/
def isFloat (cs : List Char) : Bool :=
  let (negative, cs) := spanSign cs
  let (whole, rest) := spanNumeral cs
  let form :=
    isWhole whole &&
      match rest with
      | '.' :: rest =>
        let (fraction, rest) := spanNumeral rest
        isDigits 10 fraction && (rest = [] || isExponent rest)
      | rest => isExponent rest
  let fits := (Binary64.ofText? (String.ofList (cs.filter (· ≠ '_')))).isSome
  cs = "inf".toList || cs = "nan".toList || (form && (negative || fits))

/-! ### Moments -/

open Calendar

/-- Takes a date of the calendar. -/
def scanDate (cs : List Char) : Option (List Char) := do
  let (year, cs) ← scanNumber 4 (some 4) cs
  let cs ← scanChar '-' cs
  let (month, cs) ← scanNumber 2 (some 2) cs
  let cs ← scanChar '-' cs
  let (day, cs) ← scanNumber 2 (some 2) cs
  if Date.Valid ⟨year, month, day⟩ then some cs else none

/-- Takes a time of day with seconds, sixty among them. -/
def scanTime (cs : List Char) : Option (List Char) := do
  let (minutes, cs) ← scanHoursMinutes (scanChar ':') cs
  let cs ← scanChar ':' cs
  let (second, cs) ← scanNumber 2 (some 2) cs
  let (_, cs) ← scanFraction cs
  if minutes < 86400 ∧ second ≤ 60 then some cs else none

/-- Nothing, a mark for universal time, or a distance from it. -/
def isOffset : List Char → Bool
  | [] => true
  | ['Z'] => true
  | ['z'] => true
  | c :: cs =>
    (c = '+' || c = '-') &&
      match scanHoursMinutes (scanChar ':') cs with
      | some (seconds, []) => seconds < 86400
      | _ => false

/-- A date, a time, or both with an optional offset. -/
def isMoment (cs : List Char) : Bool :=
  match scanDate cs with
  | some [] => true
  | some (c :: rest) =>
    (c = 'T' || c = 't' || c = ' ') &&
      match scanTime rest with
      | some rest => isOffset rest
      | none => false
  | none => scanTime cs = some []

end FieldRules.Toml
