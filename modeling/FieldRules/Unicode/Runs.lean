/-!
Sets of characters written as run lengths. A number is written in base 26, all digits but the last
as small letters and the last as a capital, so that numbers need no separators. A set is written as
the lengths of the runs outside and inside it in turn.
-/

namespace FieldRules.Unicode

/-- The numbers of a text, the digits of the first one read so far given as `n`. -/
def numbersFrom (n : Nat) : List Char → List Nat
  | [] => []
  | c :: cs =>
    if 'a' ≤ c then numbersFrom (26 * n + (c.toNat - 'a'.toNat)) cs
    else (26 * n + (c.toNat - 'A'.toNat)) :: numbersFrom 0 cs

/-- The numbers that lines of text write. -/
def numbers (lines : List String) : List Nat := numbersFrom 0 (lines.flatMap String.toList)

/-- The ranges, both ends included, of alternating run lengths. -/
def rangesFrom (start : Nat) : List Nat → List (Nat × Nat)
  | outside :: inside :: rest =>
    (start + outside, start + outside + inside - 1) ::
      rangesFrom (start + outside + inside) rest
  | _ => []

/-- The ranges that lines of text write. -/
def ranges (lines : List String) : List (Nat × Nat) := rangesFrom 0 (numbers lines)

/-- One of the ranges holds the number. -/
def within (table : List (Nat × Nat)) (n : Nat) : Bool := table.any fun r => r.1 ≤ n && n ≤ r.2

/-- Pairs written by the distance of the first from the one before, and of the second from the
first. -/
def pairsFrom (start : Nat) : List Nat → List (Nat × Nat)
  | step :: distance :: rest => (start + step, start + step + distance) ::
      pairsFrom (start + step) rest
  | _ => []

/-- The entry of a table under one of its names. -/
def under? {α : Type} (table : List (List String × α)) (name : String) : Option α :=
  (table.find? fun e => e.1.contains name).map Prod.snd

end FieldRules.Unicode
