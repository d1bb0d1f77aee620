import FieldRules.Number.Decimal
import FieldRules.Text.Blank
/-!
The small items that dates are written with. Each takes what it accepts off the front of the text
and gives the rest.
-/

attribute [local instance (high)] instPowNat

namespace FieldRules.Calendar

/-- Takes at least `least` and at most `most` digits; without `most` there is no upper bound. -/
def scanNumber (least : Nat) (most : Option Nat) (cs : List Char) : Option (Nat × List Char) :=
  let all := cs.takeWhile (·.isDigit)
  let ds := match most with
    | some n => all.take n
    | none => all
  if ds.length < least then none else some (digitsValue ds, cs.drop ds.length)

/-- Takes one given character. -/
def scanChar (c : Char) : List Char → Option (List Char)
  | d :: rest => if d = c then some rest else none
  | [] => none

/-- Takes one or more blank characters. -/
def scanBlank (cs : List Char) : Option (List Char) :=
  match cs with
  | c :: rest => if Text.isBlank c then some (Text.trimStart rest) else none
  | [] => none

/-- Takes a fraction of a second without its point; digits beyond the ninth do not count. -/
def scanNanos (cs : List Char) : Option (Nat × List Char) :=
  let ds := (cs.takeWhile (·.isDigit)).take 9
  if ds = [] then none
  else some (digitsValue ds * 10 ^ (9 - ds.length), cs.dropWhile (·.isDigit))

/-- Takes a fraction of a second if the text goes on with a point. -/
def scanFraction : List Char → Option (Nat × List Char)
  | '.' :: rest => scanNanos rest
  | rest => some (0, rest)

/-- Takes two digits of hours, `sep`, and two digits of minutes below sixty; gives seconds. -/
def scanHoursMinutes (sep : List Char → Option (List Char)) (cs : List Char) :
    Option (Nat × List Char) := do
  let (h, cs) ← scanNumber 2 (some 2) cs
  let cs ← sep cs
  let (m, cs) ← scanNumber 2 (some 2) cs
  if m < 60 then some (3600 * h + 60 * m, cs) else none

/-- Takes a word of three letters from a list, in any case, and gives its place. -/
def scanWord (words : List (List Char)) (cs : List Char) : Option (Nat × List Char) := do
  let i ← words.findIdx? (· == (cs.take 3).map Char.toLower)
  some (i, cs.drop 3)

end FieldRules.Calendar
