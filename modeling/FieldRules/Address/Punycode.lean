import FieldRules.Text.Digits
/-!
Labels of domain names written in ASCII. The ASCII characters of a label come first, then a hyphen,
then one number for every other character: how far the character and its place are from those of
the one before. Numbers have a varying number of digits in base 36, the least significant first.

`Punycode.decode?` reads such a label. It computes with 32 bits and refuses what does not fit.
-/

attribute [local instance (high)] instPowNat

namespace FieldRules.Address.Punycode

def digit? (c : Char) : Option Nat :=
  if c.isAlpha then some (c.toLower.toNat - 'a'.toNat)
  else if c.isDigit then some (c.toNat - '0'.toNat + 26)
  else none

/-- The digit below which the number ends, after `read` digits of it. -/
def threshold (bias read : Nat) : Nat := min 26 (max 1 (36 * (read + 1) - bias))

/-- Divides by 35 until the rest is small, and counts 36 for every time. -/
def scaleDown (delta k : Nat) : Nat × Nat :=
  if 455 < delta then scaleDown (delta / 35) (k + 36) else (delta, k)
termination_by delta
decreasing_by exact Nat.div_lt_self (by omega) (by omega)

/-- How the thresholds change after a number, `length` counting its character. -/
def adapt (delta length : Nat) (first : Bool) : Nat :=
  let delta := if first then delta / 700 else delta / 2
  let (delta, k) := scaleDown (delta + delta / length) 0
  k + 36 * delta / (delta + 38)

/-- A label as far as it has been read. -/
structure Reading where
  text : List Char
  /-- The character put in last. -/
  point : Nat
  bias : Nat
  /-- The place after the character put in last. -/
  start : Nat
  /-- The start with the number now being read added to it. -/
  index : Nat
  weight : Nat
  /-- How many digits of the number have been read. -/
  read : Nat

/-- Puts in the character of a complete number. -/
def Reading.insert? (r : Reading) : Option Reading := do
  let length := r.text.length + 1
  let point := r.point + r.index / length
  let place := r.index % length
  let c ← Text.charOf? point
  some
    { text := r.text.insertIdx place c
      point := point
      bias := adapt (r.index - r.start) length (r.start = 0)
      start := place + 1
      index := place + 1
      weight := 1
      read := 0 }

/-- Reads one digit. -/
def Reading.step? (r : Reading) (c : Char) : Option Reading := do
  let d ← digit? c
  let t := threshold r.bias r.read
  let index := r.index + d * r.weight
  if 2 ^ (32 : Nat) ≤ index then none
  else if d < t then Reading.insert? { r with index := index }
  else
    let weight := r.weight * (36 - t)
    if 2 ^ (32 : Nat) ≤ weight then none
    else some { r with index := index, weight := weight, read := r.read + 1 }

/-- The ASCII characters before the last hyphen, and the digits after it. A hyphen at the very
front belongs to the digits and makes them wrong. -/
def division (cs : List Char) : List Char × List Char :=
  let digits := (cs.reverse.takeWhile (· ≠ '-')).reverse
  let ascii := cs.take (cs.length - digits.length - 1)
  if ascii = [] then ([], cs) else (ascii, digits)

/-- The label that ASCII text stands for, its ASCII letters in lower case. -/
def decode? (cs : List Char) : Option (List Char) := do
  let (ascii, digits) := division cs
  let r ← digits.foldlM Reading.step? ⟨ascii.map Char.toLower, 128, 72, 0, 0, 1, 0⟩
  if r.read = 0 then some r.text else none

end FieldRules.Address.Punycode
