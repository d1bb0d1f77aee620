import FieldRules.Rule.Predicate
/-!
Rules about size. Text and lists are measured by length, numbers by value. On a field that declares
that it is numeric, and for `between` on every field, text that writes a number is measured by that
number. Digit rules count the decimal digits of the value's text instead.
-/

namespace FieldRules.Check

/-- How a value compares with a bound. -/
inductive Measure
  | absent
  | length (n : Nat)
  | value (x : Binary64)
  | unmeasurable

/-- Measures a value; `byValue` says whether numeric text counts as its number. -/
def measure (byValue : Bool) (v : Value) : Measure :=
  match v with
  | .null => .absent
  | .number n =>
    match n.toBinary64? with
    | some x => .value x
    | none => .unmeasurable
  | .text s =>
    if byValue then
      match Binary64.ofText? s with
      | some x => .value x
      | none => .length s.length
    else .length s.length
  | .list items => .length items.length
  | .bool _ | .object _ => .unmeasurable

/-- A count on the scale of exact values. -/
def ofCount (n : Nat) : Int := (n : Int) * Binary64.one

def atLeast (bound : Binary64) (x : Int) : Bool := bound.value ≤ x

def atMost (bound : Binary64) (x : Int) : Bool := x ≤ bound.value

/-- Bounds the length or the value from below; a missing value is too short. -/
def min : Factory := fun i => do
  let bound ← i.number 0
  let short := some ("Must be at least " ++ bound.shown ++ " characters.")
  let small := some ("Must be at least " ++ bound.shown ++ ".")
  return ⟨"min", fun v _ =>
    match measure i.numericField v with
    | .absent => short
    | .length n => if atLeast bound (ofCount n) then none else short
    | .value x => if atLeast bound x.value then none else small
    | .unmeasurable => small⟩

/-- Bounds the length or the value from above; a missing value passes. -/
def max : Factory := fun i => do
  let bound ← i.number 0
  return ⟨"max", fun v _ =>
    match measure i.numericField v with
    | .absent | .unmeasurable => none
    | .length n =>
      if atMost bound (ofCount n) then none
      else some ("Must be no more than " ++ bound.shown ++ " characters.")
    | .value x =>
      if atMost bound x.value then none
      else some ("Must be no more than " ++ bound.shown ++ ".")⟩

/-- Bounds the value or the length on both sides; a missing value passes. -/
def between : Factory := fun i => do
  let lo ← i.number 0
  let hi ← i.number 1
  let range := lo.shown ++ " and " ++ hi.shown ++ "."
  return ⟨"between", fun v _ =>
    match measure true v with
    | .absent | .unmeasurable => none
    | .length n =>
      if atLeast lo (ofCount n) && atMost hi (ofCount n) then none
      else some ("Length must be between " ++ range)
    | .value x =>
      if atLeast lo x.value && atMost hi x.value then none
      else some ("Must be between " ++ range)⟩

/-- Fixes the length or the value. -/
def size : Factory := fun i => do
  let expected ← i.number 0
  let wrong := some ("Value must be " ++ expected.shown ++ ".")
  return ⟨"size", fun v _ =>
    match measure i.numericField v with
    | .length n =>
      if ofCount n = expected.value then none
      else some ("Length must be " ++ expected.shown ++ ".")
    | .value x => if x.value = expected.value then none else wrong
    | .absent | .unmeasurable => wrong⟩

/-- How many decimal digits the value's text has, if it has nothing else. -/
def digitCount? (v : Value) : Option Nat :=
  let cs := v.toText.toList
  if cs ≠ [] ∧ cs.all Char.isDigit then some cs.length else none

/-- Fixes the number of digits. -/
def digits : Factory := fun i => do
  let expected ← i.number 0
  return .ofTest "digits" ("Must be " ++ expected.shown ++ " digits.") fun v =>
    (digitCount? v).any fun n => ofCount n == expected.value

/-- Bounds the number of digits on both sides. -/
def digitsBetween : Factory := fun i => do
  let lo ← i.number 0
  let hi ← i.number 1
  return ⟨"digits_between", fun v _ =>
    match digitCount? v with
    | none => some "Must be digits."
    | some n =>
      if atLeast lo (ofCount n) && atMost hi (ofCount n) then none
      else some ("Digits length must be between " ++ lo.shown ++ " and " ++ hi.shown ++ ".")⟩

end FieldRules.Check
