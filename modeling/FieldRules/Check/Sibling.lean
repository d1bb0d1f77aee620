import FieldRules.Rule.Predicate
import FieldRules.Calendar.Forms
/-!
Rules that look beside the value: equality with another field of the record, and order in time
against a literal date or the date in another field.
-/

namespace FieldRules.Check

/-! ### Equality -/

def equals (name other : String) : Predicate :=
  ⟨name, fun v r => if (r.read other).same v then none else some "Fields do not match."⟩

/-- The field that repeats another one. -/
def confirmationOf (field : String) : String := field ++ "_confirmation"

/-- The confirmation of the field equals it. -/
def confirmed : Factory := fun i => .ok (equals "confirmed" (confirmationOf i.field))

/-- The named field equals this one. -/
def same : Factory := fun i => do
  let other ← i.text 0
  return equals "same" other

/-! ### Order in time -/

/-- The instant that a value's text means. -/
def instant? (v : Value) : Option Calendar.Instant := Calendar.instantOfText? v.toText

def date : Factory := fun _ =>
  .ok (.ofTest "date" "Invalid date." fun v => v.isEmpty || (instant? v).isSome)

/-- A reference is a literal date if it reads as one, otherwise the name of a field. -/
def bound? (reference : String) (r : Record) : Option Calendar.Instant :=
  match Calendar.instantOfText? reference with
  | some t => some t
  | none => instant? (r.read reference)

/-- Compares the value's instant with that of the reference. -/
def relative (name : String) (holds : Calendar.Instant → Calendar.Instant → Bool) : Factory :=
  fun i => do
    let reference ← i.text 0
    return ⟨name, fun v r =>
      if v.isEmpty then none
      else
        match instant? v, bound? reference r with
        | some t, some b =>
          if holds t b then none else some ("Date must be " ++ name ++ " " ++ reference ++ ".")
        | _, _ => some "Invalid date."⟩

/-- Strictly later than the reference. -/
def after : Factory := relative "after" fun t b => b < t

/-- Strictly earlier than the reference. -/
def before : Factory := relative "before" fun t b => t < b

end FieldRules.Check
