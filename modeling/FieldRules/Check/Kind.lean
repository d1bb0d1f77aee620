import FieldRules.Rule.Predicate
/-!
Rules about presence, type and alphabet. All of them look at the value alone, and an empty value
passes all of them but `required`.
-/

namespace FieldRules.Check

/-- Fails on empty values. -/
def required : Factory := fun _ =>
  .ok (.ofTest "required" "This field is required." fun v => !v.isEmpty)

/-- Passes every value; its effect is on the field, whose empty values skip all rules. -/
def nullable : Factory := fun _ => .ok (.pass "nullable")

def isText : Value → Bool
  | .text _ => true
  | _ => false

def string : Factory := fun _ =>
  .ok (.ofTest "string" "The field must be a string." fun v => v.isEmpty || isText v)

def numeric : Factory := fun _ =>
  .ok (.ofTest "numeric" "The field must be numeric." fun v => v.isEmpty || v.number?.isSome)

def integer : Factory := fun _ =>
  .ok (.ofTest "integer" "The field must be an integer." fun v =>
    v.isEmpty || v.number?.any Binary64.isIntegral)

/-- A truth value, the number 0 or 1, or an empty value. -/
def isBoolean : Value → Bool
  | .bool _ => true
  | .number n => n.toBinary64?.any fun x => x.value == 0 || x.value == (Binary64.one : Int)
  | v => v.isEmpty

def boolean : Factory := fun _ => .ok (.ofTest "boolean" "The field must be boolean." isBoolean)

/-- Every character of the value's text is in a class. -/
def allChars (p : Char → Bool) (v : Value) : Bool := v.toText.toList.all p

def alpha : Factory := fun _ =>
  .ok (.ofTest "alpha" "Only alphabetic characters allowed." fun v =>
    v.isEmpty || allChars Char.isAlpha v)

def alphaNum : Factory := fun _ =>
  .ok (.ofTest "alpha_num" "Only alphanumeric characters allowed." fun v =>
    v.isEmpty || allChars Char.isAlphanum v)

end FieldRules.Check
