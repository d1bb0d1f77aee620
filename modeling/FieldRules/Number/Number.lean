import FieldRules.Number.Written
/-!
Numbers of a document: integers as written, and everything else as a rounded number of 64 bits.
An integer never equals a fraction-typed number, whatever their values.
-/

attribute [local instance (high)] instPowNat

namespace FieldRules

/-- A number of a document. -/
inductive Number
  | int (n : Int)
  | float (x : Binary64)
  deriving DecidableEq

namespace Number

/-- The exact integers that a document can hold. -/
def InRange (n : Int) : Prop := -2 ^ (63 : Nat) ≤ n ∧ n < 2 ^ (64 : Nat)

instance (n : Int) : Decidable (InRange n) := inferInstanceAs (Decidable (_ ∧ _))

/-- Equal integers, or equal rounded numbers. -/
def same : Number → Number → Bool
  | int m, int n => m == n
  | float x, float y => x == y
  | _, _ => false

/-- The rounded value. -/
def toBinary64? : Number → Option Binary64
  | int n => Binary64.ofInt? n
  | float x => some x

/-- The number as text for people. -/
def text : Number → String
  | int n => signedText n
  | float x => x.shown

/-- The number in compact JSON text. -/
def compact : Number → String
  | int n => signedText n
  | float x => x.compact

end Number

end FieldRules
