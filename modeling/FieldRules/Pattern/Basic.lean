import FieldRules.Pattern.Classes
/-!
Patterns and what they match. A pattern matches from one position of a text to another; positions
lie between characters. `Matches` gives the meaning of each form.
-/

namespace FieldRules

/-- The sides of a position on which a word may lie. -/
inductive WordEdge
  | boundary | inside | start | stop | startHalf | stopHalf
  deriving DecidableEq

/-- A condition on the characters before and after a position. -/
inductive Edge
  | textStart | textEnd | lineStart | lineEnd | returnLineStart | returnLineEnd
  | word (kind : WordEdge) (unicode : Bool)
  deriving DecidableEq

/-- A pattern. -/
inductive Pattern
  | empty
  | set (s : CharSet)
  | edge (e : Edge)
  | seq (p q : Pattern)
  | alt (p q : Pattern)
  | rep (p : Pattern) (least : Nat) (most : Option Nat)
  deriving DecidableEq

/-- Between words, by whether there is a word character before and after. -/
def WordEdge.holds (before after : Bool) : WordEdge → Bool
  | boundary => before != after
  | inside => before == after
  | start => !before && after
  | stop => before && !after
  | startHalf => !before
  | stopHalf => !after

/-- Whether a condition holds between two characters; none stands for an end of the text. A line
that a carriage return ends is not ended again by the line feed after it. -/
def Edge.holds (before after : Option Char) : Edge → Bool
  | textStart => before.isNone
  | textEnd => after.isNone
  | lineStart => before.isNone || before == some '\n'
  | lineEnd => after.isNone || after == some '\n'
  | returnLineStart =>
    before.isNone || before == some '\n' || (before == some '\r' && after != some '\n')
  | returnLineEnd =>
    after.isNone || after == some '\r' || (after == some '\n' && before != some '\r')
  | .word kind unicode =>
    let s := if unicode then CharSet.word else CharSet.asciiWord
    kind.holds (before.any fun c => s.has c.toNat) (after.any fun c => s.has c.toNat)

namespace Pattern

/-- The pattern matches the characters from position `i` to position `j`. -/
def Matches (text : List Char) : Pattern → Nat → Nat → Prop
  | empty, i, j => i = j
  | set s, i, j => j = i + 1 ∧ ∃ c, text[i]? = some c ∧ s.has c.toNat
  | edge e, i, j => i = j ∧ i ≤ text.length ∧
      e.holds (if i = 0 then none else text[i - 1]?) text[i]?
  | seq p q, i, j => ∃ k, p.Matches text i k ∧ q.Matches text k j
  | alt p q, i, j => p.Matches text i j ∨ q.Matches text i j
  | rep p least most, i, j => ∃ n, least ≤ n ∧ (∀ m, most = some m → n ≤ m) ∧
      ∃ path : Nat → Nat, path 0 = i ∧ path n = j ∧
        ∀ k, k < n → p.Matches text (path k) (path (k + 1))

/-- The pattern matches somewhere in the text. -/
def Occurs (p : Pattern) (text : List Char) : Prop :=
  ∃ i j, i ≤ text.length ∧ p.Matches text i j

end Pattern

end FieldRules
