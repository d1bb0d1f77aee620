import FieldRules.Pattern.Basic
/-!
Searching a text for a pattern. A set of positions is a number whose bit `i` says whether position
`i` is in it. A plan is a pattern made ready for one text: each set of characters has become the set
of positions where such a character stands. `run` takes the positions where matches begin to the
positions where they end, so the time is bounded by the size of the pattern and the text.
-/

attribute [local instance (high)] instPowNat

namespace FieldRules

/-- A pattern prepared for a text. -/
inductive Plan
  | stay
  | step (at_ : Nat)
  | hold (at_ : Nat)
  | seq (p q : Plan)
  | alt (p q : Plan)
  | rep (p : Plan) (least : Nat) (most : Option Nat)

namespace Plan

/-- The positions before characters of a set. -/
def places (s : CharSet) : List Char → Nat
  | [] => 0
  | c :: cs => (if s.has c.toNat then 1 else 0) + 2 * places s cs

/-- The positions where a condition holds, the first of them after `before`. -/
def edges (holds : Option Char → Option Char → Bool) (before : Option Char) : List Char → Nat
  | [] => if holds before none then 1 else 0
  | c :: cs => (if holds before (some c) then 1 else 0) + 2 * edges holds (some c) cs

def ofPattern (text : List Char) : Pattern → Plan
  | .empty => stay
  | .set s => step (places s text)
  | .edge e => hold (edges (fun before after => e.holds before after) none text)
  | .seq p q => seq (ofPattern text p) (ofPattern text q)
  | .alt p q => alt (ofPattern text p) (ofPattern text q)
  | .rep p least most => rep (ofPattern text p) least most

/-- Applies `f` a number of times; once nothing changes it stops. -/
def iterate (f : Nat → Nat) : Nat → Nat → Nat
  | 0, s => s
  | n + 1, s => let t := f s; if t = s then s else iterate f n t

/-- The positions where matches end that begin at positions of `s`. A repetition without upper bound
needs no more rounds than there are positions, `size`. -/
def run (size : Nat) : Plan → Nat → Nat
  | stay, s => s
  | step at_, s => (s &&& at_) <<< 1
  | hold at_, s => s &&& at_
  | seq p q, s => q.run size (p.run size s)
  | alt p q, s => p.run size s ||| q.run size s
  | rep p least most, s =>
    let rounds := match most with
      | some m => m - least
      | none => size
    iterate (fun t => t ||| p.run size t) rounds (iterate (p.run size) least s)

end Plan

/-- Whether a pattern matches somewhere in a text. -/
def Pattern.occurs (p : Pattern) (text : List Char) : Bool :=
  let size := text.length + 1
  (Plan.ofPattern text p).run size (2 ^ size - 1) != 0

end FieldRules
