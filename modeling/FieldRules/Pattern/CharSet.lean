/-!
Sets of code points as sorted ranges that do not meet, with the operations of set algebra.
-/

namespace FieldRules

/-- A set of code points; both ends of a range belong to it. -/
structure CharSet where
  ranges : List (Nat × Nat)
  deriving DecidableEq

namespace CharSet

def inRange (n : Nat) (r : Nat × Nat) : Bool := r.1 ≤ n && n ≤ r.2

def has (s : CharSet) (n : Nat) : Bool := s.ranges.any (inRange n)

/-- Joins ranges that meet, in a list sorted by lower ends. -/
def mergeFrom (lo hi : Nat) : List (Nat × Nat) → List (Nat × Nat)
  | [] => [(lo, hi)]
  | (lo', hi') :: rest =>
    if lo' ≤ hi + 1 then mergeFrom lo (max hi hi') rest else (lo, hi) :: mergeFrom lo' hi' rest

/-- The set of all ranges of a list, which may overlap. -/
def ofRanges (l : List (Nat × Nat)) : CharSet :=
  match (l.filter fun r => r.1 ≤ r.2).mergeSort fun a b => a.1 ≤ b.1 with
  | [] => ⟨[]⟩
  | (lo, hi) :: rest => ⟨mergeFrom lo hi rest⟩

def empty : CharSet := ⟨[]⟩

def single (n : Nat) : CharSet := ⟨[(n, n)]⟩

def union (s t : CharSet) : CharSet := ofRanges (s.ranges ++ t.ranges)

/-- The gaps between sorted ranges, from `start` up to `top`. -/
def gapsFrom (top start : Nat) : List (Nat × Nat) → List (Nat × Nat)
  | [] => if start ≤ top then [(start, top)] else []
  | (lo, hi) :: rest =>
    if start < lo then (start, lo - 1) :: gapsFrom top (hi + 1) rest
    else gapsFrom top (max start (hi + 1)) rest

/-- Everything up to `top` that is not in the set. -/
def complement (top : Nat) (s : CharSet) : CharSet := ⟨gapsFrom top 0 s.ranges⟩

/-- The largest code point. -/
def maxPoint : Nat := 0x10FFFF

def all : CharSet := ⟨[(0, maxPoint)]⟩

/-- What both sets hold: the complement of what either one lacks. -/
def inter (s t : CharSet) : CharSet :=
  complement maxPoint (union (complement maxPoint s) (complement maxPoint t))

def diff (s t : CharSet) : CharSet := inter s (complement maxPoint t)

end CharSet

end FieldRules
