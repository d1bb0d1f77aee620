import FieldRules.Pattern.Basic
/-!
What patterns cost. A pattern is refused when an automaton for it would be too large, which is how
repetitions with large bounds, and those inside one another, are kept in check. The automaton reads
the bytes of a text from behind, so a set of characters counts by the byte ranges that write it.
-/

attribute [local instance (high)] instPowNat

namespace FieldRules.Pattern

/-! ### Bytes -/

/-- Ranges of bytes one after another; they write the characters with a byte from each. -/
abbrev ByteRanges := List (Nat × Nat)

/-- The bytes of the numbers from `lo` to `hi`, of which the first is counted from `lead` and `more`
others hold six bits each. Where the first byte differs, what is left of the first and of the last
block stands alone, and the blocks between them are written as one. -/
def bytesBetween (lead : Nat) : Nat → Nat → Nat → List ByteRanges
  | 0, lo, hi => [[(lead + lo, lead + hi)]]
  | more + 1, lo, hi =>
    let block := 64 ^ (more + 1)
    let first := lo / block
    let last := hi / block
    let inBlock (byte lo hi : Nat) : List ByteRanges :=
      (bytesBetween 0x80 more lo hi).map fun s => (lead + byte, lead + byte) :: s
    if first = last then inBlock first (lo % block) (hi % block)
    else
      let start := if lo % block = 0 then first else first + 1
      let stop := if hi % block = block - 1 then last + 1 else last
      (if start = first then [] else inBlock first (lo % block) (block - 1)) ++
        (if start < stop then
          [(lead + start, lead + stop - 1) :: List.replicate (more + 1) (0x80, 0xBF)] else []) ++
        if stop = last then inBlock last 0 (hi % block) else []

/-- Code points that are written with as many bytes and hold no surrogates. -/
structure Zone where
  lead : Nat
  more : Nat
  least : Nat
  largest : Nat

def zones : List Zone :=
  [⟨0, 0, 0, 0x7F⟩, ⟨0xC0, 1, 0x80, 0x7FF⟩, ⟨0xE0, 2, 0x800, 0xD7FF⟩, ⟨0xE0, 2, 0xE000, 0xFFFF⟩,
    ⟨0xF0, 3, 0x10000, CharSet.maxPoint⟩]

/-- The bytes of a range of code points. -/
def bytesOf (r : Nat × Nat) : List ByteRanges :=
  zones.flatMap fun z =>
    let lo := max r.1 z.least
    let hi := min r.2 z.largest
    if lo ≤ hi then bytesBetween z.lead z.more lo hi else []

/-- How many ranges two sequences share at their fronts. -/
def sharedFront : ByteRanges → ByteRanges → Nat
  | a :: as, b :: bs => if a = b then sharedFront as bs + 1 else 0
  | _, _ => 0

/-- The ranges of sequences, where those that a sequence shares with the one before count once. -/
def distinctRanges (before : ByteRanges) : List ByteRanges → Nat
  | [] => 0
  | s :: rest => s.length - sharedFront before s + distinctRanges s rest

/-! ### States -/

/-- The space for one state of an automaton. -/
def stateWeight : Nat := 32

/-- The space for a set: a single character takes one state for each byte, a set within ASCII one
for all its ranges, and other sets one for every range of bytes. -/
def setWeight (s : CharSet) : Nat :=
  let plain := 2 * stateWeight + 8 * s.ranges.length
  match s.ranges with
  | [(lo, hi)] =>
    if lo = hi then stateWeight * (Char.ofNat lo).utf8Size
    else if hi < 0x80 then plain
    else split [(lo, hi)]
  | ranges => if ranges.all fun r => r.2 < 0x80 then plain else split ranges
where
  split (ranges : List (Nat × Nat)) : Nat :=
    let sequences := ranges.flatMap bytesOf
    stateWeight * (distinctRanges [] sequences + 2) + 4 * sequences.length

/-- The space for an arm of a choice, from its own; choices inside one another are one choice. -/
def armWeight (own : Nat) : Pattern → Nat
  | alt _ _ => own - 2 * stateWeight
  | _ => own + 4

/-- How many bytes an automaton takes. A repetition takes a copy for each round that its bounds
name. -/
def weight : Pattern → Nat
  | empty => stateWeight
  | set s => setWeight s
  | edge _ => stateWeight
  | seq p q => p.weight + q.weight
  | alt p q => 2 * stateWeight + armWeight p.weight p + armWeight q.weight q
  | rep p least none => max least 1 * p.weight + stateWeight + 8
  | rep p least (some most) =>
    least * p.weight + (most - least) * (p.weight + stateWeight + 8) + stateWeight

/-- The largest weight of a pattern. -/
def maxWeight : Nat := 10 * 2 ^ (20 : Nat)

/-- The pattern looks at word characters of all scripts on both sides of a position. -/
def hasWordEdge : Pattern → Bool
  | edge (.word _ unicode) => unicode
  | seq p q => p.hasWordEdge || q.hasWordEdge
  | alt p q => p.hasWordEdge || q.hasWordEdge
  | rep p _ _ => p.hasWordEdge
  | _ => false

end FieldRules.Pattern
