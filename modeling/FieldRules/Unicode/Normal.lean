import FieldRules.Unicode.Runs
import FieldRules.Unicode.Composition
/-!
The composed normal form of text: combining marks in the order of their classes, and a letter with
its marks as one character wherever there is one. It is the full normal form for text without those
characters that no composed text contains.
-/

namespace FieldRules.Unicode

/-! ### Marks -/

/-- The ranges of the marks of every class. -/
def combiningClasses : List (Nat × List (Nat × Nat)) :=
  combiningRuns.map fun e => (e.1, ranges e.2)

/-- The combining class of a character, zero for all but marks. -/
def combiningClass (c : Nat) : Nat :=
  if c < 0x300 then 0
  else
    match combiningClasses.find? fun e => within e.2 c with
    | some e => e.1
    | none => 0

/-- Puts a character before the marks that must not come first. -/
def placeMark (c : Nat) : List Nat → List Nat
  | [] => [c]
  | d :: ds =>
    if 0 < combiningClass d ∧ combiningClass d < combiningClass c then d :: placeMark c ds
    else c :: d :: ds

/-- Sorts every run of marks by class; marks of one class keep their order. -/
def orderMarks (cs : List Nat) : List Nat := cs.foldr placeMark []

/-! ### Composition -/

/-- A character that stands for two others. -/
structure Composition where
  whole : Nat
  first : Nat
  second : Nat

def compositionsFrom (start : Nat) : List Nat → List Composition
  | step :: first :: second :: rest =>
    ⟨start + step, first, second⟩ :: compositionsFrom (start + step) rest
  | _ => []

/-- All compositions but those of Hangul syllables. -/
def compositions : List Composition := compositionsFrom 0 (numbers compositionLines)

/-- Hangul syllables: the first one, how many follow a leading letter, and how many a vowel. -/
def syllable : Nat := 0xAC00
def perLeading : Nat := 588
def perVowel : Nat := 28

/-- The character that stands for two. -/
def composition? (a b : Nat) : Option Nat :=
  if 0x1100 ≤ a ∧ a ≤ 0x1112 ∧ 0x1161 ≤ b ∧ b ≤ 0x1175 then
    some (syllable + (a - 0x1100) * perLeading + (b - 0x1161) * perVowel)
  else if syllable ≤ a ∧ a ≤ 0xD7A3 ∧ (a - syllable) % perVowel = 0 ∧
      0x11A8 ≤ b ∧ b ≤ 0x11C2 then
    some (a + (b - 0x11A7))
  else (compositions.find? fun p => p.first == a && p.second == b).map (·.whole)

/-- The two characters that one stands for. -/
def parts? (c : Nat) : Option (Nat × Nat) :=
  if c < 0xC0 then none
  else if syllable ≤ c ∧ c ≤ 0xD7A3 then
    let s := c - syllable
    if s % perVowel = 0 then
      some (0x1100 + s / perLeading, 0x1161 + s % perLeading / perVowel)
    else some (c - s % perVowel, 0x11A7 + s % perVowel)
  else (compositions.find? fun p => p.whole == c).map fun p => (p.first, p.second)

/-- A character taken apart, its first part again up to `depth` times. -/
def decomposed : Nat → Nat → List Nat
  | 0, c => [c]
  | depth + 1, c =>
    match parts? c with
    | some (a, b) => decomposed depth a ++ [b]
    | none => [c]

/-- Composes a starting character with those after it. The marks in `passed`, the last one first,
stand between; a mark is held back by one of its own or a higher class. -/
def composeFrom (start : Nat) (passed : List Nat) : List Nat → List Nat
  | [] => start :: passed.reverse
  | c :: cs =>
    let free := match passed with
      | [] => true
      | d :: _ => combiningClass d < combiningClass c
    match if free then composition? start c else none with
    | some whole => composeFrom whole passed cs
    | none =>
      if combiningClass c = 0 then start :: passed.reverse ++ composeFrom c [] cs
      else composeFrom start (c :: passed) cs

/-- Composes text; marks before the first starting character stay as they are. -/
def compose : List Nat → List Nat
  | [] => []
  | c :: cs => if combiningClass c = 0 then composeFrom c [] cs else c :: compose cs

/-- The composed form of text; no character is taken apart more than four times. -/
def composed (cs : List Char) : List Char :=
  (compose (orderMarks (cs.flatMap fun c => decomposed 4 c.toNat))).map Char.ofNat

end FieldRules.Unicode
