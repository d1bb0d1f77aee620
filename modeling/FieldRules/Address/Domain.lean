import FieldRules.Address.Punycode
import FieldRules.Text.Pieces
import FieldRules.Unicode.Bidi
import FieldRules.Unicode.Category
import FieldRules.Unicode.DomainMap
import FieldRules.Unicode.Joining
import FieldRules.Unicode.Normal
/-!
Domain names with characters of all scripts. Characters are replaced by those that stand for them,
the text is composed and cut into labels, and labels written in ASCII are decoded.

`Domain.labels?` gives the labels that a name stands for. It refuses a name with characters that
have no place in one, and labels that begin with a mark, that join letters where none join, or that
mix directions of writing.
-/

namespace FieldRules.Address.Domain

open Unicode

/-! ### Characters -/

/-- ASCII characters that no name contains. -/
def isForbidden (c : Char) : Bool :=
  c.toNat ≤ 0x20 || c = '\x7f' || "%#/:<>?@[\\]^|".toList.contains c

/-- Characters that others stand for: the first and the last of a run, and what stands for its
first. -/
structure MappedRun where
  first : Nat
  last : Nat
  image : List Nat

/-- The runs that numbers write, of which the first starts at `start` or later. -/
def mappedRunsFrom : Nat → Nat → List Nat → List MappedRun
  | fuel + 1, start, step :: count :: size :: rest =>
    ⟨start + step, start + step + count - 1, rest.take size⟩ ::
      mappedRunsFrom fuel (start + step + count) (rest.drop size)
  | _, _, _ => []

def mappedRuns : List MappedRun :=
  let ns := numbers domainMapped
  mappedRunsFrom ns.length 0 ns

def validRanges : List (Nat × Nat) := ranges domainValid

def ignoredRanges : List (Nat × Nat) := ranges domainIgnored

/-- The character may stand in a label as it is. -/
def isValid (c : Char) : Bool := within validRanges c.toNat

/-- What stands for a character, unless it has no place in a name. -/
def image? (c : Char) : Option (List Char) :=
  if c.toNat < 0x80 then some [c.toLower]
  else if isValid c then some [c]
  else if within ignoredRanges c.toNat then some []
  else
    (mappedRuns.find? fun r => r.first ≤ c.toNat && c.toNat ≤ r.last).map fun r =>
      r.image.map fun n => Char.ofNat (n + (c.toNat - r.first))

/-! ### Labels -/

def isAscii (label : List Char) : Bool := label.all (·.toNat < 0x80)

/-- What marks a label as written in ASCII. -/
def asciiMark : List Char := "xn--".toList

/-- A label without the ASCII form, refused if that form stands for nothing, for ASCII text only, or
for text that is not its own image. -/
def decoded? (label : List Char) : Option (List Char) :=
  if ¬ asciiMark.isPrefixOf label then some label
  else do
    let coded := label.drop 4
    if ¬ isAscii label ∨ coded.getLast? = some '-' ∨ 2000 < coded.length then none
    let plain ← Punycode.decode? coded
    if isAscii plain ∨ ¬ plain.all isValid ∨ plain.any isForbidden ∨ composed plain ≠ plain ∨
        asciiMark.isPrefixOf plain then none
    else some plain

def markRanges : List (Nat × Nat) :=
  ["mn", "mc", "me"].flatMap fun n => ((under? categories n).map ranges).getD []

def startsWithMark (label : List Char) : Bool :=
  match label with
  | c :: _ => 0x300 ≤ c.toNat && within markRanges c.toNat
  | [] => false

/-- The first character that is not transparent joins on one of some sides. -/
def joinsOn (sides : List Joining) (cs : List Char) : Bool :=
  match cs.find? fun c => joining c != .transparent with
  | some c => sides.contains (joining c)
  | none => false

/-- A joiner follows a mark that cuts off a vowel. A non-joiner may also stand between letters that
join. The characters before are given last one first. -/
def joinersFit (before : List Char) : List Char → Bool
  | [] => true
  | c :: cs =>
    let fits :=
      if c = '\u200c' ∨ c = '\u200d' then
        (match before with
          | d :: _ => combiningClass d.toNat = 9
          | [] => false) ||
        (c = '\u200c' && joinsOn [.left, .both] before && joinsOn [.right, .both] cs)
      else true
    fits && joinersFit (c :: before) cs

/-- The label alone is one that names may have. -/
def isWellFormed (label : List Char) : Bool :=
  isAscii label || (!startsWithMark label && joinersFit [] label && label.length ≤ 1000)

/-! ### Directions -/

/-- The label has a character that is written from right to left. -/
def hasRightToLeft (label : List Char) : Bool :=
  label.any fun c => [Direction.rightToLeft, .arabicNumber].contains (direction c)

/-- A label goes in the direction of its first character: from left to right without characters of
the other direction, or from right to left without letters from left to right and with one kind of
digits. Signs do not end it. -/
def keepsDirection (label : List Char) : Bool :=
  let ds := label.map direction
  let last := (ds.reverse.find? (· != .nonspacing)).getD .nonspacing
  match ds.head? with
  | none => true
  | some .leftToRight =>
    ds.all (fun d => d != .rightToLeft && d != .arabicNumber) &&
      (last = .leftToRight || last = .europeanNumber)
  | some .rightToLeft =>
    ds.all (· != .leftToRight) && last != .neutral &&
      !(ds.contains .europeanNumber && ds.contains .arabicNumber)
  | some _ => false

/-! ### Names -/

/-- The labels that a name stands for. -/
def labels? (cs : List Char) : Option (List (List Char)) := do
  let mapped ← cs.mapM image?
  let text := composed mapped.flatten
  if text.any isForbidden then none
  let labels ← (Text.split '.' text).mapM decoded?
  if labels.all isWellFormed && (!labels.any hasRightToLeft || labels.all keepsDirection) then
    some labels
  else none

end FieldRules.Address.Domain
