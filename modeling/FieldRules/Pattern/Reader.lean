import FieldRules.Pattern.Weight
import FieldRules.Number.Decimal
import FieldRules.Text.Digits
import FieldRules.Text.Blank
/-!
Pattern text and the pattern it writes. The language has literals, classes with set operations,
anchors and word edges, groups with or without names, alternation, repetition, and flags that change
how the rest of a group is read. It has neither look-around nor references to what a group matched.

`Pattern.ofText?` refuses text outside the language, two groups of one name, a counted repetition
whose bounds are in the wrong order, nesting beyond `maxNesting`, a weight beyond `maxWeight`, and
anything that could match half of a character while characters are read as bytes. Every function
takes characters off the front of a `Source`; fuel bounds the nesting and the number of items.
-/

attribute [local instance (high)] instPowNat

namespace FieldRules.Pattern

/-! ### Source text and flags -/

/-- What flags switch on and off. -/
structure Flags where
  ignoreCase : Bool := false
  multiLine : Bool := false
  dotAll : Bool := false
  swapGreed : Bool := false
  unicode : Bool := true
  returnLines : Bool := false
  extended : Bool := false

/-- The text still to be read, the flags in force, and the group names in use. -/
structure Source where
  rest : List Char
  flags : Flags
  names : List (List Char)

/-- Reads something off the front of a source, or refuses. -/
abbrev Read := StateT Source Option

/-- Drops blanks, and comments from a number sign to the end of the line. -/
def skipExtended (inComment : Bool) : List Char → List Char
  | [] => []
  | c :: cs =>
    if inComment then skipExtended (c != '\n') cs
    else if Text.isBlank c then skipExtended false cs
    else if c = '#' then skipExtended true cs
    else c :: cs

/-- The text after blanks and comments, if the flags let them stand between items. -/
def spaced (extended : Bool) (cs : List Char) : List Char :=
  if extended then skipExtended false cs else cs

def skipSpace : Read Unit :=
  modify fun s => { s with rest := spaced s.flags.extended s.rest }

def rest : Read (List Char) := return (← get).rest

def flags : Read Flags := return (← get).flags

def setRest (cs : List Char) : Read Unit := modify fun s => { s with rest := cs }

def setFlags (f : Flags) : Read Unit := modify fun s => { s with flags := f }

def refuse {α : Type} : Read α := fun _ => none

/-- The next character, which must exist. -/
def next : Read Char := do
  match ← rest with
  | c :: cs => do setRest cs; return c
  | [] => refuse

/-- Takes the given character if it comes next. -/
def accept (c : Char) : Read Bool := do
  match ← rest with
  | d :: cs => if d = c then do setRest cs; return true else return false
  | [] => return false

def expect (c : Char) : Read Unit := do
  if ← accept c then return () else refuse

/-! ### Characters -/

/-- Characters that mean something and mean themselves after a backslash. -/
def isEscapable (c : Char) : Bool :=
  c.toNat < 0x80 && !c.isAlphanum && c != '<' && c != '>'

/-- Characters between braces, up to the closing one. -/
def braced (extended inComment : Bool) : List Char → Option (List Char × List Char)
  | [] => none
  | c :: cs =>
    if inComment then braced extended (c != '\n') cs
    else if extended && Text.isBlank c then braced extended false cs
    else if extended && c = '#' then braced extended true cs
    else if c = '}' then some ([], cs)
    else (braced extended false cs).map fun (t, r) => (c :: t, r)

/-- A fixed number of hexadecimal digits. -/
def fixedHex : Nat → Read (List Char)
  | 0 => return []
  | n + 1 => do
    skipSpace
    let c ← next
    return c :: (← fixedHex n)

/-- A character by its number, after `x`, `u` or `U`; says also whether it is written as a byte. -/
def hexEscape (letter : Char) : Read (Char × Bool) := do
  skipSpace
  let (digits, byte) ←
    if ← accept '{' then do
      let (digits, cs) ← braced (← flags).extended false (← rest)
      setRest cs
      pure (digits, false)
    else do
      let digits ← fixedHex (if letter = 'x' then 2 else if letter = 'u' then 4 else 8)
      pure (digits, letter = 'x')
  let n ← Text.valueIn? 16 digits
  let c ← Text.charOf? n
  return (c, byte)

/-! ### Atoms -/

/-- What stands for one thing: a character, a named class, a condition on a position, or the dot. -/
inductive Atom
  | char (c : Char) (byte : Bool)
  | named (s : CharSet)
  | edge (e : Edge)
  | dot

/-- The largest member of a class, which holds bytes when the flags say so. -/
def topOf (f : Flags) : Nat := if f.unicode then CharSet.maxPoint else 0xFF

/-- A class of bytes must hold no half of a character. -/
def checkBytes (f : Flags) (s : CharSet) : Option CharSet :=
  if f.unicode || s.ranges.all (fun r => r.2 < 0x80) then some s else none

/-- The class under the flags: closed under change of case, then negated. -/
def closeSet (f : Flags) (negated : Bool) (s : CharSet) : Option CharSet :=
  let folded :=
    if !f.ignoreCase then s else if f.unicode then s.foldCase else s.foldAscii
  checkBytes f (if negated then folded.complement (topOf f) else folded)

/-- The class of a letter such as `d`; a capital negates it. -/
def letterClass (f : Flags) (c : Char) : Option CharSet :=
  let s := match c.toLower with
    | 'd' => if f.unicode then CharSet.digit else CharSet.asciiDigit
    | 's' => if f.unicode then CharSet.space else CharSet.asciiSpace
    | _ => if f.unicode then CharSet.word else CharSet.asciiWord
  checkBytes f (if c.isUpper then s.complement (topOf f) else s)

/-- Cuts at the first occurrence of a text. -/
def cutAt (sep : List Char) : List Char → Option (List Char × List Char)
  | [] => none
  | c :: cs =>
    if sep.isPrefixOf (c :: cs) then some ([], (c :: cs).drop sep.length)
    else (cutAt sep cs).map fun (a, b) => (c :: a, b)

/-- The class between the braces of a property, and whether its operator negates it. -/
def propertyClass? (text : List Char) : Option (CharSet × Bool) :=
  match cutAt ['!', '='] text with
  | some (name, value) => (CharSet.valued? name value).map (·, true)
  | none =>
    match cutAt [':'] text <|> cutAt ['='] text with
    | some (name, value) => (CharSet.valued? name value).map (·, false)
    | none => (CharSet.named? text).map (·, false)

/-- A class by a property, after `p` or `P`. -/
def propertyEscape (letter : Char) : Read CharSet := do
  skipSpace
  let text ←
    if ← accept '{' then do
      let (text, cs) ← braced (← flags).extended false (← rest)
      setRest cs
      pure text
    else do
      let c ← next
      if c = '\\' then refuse else pure [c]
  let f ← flags
  if !f.unicode then refuse
  else
    let (s, negated) ← propertyClass? text
    closeSet f (negated != (letter = 'P')) s

/-- The side of a word that a name between braces means. -/
def wordEdge? (name : List Char) : Option WordEdge :=
  match String.ofList name with
  | "start" => some .start
  | "end" => some .stop
  | "start-half" => some .startHalf
  | "end-half" => some .stopHalf
  | _ => none

/-- The word edge after `\b`: one of the sides if braces with a name follow. Braces that begin with
neither a letter nor a hyphen count a repetition. -/
def wordEscape : Read WordEdge := do
  match ← rest with
  | '{' :: cs =>
    let x := (← flags).extended
    match spaced x cs with
    | [] => refuse
    | c :: cs' =>
      if c.isAlpha || c = '-' then do
        let (name, cs) ← braced x false (c :: cs')
        setRest cs
        wordEdge? name
      else return .boundary
  | _ => return .boundary

/-- What follows a backslash. -/
def escape : Read Atom := do
  let c ← next
  let u := (← flags).unicode
  match c with
  | 'x' | 'u' | 'U' => do
    let (c, byte) ← hexEscape c
    return .char c byte
  | 'p' | 'P' => return .named (← propertyEscape c)
  | 'd' | 's' | 'w' | 'D' | 'S' | 'W' => return .named (← letterClass (← flags) c)
  | 'a' => return .char '\x07' false
  | 'f' => return .char '\x0c' false
  | 't' => return .char '\t' false
  | 'n' => return .char '\n' false
  | 'r' => return .char '\r' false
  | 'v' => return .char '\x0b' false
  | 'A' => return .edge .textStart
  | 'z' => return .edge .textEnd
  | 'b' => return .edge (.word (← wordEscape) u)
  | 'B' => return .edge (.word .inside u)
  | '<' => return .edge (.word .start u)
  | '>' => return .edge (.word .stop u)
  | c => if isEscapable c then return .char c false else refuse

/-- An atom outside a class. -/
def atom : Read Atom := do
  let f ← flags
  match ← next with
  | '\\' => escape
  | '.' => return .dot
  | '^' =>
    return .edge (if !f.multiLine then .textStart
      else if f.returnLines then .returnLineStart else .lineStart)
  | '$' =>
    return .edge (if !f.multiLine then .textEnd
      else if f.returnLines then .returnLineEnd else .lineEnd)
  | c => return .char c false

/-! ### Classes in brackets -/

/-- A class under construction: its members, how many items gave them, and how deep it is nested. -/
structure Items where
  members : CharSet := .empty
  count : Nat := 0
  depth : Nat := 0

def Items.add (i : Items) (s : CharSet) (depth : Nat) : Items :=
  ⟨i.members.union s, i.count + 1, Nat.max i.depth depth⟩

/-- Several items are nested one level deeper than a single one. -/
def Items.nesting (i : Items) : Nat := if i.count < 2 then i.depth else i.depth + 1

inductive SetOp | inter | diff | symDiff

def SetOp.apply (op : SetOp) (s t : CharSet) : CharSet :=
  match op with
  | inter => s.inter t
  | diff => s.diff t
  | symDiff => (s.union t).diff (s.inter t)

/-- The part of a class before an operator, with that operator. -/
abbrev Pending := Option (CharSet × Nat × SetOp)

/-- Closes the items after an operator, or all of them if there is none. -/
def combine (f : Flags) (left : Pending) (i : Items) : CharSet × Nat :=
  match left with
  | none => (i.members, i.nesting)
  | some (s, depth, op) =>
    let fold (s : CharSet) : CharSet :=
      if !f.ignoreCase then s else if f.unicode then s.foldCase else s.foldAscii
    (op.apply (fold s) (fold i.members), Nat.max depth i.nesting + 1)

/-- A bracketed ASCII class such as `[:alpha:]`, if one comes next. -/
def asciiClass? (f : Flags) (cs : List Char) : Option (CharSet × List Char) := do
  match cs with
  | '[' :: ':' :: cs =>
    let (negated, cs) := match cs with
      | '^' :: cs => (true, cs)
      | cs => (false, cs)
    let name := cs.takeWhile (· != ':')
    match cs.dropWhile (· != ':') with
    | ':' :: ']' :: cs =>
      let s ← CharSet.ascii? (String.ofList name)
      some (← closeSet f negated s, cs)
    | _ => none
  | _ => none

/-- The name of a bracketed ASCII class comes next, whether or not the flags allow the class. -/
def asciiClassAhead (cs : List Char) : Bool := (asciiClass? {} cs).isSome

/-- A character as a member of a class of bytes or characters. -/
def memberOf (f : Flags) (c : Char) : Option Nat :=
  if f.unicode || c.toNat < 0x80 then some c.toNat else none

/-- An item of a class: a backslash and what follows it, or a character. -/
def classAtom : Read Atom := do
  match ← next with
  | '\\' => escape
  | c => return .char c false

/-- The character after the one that comes next; comments hide it only up to their first visible
character. -/
def peekSpaced (extended : Bool) (cs : List Char) : Option Char :=
  let after := cs.drop 1
  if !extended then after.head?
  else
    match after.dropWhile Text.isBlank with
    | '#' :: comment =>
      match comment.dropWhile Text.isBlank with
      | c :: _ => some c
      | [] => after.head?
    | c :: _ => some c
    | [] => after.head?

/-- A range of characters, a single one, or a named class. -/
def classRange : Read CharSet := do
  let first ← classAtom
  skipSpace
  let f ← flags
  let cs ← rest
  let after := peekSpaced f.extended cs
  match cs with
  | [] => refuse
  | c :: cs =>
    if c ≠ '-' ∨ after = some ']' ∨ after = some '-' then
      match first with
      | .char c _ => return .single (← memberOf f c)
      | .named s => return s
      | _ => refuse
    else do
      setRest cs
      skipSpace
      match first, ← classAtom with
      | .char lo _, .char hi _ => do
        let lo ← memberOf f lo
        let hi ← memberOf f hi
        if lo ≤ hi then return ⟨[(lo, hi)]⟩ else refuse
      | _, _ => refuse

/-- Hyphens at the start of a class stand for themselves. -/
def leadingHyphens : Nat → Items → Read Items
  | 0, i => return i
  | fuel + 1, i => do
    if ← accept '-' then do
      skipSpace
      leadingHyphens fuel (i.add (.single '-'.toNat) 0)
    else return i

mutual

/-- A class after its opening bracket, with the depth of its nesting. -/
def classBody : Nat → Read (CharSet × Nat)
  | 0 => refuse
  | fuel + 1 => do
    skipSpace
    let negated ← accept '^'
    skipSpace
    let i ← leadingHyphens (← rest).length {}
    let i ←
      if i.count = 0 then do
        if ← accept ']' then pure (i.add (.single ']'.toNat) 0) else pure i
      else pure i
    let (s, depth) ← classItems fuel none i
    return (← closeSet (← flags) negated s, depth + 1)

/-- The items of a class up to its closing bracket. -/
def classItems : Nat → Pending → Items → Read (CharSet × Nat)
  | 0, _, _ => refuse
  | fuel + 1, left, i => do
    skipSpace
    let f ← flags
    let operator (op : SetOp) (cs : List Char) : Read (CharSet × Nat) := do
      setRest cs
      let (s, depth) := combine f left i
      classItems fuel (some (s, depth, op)) {}
    match ← rest with
    | [] => refuse
    | ']' :: cs => do
      setRest cs
      return combine f left i
    | '&' :: '&' :: cs => operator .inter cs
    | '-' :: '-' :: cs => operator .diff cs
    | '~' :: '~' :: cs => operator .symDiff cs
    | '[' :: cs =>
      if asciiClassAhead ('[' :: cs) then do
        let (s, cs) ← asciiClass? f ('[' :: cs)
        setRest cs
        classItems fuel left (i.add s 0)
      else do
        setRest cs
        let (s, depth) ← classBody fuel
        classItems fuel left (i.add s depth)
    | _ => do
      let s ← classRange
      classItems fuel left (i.add s 0)

end

/-! ### Groups -/

/-- Switches one flag. -/
def Flags.set (f : Flags) (letter : Char) (on : Bool) : Option Flags :=
  match letter with
  | 'i' => some { f with ignoreCase := on }
  | 'm' => some { f with multiLine := on }
  | 's' => some { f with dotAll := on }
  | 'U' => some { f with swapGreed := on }
  | 'u' => some { f with unicode := on }
  | 'R' => some { f with returnLines := on }
  | 'x' => some { f with extended := on }
  | _ => none

/-- Applies flag letters; those after a hyphen are switched off. No letter and no hyphen may stand
twice, and a hyphen must not stand last. -/
def applyFlags (f : Flags) (on : Bool) (seen : List Char) : List Char → Option Flags
  | [] => if seen.head? = some '-' then none else some f
  | c :: cs =>
    if seen.contains c then none
    else if c = '-' then applyFlags f false (c :: seen) cs
    else do applyFlags (← f.set c on) on (c :: seen) cs

def isNameStart (c : Char) : Bool :=
  c = '_' || (CharSet.ofNames Unicode.properties ["alpha"]).has c.toNat

def isNameRest (c : Char) : Bool :=
  isNameStart c || c = '.' || c = '[' || c = ']' ||
    (CharSet.ofNames Unicode.categories ["nd", "nl", "no"]).has c.toNat

/-- The name of a group, which no other group has, and its closing bracket. -/
def groupName : Read Unit := do
  let s ← get
  let name := s.rest.takeWhile (· != '>')
  match s.rest.dropWhile (· != '>'), name with
  | '>' :: cs, first :: others =>
    if isNameStart first && others.all isNameRest && !s.names.contains name then
      modify fun s => { s with rest := cs, names := name :: s.names }
    else refuse
  | _, _ => refuse

/-- How a group begins. -/
inductive Opening
  | group
  | flagsOnly

/-- Reads what stands between an opening bracket and the group's body, and sets the flags. -/
def opening : Read Opening := do
  skipSpace
  match ← rest with
  | '?' :: 'P' :: '<' :: cs => do setRest cs; groupName; return .group
  | '?' :: '<' :: '=' :: _ | '?' :: '<' :: '!' :: _ => refuse
  | '?' :: '<' :: cs => do setRest cs; groupName; return .group
  | '?' :: cs => do
    let isEnd (c : Char) : Bool := c = ':' || c = ')'
    let letters := cs.takeWhile (!isEnd ·)
    let f ← applyFlags (← flags) true [] letters
    match cs.dropWhile (!isEnd ·) with
    | ':' :: cs => do setRest cs; setFlags f; return .group
    | ')' :: cs =>
      if letters = [] then refuse else do setRest cs; setFlags f; return .flagsOnly
    | _ => refuse
  | _ => return .group

/-! ### Repetition -/

/-- Decimal digits, with what may stand between them. -/
def digitsFrom (extended : Bool) : Nat → List Char → List Char × List Char
  | fuel + 1, c :: cs =>
    if c.isDigit then
      let (ds, cs) := digitsFrom extended fuel (spaced extended cs)
      (c :: ds, cs)
    else ([], c :: cs)
  | _, cs => ([], cs)

/-- A count with blanks around it; counts have at most 32 bits. -/
def count : Read Nat := do
  let x := (← flags).extended
  let cs := (← rest).dropWhile Text.isBlank
  let (ds, cs) := digitsFrom x cs.length cs
  setRest (if x then skipExtended false cs else cs.dropWhile Text.isBlank)
  if ds ≠ [] ∧ digitsValue ds < 2 ^ (32 : Nat) then return digitsValue ds else refuse

/-- The bounds of a counted repetition after its opening brace. -/
def bounds : Read (Nat × Option Nat) := do
  skipSpace
  let least ← count
  if ← accept ',' then do
    skipSpace
    if ← accept '}' then return (least, none)
    else do
      let most ← count
      expect '}'
      if least ≤ most then return (least, some most) else refuse
  else do
    expect '}'
    return (least, some least)

/-! ### Patterns -/

/-- A pattern with the depth of its nesting; a change of flags is no pattern. -/
structure Node where
  pattern : Option Pattern
  depth : Nat

/-- A character under the flags. -/
def charPattern (f : Flags) (c : Char) (byte : Bool) : Option Pattern :=
  if !f.unicode && byte && 0x80 ≤ c.toNat then none
  else if !f.ignoreCase then some (.set (.single c.toNat))
  else if f.unicode then some (.set (CharSet.single c.toNat).foldCase)
  else some (.set (CharSet.single c.toNat).foldAscii)

/-- Any character that does not end a line, or any at all. -/
def dotPattern (f : Flags) : Option Pattern :=
  if !f.unicode then none
  else if f.dotAll then some (.set .all)
  else
    let ends : CharSet := if f.returnLines then ⟨[(10, 10), (13, 13)]⟩ else .single 10
    some (.set (CharSet.complement CharSet.maxPoint ends))

def atomPattern (f : Flags) : Atom → Option Pattern
  | .char c byte => charPattern f c byte
  | .named s => some (.set s)
  | .edge e => some (.edge e)
  | .dot => dotPattern f

/-- The nodes of a sequence, which is nested deeper if there are several. -/
def sequence (nodes : List Node) : Node :=
  let depth := (nodes.map Node.depth).foldl Nat.max 0
  let patterns := nodes.filterMap Node.pattern
  let pattern := match patterns with
    | [] => .empty
    | p :: ps => ps.foldl .seq p
  ⟨some pattern, if nodes.length < 2 then depth else depth + 1⟩

/-- The branches of an alternation. -/
def choice (first : Node) (others : List Node) : Node :=
  match others with
  | [] => first
  | _ =>
    let nodes := first :: others
    let depth := (nodes.map Node.depth).foldl Nat.max 0
    let pattern := match nodes.filterMap Node.pattern with
      | [] => .empty
      | p :: ps => ps.foldl .alt p
    ⟨some pattern, depth + 1⟩

/-- Repeats the last node of a sequence, given in reverse. -/
def repeatLast (least : Nat) (most : Option Nat) : List Node → Option (List Node)
  | ⟨some p, depth⟩ :: nodes => some (⟨some (.rep p least most), depth + 1⟩ :: nodes)
  | _ => none

mutual

/-- Branches up to a closing bracket or the end. -/
def branches : Nat → Read Node
  | 0 => refuse
  | fuel + 1 => do
    let first ← items fuel []
    let others ← moreBranches fuel
    return choice first others

/-- Branches after the first one. -/
def moreBranches : Nat → Read (List Node)
  | 0 => refuse
  | fuel + 1 => do
    if ← accept '|' then do
      let first ← items fuel []
      return first :: (← moreBranches fuel)
    else return []

/-- The items of one branch, given in reverse as far as they have been read. -/
def items : Nat → List Node → Read Node
  | 0, _ => refuse
  | fuel + 1, nodes => do
    skipSpace
    let repeated (least : Nat) (most : Option Nat) : Read Node := do
      let nodes ← repeatLast least most nodes
      let _ ← accept '?'
      items fuel nodes
    match ← rest with
    | [] | '|' :: _ | ')' :: _ => return sequence nodes.reverse
    | '?' :: cs => do setRest cs; repeated 0 (some 1)
    | '*' :: cs => do setRest cs; repeated 0 none
    | '+' :: cs => do setRest cs; repeated 1 none
    | '{' :: cs =>
      match nodes with
      | [] => refuse
      | _ => do
        setRest cs
        let (least, most) ← bounds
        skipSpace
        repeated least most
    | '[' :: cs => do
      setRest cs
      let (s, depth) ← classBody fuel
      items fuel (⟨some (.set s), depth⟩ :: nodes)
    | '(' :: cs => do
      setRest cs
      let outside ← flags
      match ← opening with
      | .flagsOnly => items fuel (⟨none, 0⟩ :: nodes)
      | .group => do
        let inner ← branches fuel
        expect ')'
        setFlags outside
        items fuel (⟨inner.pattern, inner.depth + 1⟩ :: nodes)
    | _ => do
      let a ← atom
      let p ← atomPattern (← flags) a
      items fuel (⟨some p, 0⟩ :: nodes)

end

/-- How deep groups, repetitions, sequences, choices and classes may be nested. -/
def maxNesting : Nat := 250

/-- The pattern that a text writes, whatever its weight. -/
def read? (cs : List Char) : Option Pattern := do
  let (node, s) ← (branches (2 * cs.length + 3)).run ⟨cs, {}, []⟩
  if s.rest = [] ∧ node.depth ≤ maxNesting then node.pattern else none

/-- The pattern that a text writes. -/
def ofText? (s : String) : Option Pattern := (read? s.toList).filter (·.weight ≤ maxWeight)

/-- Why a text is no pattern. -/
inductive Fault
  /-- The text is outside the language; the complaint says where. -/
  | malformed (complaint : String)
  /-- The pattern is heavier than the limit. -/
  | tooHeavy (limit : Nat)
  deriving DecidableEq

/-- What is wrong with a text that writes no pattern. The words of a complaint are left out. -/
def Fault.of (s : String) : Fault :=
  if (read? s.toList).isSome then .tooHeavy maxWeight else .malformed ""

end FieldRules.Pattern
