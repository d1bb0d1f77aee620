import FieldRules.Number.Number
import FieldRules.Pattern.Reader
import FieldRules.Text.Pieces
/-!
Log filters. A filter is a list of directives between commas; empty ones do not count. A directive
is a level, a target, or a target with a span, fields of the span in braces, and a level after an
equals sign.

A directive is read without the blanks around it, but its parts are cut out of the text that still
has these blanks, at the same positions. So the parts of a directive behind a blank are shifted, and
as positions count bytes, one of them may lie inside a character. Then reading breaks off, and the
run with it.
-/

namespace FieldRules.Command.LogFilter

/-! ### Parts of directives -/

/-- Letters, digits and other numerals of all scripts. -/
def wordStart : CharSet :=
  CharSet.union (CharSet.ofNames Unicode.properties ["alpha"])
    (CharSet.ofNames Unicode.categories ["nd", "nl", "no"])

/-- What a directive may begin with, apart from the bracket of a span. -/
def isNameStart (c : Char) : Bool := c = '-' || c = ':' || c = '_' || wordStart.has c.toNat

/-- A level by its name in any case, or by its number. -/
def isLevel (cs : List Char) : Bool :=
  let digits := match cs with
    | '+' :: rest => rest
    | cs => cs
  let name := String.ofList (cs.map Char.toLower)
  ["off", "error", "warn", "info", "debug", "trace"].contains name ||
    (digits ≠ [] && digits.all (·.isDigit) && digitsValue digits ≤ 5)

/-- A number with a plus sign, which is no pattern. -/
def isPositive (cs : List Char) : Bool :=
  match cs with
  | '+' :: rest =>
    (Decimal.ofChars? cs).isSome ||
      ["inf", "infinity", "nan"].contains (String.ofList (rest.map Char.toLower))
  | _ => false

/-- The name of a field, with or without a value: a number, or a pattern for the whole value without
conditions on words of all scripts. There is no limit for the weight of that pattern. -/
def isField (cs : List Char) : Bool :=
  cs ≠ [] &&
    match (Text.pieces '=' cs).2 with
    | [] => true
    | value :: _ => isPositive value || (Pattern.read? value).any fun p => !p.hasWordEdge

/-! ### Reading -/

/-- Why a filter is not read. -/
inductive Fault
  | invalid
  /-- A part cannot be cut out. -/
  | broken
  deriving DecidableEq

/-- Text before and after a position, which counts bytes. No position lies inside a character. -/
def cut? : Nat → List Char → Option (List Char × List Char)
  | 0, cs => some ([], cs)
  | _ + 1, [] => none
  | n + 1, c :: cs =>
    if c.utf8Size ≤ n + 1 then (cut? (n + 1 - c.utf8Size) cs).map fun p => (c :: p.1, p.2) else none

/-- The text from one position to another. -/
def part (text : List Char) (start stop : Nat) : Except Fault (List Char) :=
  match (cut? start text).bind fun p => cut? (stop - start) p.2 with
  | some (cs, _) => .ok cs
  | none => .error .broken

/-- The text from a position on. -/
def rest (text : List Char) (start : Nat) : Except Fault (List Char) :=
  match cut? start text with
  | some (_, cs) => .ok cs
  | none => .error .broken

/-- What a directive has come to. A part that is not at its end is known by the position where it
begins. -/
inductive Stage
  | nothing
  | name (start : Nat)
  | span (start : Nat)
  | field (start : Nat)
  | fields
  | closed
  | level (start : Nat)

/-- Reads the character at position `i`. -/
def step (text : List Char) (i : Nat) (c : Char) : Stage → Except Fault Stage
  | .nothing =>
    if c = '[' then .ok (.span (i + 1))
    else if isNameStart c then .ok (.name i)
    else .error .invalid
  | .name start =>
    if c = '=' then do
      let _ ← part text start i
      return .level (i + 1)
    else if c = '[' then do
      let _ ← part text start i
      return .span (i + 1)
    else .ok (.name start)
  | .span start =>
    if c = ']' then do
      let _ ← part text start i
      return .closed
    else if c = '\x7b' then do
      let _ ← part text start i
      return .field (i + 1)
    else .ok (.span start)
  | .field start =>
    if c = '\x7d' then do
      let field ← part text start i
      if isField field then return .fields else throw .invalid
    else .ok (.field start)
  | .fields => if c = ']' then .ok .closed else .error .invalid
  | .closed => if c = '=' then .ok (.level (i + 1)) else .error .invalid
  | .level start => .ok (.level start)

/-- Reads the end of a directive. A level may be left out behind its equals sign. -/
def finish (text : List Char) : Stage → Except Fault Unit
  | .name start => do
    let _ ← rest text start
    return ()
  | .closed => .ok ()
  | .level start => do
    let level ← rest text start
    if level = [] ∨ isLevel level then return () else throw .invalid
  | _ => .error .invalid

/-- Reads characters from position `i` on. -/
def readFrom (text : List Char) (i : Nat) (stage : Stage) : List Char → Except Fault Unit
  | [] => finish text stage
  | c :: cs => do
    let stage ← step text i c stage
    readFrom text (i + c.utf8Size) stage cs

/-- Reads one directive. -/
def readDirective (text : List Char) : Except Fault Unit :=
  readFrom text 0 .nothing (Text.trim text)

/-- Reads a filter. -/
def read (s : String) : Except Fault Unit :=
  ((Text.split ',' s.toList).filter (· ≠ [])).forM readDirective

end FieldRules.Command.LogFilter
