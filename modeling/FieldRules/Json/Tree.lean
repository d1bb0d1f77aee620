import FieldRules.Json.Literal
import FieldRules.Text.Digits
/-!
JSON text taken apart. `Json` keeps what the text says and no more: members in their order with
repeated names, number literals as written. A string is absent where an escape names half of a
surrogate pair, since such a string stands for no text.

`Json.ofText?` accepts exactly one value with white space around it. Fuel bounds the recursion;
twice the length of the text is enough, because of two calls in a row one takes a character.
-/

namespace FieldRules

/-- A JSON value as written. -/
inductive Json
  | null
  | bool (b : Bool)
  | number (l : Literal)
  | string (s : Option String)
  | list (items : List Json)
  | object (members : List (Option String × Json))

namespace Json

/-! ### Space, literals, strings -/

def isSpace (c : Char) : Bool := c = ' ' || c = '\t' || c = '\n' || c = '\r'

def skipSpace (cs : List Char) : List Char := cs.dropWhile isSpace

/-- The character after a backslash. -/
def escaped? : Char → Option Char
  | '"' => some '"'
  | '\\' => some '\\'
  | '/' => some '/'
  | 'b' => some '\x08'
  | 'f' => some '\x0c'
  | 'n' => some '\n'
  | 'r' => some '\r'
  | 't' => some '\t'
  | _ => none

/-- Code points and surrogates up to the closing quote, and the rest of the text. -/
def units? : List Char → Option (List Nat × List Char)
  | '\\' :: 'u' :: a :: b :: c :: d :: rest => do
    let a ← Text.hexDigit? a
    let b ← Text.hexDigit? b
    let c ← Text.hexDigit? c
    let d ← Text.hexDigit? d
    let (us, rest) ← units? rest
    some ((((a * 16 + b) * 16 + c) * 16 + d) :: us, rest)
  | '\\' :: e :: rest => do
    let c ← escaped? e
    let (us, rest) ← units? rest
    some (c.toNat :: us, rest)
  | '"' :: rest => some ([], rest)
  | c :: rest =>
    if c.toNat < 0x20 ∨ c = '\\' then none
    else do
      let (us, rest) ← units? rest
      some (c.toNat :: us, rest)
  | [] => none

def isHigh (u : Nat) : Bool := 0xD800 ≤ u && u < 0xDC00

def isLow (u : Nat) : Bool := 0xDC00 ≤ u && u < 0xE000

/-- Joins surrogate pairs; half a pair stands for no text. -/
def decode? : List Nat → Option (List Char)
  | [] => some []
  | u :: v :: rest =>
    if isHigh u then
      if isLow v then
        (decode? rest).map (Char.ofNat (0x10000 + (u - 0xD800) * 0x400 + (v - 0xDC00)) :: ·)
      else none
    else if isLow u then none
    else (decode? (v :: rest)).map (Char.ofNat u :: ·)
  | [u] => if isHigh u || isLow u then none else some [Char.ofNat u]

/-- The string after an opening quote, and the rest. -/
def string? (cs : List Char) : Option (Option String × List Char) := do
  let (us, rest) ← units? cs
  some ((decode? us).map String.ofList, rest)

/-! ### Numbers -/

/-- The fraction of a number, which has a digit after its point. -/
def fraction? : List Char → Option (Option (List Char) × List Char)
  | '.' :: cs =>
    let (ds, rest) := spanDigits cs
    if ds = [] then none else some (some ds, rest)
  | cs => some (none, cs)

/-- The exponent of a number, which has a digit after its mark. -/
def exponent? : List Char → Option (Option (Bool × List Char) × List Char)
  | [] => some (none, [])
  | c :: cs =>
    if c = 'e' ∨ c = 'E' then
      let (negative, cs) := spanSign cs
      let (ds, rest) := spanDigits cs
      if ds = [] then none else some (some (negative, ds), rest)
    else some (none, c :: cs)

/-- A number literal; a whole part of several digits does not begin with zero. -/
def literal? (cs : List Char) : Option (Literal × List Char) := do
  let (negative, cs) := match cs with
    | '-' :: cs => (true, cs)
    | cs => (false, cs)
  let (whole, cs) := spanDigits cs
  if whole = [] ∨ (whole.head? = some '0' ∧ whole.length ≠ 1) then none
  else do
    let (fraction, cs) ← fraction? cs
    let (exponent, cs) ← exponent? cs
    some (⟨negative, whole, fraction, exponent⟩, cs)

/-! ### Values -/

mutual

/-- One value and the rest of the text. -/
def value? : Nat → List Char → Option (Json × List Char)
  | 0, _ => none
  | fuel + 1, cs =>
    match skipSpace cs with
    | 'n' :: 'u' :: 'l' :: 'l' :: rest => some (null, rest)
    | 't' :: 'r' :: 'u' :: 'e' :: rest => some (bool true, rest)
    | 'f' :: 'a' :: 'l' :: 's' :: 'e' :: rest => some (bool false, rest)
    | '"' :: rest => do
      let (s, rest) ← string? rest
      some (string s, rest)
    | '[' :: rest =>
      match skipSpace rest with
      | ']' :: rest => some (list [], rest)
      | rest => do
        let (items, rest) ← items? fuel rest
        some (list items, rest)
    | '{' :: rest =>
      match skipSpace rest with
      | '}' :: rest => some (object [], rest)
      | rest => do
        let (members, rest) ← members? fuel rest
        some (object members, rest)
    | rest => do
      let (l, rest) ← literal? rest
      some (number l, rest)

/-- The items of a list that is not empty, and the text after its bracket. -/
def items? : Nat → List Char → Option (List Json × List Char)
  | 0, _ => none
  | fuel + 1, cs => do
    let (x, rest) ← value? fuel cs
    match skipSpace rest with
    | ',' :: rest =>
      let (xs, rest) ← items? fuel rest
      some (x :: xs, rest)
    | ']' :: rest => some ([x], rest)
    | _ => none

/-- The members of an object that is not empty, and the text after its brace. -/
def members? : Nat → List Char → Option (List (Option String × Json) × List Char)
  | 0, _ => none
  | fuel + 1, cs =>
    match skipSpace cs with
    | '"' :: rest => do
      let (name, rest) ← string? rest
      match skipSpace rest with
      | ':' :: rest =>
        let (x, rest) ← value? fuel rest
        match skipSpace rest with
        | ',' :: rest =>
          let (xs, rest) ← members? fuel rest
          some ((name, x) :: xs, rest)
        | '}' :: rest => some ([(name, x)], rest)
        | _ => none
      | _ => none
    | _ => none

end

/-- Reads a whole text. -/
def ofChars? (cs : List Char) : Option Json := do
  let (x, rest) ← value? (2 * cs.length + 2) cs
  if skipSpace rest = [] then some x else none

/-- Reads a whole text. -/
def ofText? (s : String) : Option Json := ofChars? s.toList

end Json

end FieldRules
