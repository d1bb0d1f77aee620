import FieldRules.Toml.Scalar
import FieldRules.Toml.Tree
/-!
TOML text and the document it writes. `Toml.ofText?` accepts lines that hold a name with a value, a
header, a comment, or nothing. Two more escapes, for the escape character and for characters by two
digits, are read if they are asked for.

Every function takes its part off the front of the text and gives the rest. Fuel bounds the number
of items; the length of the text is enough, because every item takes a character.
-/

namespace FieldRules.Toml

/-! ### Space, line ends and comments -/

/-- Characters that may stand in comments and in strings of one line. -/
def isPlain (c : Char) : Bool := c = '\t' || (0x20 ≤ c.toNat && c.toNat ≠ 0x7F)

def isSpace (c : Char) : Bool := c = ' ' || c = '\t'

def skipSpace (cs : List Char) : List Char := cs.dropWhile isSpace

/-- The text after an end of line. -/
def newline? : List Char → Option (List Char)
  | '\n' :: rest => some rest
  | '\r' :: '\n' :: rest => some rest
  | _ => none

/-- The text after space and a comment, if there is one. -/
def skipComment (cs : List Char) : List Char :=
  match skipSpace cs with
  | '#' :: rest => rest.dropWhile isPlain
  | rest => rest

/-- The text after the end of a line with nothing left but space and a comment. -/
def lineEnd? (cs : List Char) : Option (List Char) :=
  match skipComment cs with
  | [] => some []
  | rest => newline? rest

/-- The text after space, comments and line ends. -/
def skipLines : Nat → List Char → List Char
  | 0, cs => cs
  | fuel + 1, cs =>
    match newline? (skipComment cs) with
    | some rest => skipLines fuel rest
    | none => skipSpace cs

/-! ### Strings -/

/-- The character by a number of hexadecimal digits. -/
def coded? (digits : Nat) (cs : List Char) : Option (Char × List Char) := do
  if cs.length < digits then none
  let c ← Text.charOf? (← Text.valueIn? 16 (cs.take digits))
  some (c, cs.drop digits)

/-- The character that is written after a backslash. -/
def escape? (extended : Bool) : List Char → Option (Char × List Char)
  | 'b' :: rest => some ('\x08', rest)
  | 't' :: rest => some ('\t', rest)
  | 'n' :: rest => some ('\n', rest)
  | 'f' :: rest => some ('\x0c', rest)
  | 'r' :: rest => some ('\r', rest)
  | '"' :: rest => some ('"', rest)
  | '\\' :: rest => some ('\\', rest)
  | 'u' :: rest => coded? 4 rest
  | 'U' :: rest => coded? 8 rest
  | 'e' :: rest => if extended then some ('\x1b', rest) else none
  | 'x' :: rest => if extended then coded? 2 rest else none
  | _ => none

/-- A string in double quotes, after the first of them. -/
def quoted? (extended : Bool) : Nat → List Char → Option (List Char × List Char)
  | 0, _ => none
  | _ + 1, [] => none
  | _ + 1, '"' :: rest => some ([], rest)
  | fuel + 1, '\\' :: rest => do
    let (c, rest) ← escape? extended rest
    let (cs, rest) ← quoted? extended fuel rest
    some (c :: cs, rest)
  | fuel + 1, c :: rest =>
    if isPlain c then (quoted? extended fuel rest).map fun (cs, rest) => (c :: cs, rest) else none

/-- A string in single quotes, after the first of them. -/
def verbatim? (cs : List Char) : Option (List Char × List Char) :=
  match cs.span fun c => c ≠ '\'' && isPlain c with
  | (body, '\'' :: rest) => some (body, rest)
  | _ => none

/-- The text after a backslash at the end of a line and all space that follows. -/
def continued? (cs : List Char) : Option (List Char) :=
  (newline? (skipSpace cs)).map fun rest =>
    rest.dropWhile fun c => isSpace c || c = '\n' || c = '\r'

/-- A string of several lines up to three of the quotes. Up to two more of them before the end
belong to the string. Escapes are read in double quotes only. -/
def lines? (extended : Bool) (quote : Char) : Nat → List Char → Option (List Char × List Char)
  | 0, _ => none
  | _ + 1, [] => none
  | fuel + 1, c :: rest =>
    if c = quote then
      let count := ((c :: rest).takeWhile (· = quote)).length
      if 3 ≤ count then
        let inside := min (count - 3) 2
        some (List.replicate inside quote, (c :: rest).drop (inside + 3))
      else (lines? extended quote fuel rest).map fun (cs, rest) => (c :: cs, rest)
    else if c = '\\' ∧ quote = '"' then
      match continued? rest with
      | some rest => lines? extended quote fuel rest
      | none => do
        let (c, rest) ← escape? extended rest
        let (cs, rest) ← lines? extended quote fuel rest
        some (c :: cs, rest)
    else
      match newline? (c :: rest) with
      | some rest => (lines? extended quote fuel rest).map fun (cs, rest) => ('\n' :: cs, rest)
      | none =>
        if isPlain c then
          (lines? extended quote fuel rest).map fun (cs, rest) => (c :: cs, rest)
        else none

/-- A string with its quotes. A line end right after three quotes does not belong to it. -/
def string? (extended : Bool) (cs : List Char) : Option (List Char × List Char) :=
  match cs with
  | '"' :: '"' :: '"' :: rest =>
    lines? extended '"' (rest.length + 1) ((newline? rest).getD rest)
  | '\'' :: '\'' :: '\'' :: rest =>
    lines? extended '\'' (rest.length + 1) ((newline? rest).getD rest)
  | '"' :: rest => quoted? extended (rest.length + 1) rest
  | '\'' :: rest => verbatim? rest
  | _ => none

/-! ### Names -/

def isNameChar (c : Char) : Bool := c.isAlphanum || c = '_' || c = '-'

/-- One name, bare or in quotes of one line. -/
def name? (extended : Bool) (cs : List Char) : Option (String × List Char) :=
  match cs with
  | '"' :: rest => (quoted? extended (rest.length + 1) rest).map fun (n, r) => (String.ofList n, r)
  | '\'' :: rest => (verbatim? rest).map fun (n, r) => (String.ofList n, r)
  | cs =>
    match cs.span isNameChar with
    | ([], _) => none
    | (n, rest) => some (String.ofList n, rest)

/-- Names between dots; the last one stands apart. -/
def names? (extended : Bool) : Nat → List Char → Option ((List String × String) × List Char)
  | 0, _ => none
  | fuel + 1, cs => do
    let (name, rest) ← name? extended (skipSpace cs)
    match skipSpace rest with
    | '.' :: rest =>
      let ((path, last), rest) ← names? extended fuel rest
      some ((name :: path, last), rest)
    | rest => some (([], name), rest)

/-! ### Values -/

/-- `true`, `false`, a number or a moment, which may have a space between date and time. -/
def word? (cs : List Char) : Option (Toml × List Char) :=
  let isWordChar (c : Char) : Bool := isNameChar c || c = '+' || c = '.' || c = ':'
  let (word, rest) := cs.span isWordChar
  let (word, rest) :=
    match scanDate word, rest with
    | some [], ' ' :: d :: more =>
      if d.isDigit then
        let (time, rest) := (d :: more).span isWordChar
        (word ++ ' ' :: time, rest)
      else (word, rest)
    | _, _ => (word, rest)
  if word = "true".toList then some (.boolean true, rest)
  else if word = "false".toList then some (.boolean false, rest)
  else if isInteger word || isFloat word || isMoment word then
    some (.scalar (String.ofList word), rest)
  else none

/-- Values between commas up to a bracket; a comma may follow the last one. -/
def items? (value? : List Char → Option (Toml × List Char)) :
    Nat → List Char → Option (List Toml × List Char)
  | 0, _ => none
  | fuel + 1, cs =>
    match skipLines cs.length cs with
    | ']' :: rest => some ([], rest)
    | rest => do
      let (x, rest) ← value? rest
      match skipLines rest.length rest with
      | ',' :: rest => do
        let (xs, rest) ← items? value? fuel rest
        some (x :: xs, rest)
      | ']' :: rest => some ([x], rest)
      | _ => none

/-- A name, an equals sign and a value. -/
def pair? (extended : Bool) (value? : List Char → Option (Toml × List Char)) (cs : List Char) :
    Option (((List String × String) × Toml) × List Char) := do
  let (names, rest) ← names? extended (cs.length + 1) cs
  match rest with
  | '=' :: rest => do
    let (x, rest) ← value? (skipSpace rest)
    some ((names, x), rest)
  | _ => none

/-- Pairs between commas up to a brace, all on one line, entered into a table. -/
def pairs? (extended : Bool) (value? : List Char → Option (Toml × List Char)) :
    Nat → Entries → List Char → Option (Entries × List Char)
  | 0, _, _ => none
  | fuel + 1, entries, cs => do
    let (((path, name), x), rest) ← pair? extended value? cs
    let entries ← define? path name x .inline entries
    match skipSpace rest with
    | ',' :: rest => pairs? extended value? fuel entries rest
    | '}' :: rest => some (entries, rest)
    | _ => none

/-- One value, with at most `depth` lists and tables inside one another. -/
def value? (extended : Bool) (depth : Nat) (cs : List Char) : Option (Toml × List Char) :=
  match depth, cs with
  | depth + 1, '[' :: rest =>
    (items? (value? extended depth) (rest.length + 1) rest).map fun (xs, rest) => (.list xs, rest)
  | depth + 1, '{' :: rest =>
    match skipSpace rest with
    | '}' :: rest => some (.table .inline [], rest)
    | rest =>
      (pairs? extended (value? extended depth) (rest.length + 1) [] rest).map fun (es, rest) =>
        (.table .inline es, rest)
  | _, cs =>
    match cs.head? with
    | some '"' | some '\'' =>
      (string? extended cs).map fun (s, rest) => (.text (String.ofList s), rest)
    | _ => word? cs

/-- How many lists and tables may stand inside one another. -/
def maxDepth : Nat := 79

/-! ### Documents -/

/-- Names up to a closing bracket. -/
def header? (extended : Bool) (cs : List Char) :
    Option ((List String × String) × List Char) := do
  let (names, rest) ← names? extended (cs.length + 1) cs
  match rest with
  | ']' :: rest => some (names, rest)
  | _ => none

/-- The lines of a document, entered into its tables. Names of values are looked up from the table
of the last header. -/
def document? (extended : Bool) : Nat → List String → Entries → List Char → Option Entries
  | 0, _, _, _ => none
  | fuel + 1, current, entries, cs =>
    match skipLines cs.length cs with
    | [] => some entries
    | '#' :: rest => if rest.all isPlain then some entries else none
    | '[' :: '[' :: rest => do
      let ((path, name), rest) ← header? extended rest
      match rest with
      | ']' :: rest =>
        document? extended fuel (path ++ [name]) (← openElement? path name entries)
          (← lineEnd? rest)
      | _ => none
    | '[' :: rest => do
      let ((path, name), rest) ← header? extended rest
      document? extended fuel (path ++ [name]) (← openTable? path name entries) (← lineEnd? rest)
    | rest => do
      let (((path, name), x), rest) ← pair? extended (value? extended maxDepth) rest
      let entries ← updateAt? false (define? path name x) current .header entries
      document? extended fuel current entries (← lineEnd? rest)

/-- The document that a text writes; a mark of byte order before it does not count. -/
def ofText? (extended : Bool) (s : String) : Option Entries :=
  let cs := match s.toList with
    | '\ufeff' :: cs => cs
    | cs => cs
  document? extended (cs.length + 1) [] [] cs

end FieldRules.Toml
