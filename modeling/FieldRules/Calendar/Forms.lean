import FieldRules.Calendar.Instant
import FieldRules.Calendar.Scan
/-!
The accepted forms of dates. A text is read as the first of these that fits it:

* an internet timestamp, `2024-02-29T10:30:15.5+02:00`;
* a mail date, `Thu, 29 Feb 2024 10:30 +0200 (comment)`;
* a date and a time of day in universal time, with `T` or blank space between them, with or
  without seconds; its numbers need not be padded and may follow blank space;
* a year of four digits, a year and a month, or a date, at midnight.
-/

namespace FieldRules.Calendar

/-! ### Internet timestamps -/

/-- `Z`, or a sign, hours, a colon and minutes up to 23:59. -/
def scanOffset : List Char → Option (Int × List Char)
  | c :: rest =>
    if c = 'Z' ∨ c = 'z' then some (0, rest)
    else if c = '+' ∨ c = '-' ∨ c = '\u2212' then do
      let (s, rest) ← scanHoursMinutes (scanChar ':') rest
      if s < 86400 then some (if c = '+' then s else -(s : Int), rest) else none
    else none
  | [] => none

/-- An internet timestamp. -/
def timestamp? (cs : List Char) : Option DateTime := do
  let (year, cs) ← scanNumber 4 (some 4) cs
  let cs ← scanChar '-' cs
  let (month, cs) ← scanNumber 2 (some 2) cs
  let cs ← scanChar '-' cs
  let (day, cs) ← scanNumber 2 (some 2) cs
  let cs ← scanChar 'T' cs <|> scanChar 't' cs <|> scanChar ' ' cs
  let (hour, cs) ← scanNumber 2 (some 2) cs
  let cs ← scanChar ':' cs
  let (minute, cs) ← scanNumber 2 (some 2) cs
  let cs ← scanChar ':' cs
  let (second, cs) ← scanNumber 2 (some 2) cs
  let (nanos, cs) ← scanFraction cs
  let (offset, cs) ← scanOffset cs
  if cs = [] then some ⟨⟨year, month, day⟩, hour, minute, second, nanos, offset⟩ else none

/-! ### Mail dates -/

def weekdays : List (List Char) :=
  ["sun", "mon", "tue", "wed", "thu", "fri", "sat"].map String.toList

def months : List (List Char) :=
  ["jan", "feb", "mar", "apr", "may", "jun", "jul", "aug", "sep", "oct", "nov", "dec"].map
    String.toList

/-- Hours of the zones that have names; a single letter other than `J` is universal time. -/
def zoneHours? (name : String) : Option Int :=
  match name with
  | "gmt" | "ut" | "z" => some 0
  | "edt" => some (-4)
  | "est" | "cdt" => some (-5)
  | "cst" | "mdt" => some (-6)
  | "mst" | "pdt" => some (-7)
  | "pst" => some (-8)
  | _ => if name.length = 1 ∧ name ≠ "j" then some 0 else none

/-- The name of a zone, or a sign and four digits. -/
def scanZone (cs : List Char) : Option (Int × List Char) :=
  match cs with
  | '+' :: rest => do
    let (s, rest) ← scanHoursMinutes some rest
    some ((s : Int), rest)
  | '-' :: rest => do
    let (s, rest) ← scanHoursMinutes some rest
    some (-(s : Int), rest)
  | cs => do
    let name := (cs.takeWhile (·.isAlpha)).map Char.toLower
    if name = [] then none
    else
      let h ← zoneHours? (String.ofList name)
      some (3600 * h, cs.dropWhile (·.isAlpha))

/-- The year that a mail date means by a number of two or three digits. -/
def fullYear (year length : Nat) : Nat :=
  if length = 2 then if year < 50 then year + 2000 else year + 1900
  else if length = 3 then year + 1900
  else year

/-- The text after a comment whose `depth` opening brackets have been taken; a backslash takes the
next character with it. -/
def skipComment : Nat → List Char → Option (List Char)
  | _, [] => none
  | depth, '\\' :: _ :: rest => skipComment depth rest
  | depth, '(' :: rest => skipComment (depth + 1) rest
  | depth, ')' :: rest =>
    match depth with
    | 0 | 1 => some rest
    | depth + 1 => skipComment depth rest
  | depth, _ :: rest => skipComment depth rest

/-- Nothing but comments, at most `fuel` of them. -/
def onlyComments : Nat → List Char → Bool
  | 0, cs => cs.isEmpty
  | fuel + 1, cs =>
    cs.isEmpty ||
      match Text.trimStart cs with
      | '(' :: rest =>
        match skipComment 1 rest with
        | some rest => onlyComments fuel rest
        | none => false
      | _ => false

/-- The weekday of a mail date, if it names one, and the text after its comma. -/
def scanWeekday (cs : List Char) : Option (Option Nat × List Char) :=
  match scanWord weekdays cs with
  | none => some (none, cs)
  | some (w, cs) => do
    let cs ← scanChar ',' cs
    some (some w, cs)

/-- The seconds of a mail date, which may be left out. -/
def scanSeconds (cs : List Char) : Option (Nat × List Char) :=
  match scanChar ':' (Text.trimStart cs) with
  | some cs => scanNumber 2 (some 2) cs
  | none => some (0, cs)

/-- A mail date. -/
def mailDate? (cs : List Char) : Option DateTime := do
  let (weekday, cs) ← scanWeekday (Text.trimStart cs)
  let (day, cs) ← scanNumber 1 (some 2) (Text.trimStart cs)
  let cs ← scanBlank cs
  let (month, cs) ← scanWord months cs
  let cs ← scanBlank cs
  let (year, after) ← scanNumber 2 none cs
  let year := fullYear year (cs.length - after.length)
  let cs ← scanBlank after
  let (hour, cs) ← scanNumber 2 (some 2) cs
  let cs ← scanChar ':' (Text.trimStart cs)
  let (minute, cs) ← scanNumber 2 (some 2) (Text.trimStart cs)
  let (second, cs) ← scanSeconds cs
  let cs ← scanBlank cs
  let (offset, cs) ← scanZone cs
  let date : Date := ⟨year, month + 1, day⟩
  if onlyComments cs.length cs ∧ weekday.all (fun w => date.weekday = w) then
    some ⟨date, hour, minute, second, 0, offset⟩
  else none

/-! ### Plain dates and times -/

/-- A number of at most two digits after blank space. -/
def scanPlain (cs : List Char) : Option (Nat × List Char) :=
  scanNumber 1 (some 2) (Text.trimStart cs)

/-- A year of at most four digits after blank space; after a sign it may have any number. -/
def scanYear (cs : List Char) : Option (Int × List Char) :=
  match Text.trimStart cs with
  | '-' :: rest => do
    let (y, rest) ← scanNumber 1 none rest
    some (-(y : Int), rest)
  | '+' :: rest => do
    let (y, rest) ← scanNumber 1 none rest
    some ((y : Int), rest)
  | rest => do
    let (y, rest) ← scanNumber 1 (some 4) rest
    some ((y : Int), rest)

/-- Year, month and day with hyphens between them. -/
def scanDate (cs : List Char) : Option (Date × List Char) := do
  let (year, cs) ← scanYear cs
  let cs ← scanChar '-' cs
  let (month, cs) ← scanPlain cs
  let cs ← scanChar '-' cs
  let (day, cs) ← scanPlain cs
  some (⟨year, month, day⟩, cs)

/-- A date, `sep`, hours and minutes, and seconds if `seconds` asks for them. -/
def plainTime? (sep : List Char → Option (List Char)) (seconds : Bool) (cs : List Char) :
    Option DateTime := do
  let (date, cs) ← scanDate cs
  let cs ← sep cs
  let (hour, cs) ← scanPlain cs
  let cs ← scanChar ':' cs
  let (minute, cs) ← scanPlain cs
  let (second, nanos, cs) ← if seconds then do
      let cs ← scanChar ':' cs
      let (second, cs) ← scanPlain cs
      let (nanos, cs) ← scanFraction cs
      some (second, nanos, cs)
    else some (0, 0, cs)
  if cs = [] then some ⟨date, hour, minute, second, nanos, 0⟩ else none

def midnight (date : Date) : DateTime := ⟨date, 0, 0, 0, 0, 0⟩

/-- A whole text that is a date. -/
def plainDate? (cs : List Char) : Option DateTime := do
  let (date, cs) ← scanDate cs
  if cs = [] then some (midnight date) else none

/-- A year, a month or a date, told apart by the length of the text in bytes. -/
def shortForm? (cs : List Char) : Option DateTime :=
  let bytes := cs.foldr (fun c n => c.utf8Size + n) 0
  if bytes = 4 ∧ cs.all (·.isDigit) then some (midnight ⟨digitsValue cs, 1, 1⟩)
  else if bytes = 7 then plainDate? (cs ++ ['-', '0', '1'])
  else plainDate? cs

/-! ### All forms -/

def withT : List Char → Option (List Char) := scanChar 'T'

def withSpace (cs : List Char) : Option (List Char) := some (Text.trimStart cs)

/-- The forms in the order in which they are tried. -/
def forms : List (List Char → Option DateTime) :=
  [timestamp?, mailDate?, plainTime? withT true, plainTime? withT false,
    plainTime? withSpace true, plainTime? withSpace false, shortForm?]

/-- The instant that a text means, blank characters at its ends aside. -/
def instantOfText? (s : String) : Option Instant :=
  let cs := Text.trim s.toList
  if cs = [] then none else forms.findSome? fun f => (f cs).bind DateTime.instant?

end FieldRules.Calendar
