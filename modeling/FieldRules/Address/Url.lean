import FieldRules.Address.Host
/-!
Absolute addresses. An address is a scheme, a colon and, where the scheme has hosts, slashes, user
information, a host and the number of a service; what follows is never wrong. Blanks and control
characters at the ends and line breaks anywhere do not count.

`isUrl` says whether text is an address. Every function takes its part off the front and gives the
rest.
-/

attribute [local instance (high)] instPowNat

namespace FieldRules.Address

/-- What a scheme asks of the text after it. -/
inductive Scheme where
  /-- Files, with or without a host. -/
  | file
  /-- Schemes that always have a host. -/
  | hosted
  | other
  deriving DecidableEq

namespace Scheme

def ofName (name : List Char) : Scheme :=
  match String.ofList name with
  | "file" => .file
  | "http" | "https" | "ws" | "wss" | "ftp" => .hosted
  | _ => .other

/-- A letter, and letters, digits and three signs up to the first colon. -/
def scan? (cs : List Char) : Option (Scheme × List Char) := do
  let (name, rest) ← Text.splitOnce ':' cs
  let first ← name.head?
  if first.isAlpha && name.all fun c => c.isAlphanum || c = '+' || c = '-' || c = '.' then
    some (ofName (name.map Char.toLower), rest)
  else none

/-- Characters that take the part of a slash. -/
def isSlash (s : Scheme) (c : Char) : Bool := c = '/' || (c = '\\' && s ≠ .other)

/-- Characters that end user information, host and service. -/
def endsAuthority (s : Scheme) (c : Char) : Bool := c = '?' || c = '#' || s.isSlash c

end Scheme

/-- Splits at the last `@`. -/
def splitUser (cs : List Char) : Option (List Char × List Char) :=
  match cs.reverse.span (· ≠ '@') with
  | (after, _ :: before) => some (before.reverse, after.reverse)
  | (_, []) => none

/-- A host up to a colon that no brackets enclose, and the rest. -/
def spanHost (inBrackets : Bool) : List Char → List Char × List Char
  | [] => ([], [])
  | c :: cs =>
    if c = ':' ∧ ¬ inBrackets then ([], c :: cs)
    else
      let inside := if c = '[' then true else if c = ']' then false else inBrackets
      let (host, rest) := spanHost inside cs
      (c :: host, rest)

/-- The rest after a host is nothing, or a colon and a number below 2^16, up to a backslash. -/
def isService : List Char → Bool
  | [] => true
  | _ :: number =>
    let digits := number.takeWhile (·.isDigit)
    digitsBelow digits && ((number.drop digits.length).head?.all (· = '\\'))
where
  digitsBelow (digits : List Char) : Bool := ((Text.valueIn? 10 digits).getD 0) < 2 ^ (16 : Nat)

/-- User information gives something: a name, or a password. -/
def hasUser (user : List Char) : Bool := user ≠ [] && user ≠ [':']

/-- User information, host and service, up to the path. -/
def isAuthority (s : Scheme) (cs : List Char) : Bool :=
  let (text, path) := cs.span fun c => !s.endsAuthority c
  match splitUser text with
  | some ([], []) => path = [] && isHostAndService s false []
  | some (user, rest) => isHostAndService s (hasUser user) rest
  | none => isHostAndService s false text
where
  isHostAndService (s : Scheme) (user : Bool) (cs : List Char) : Bool :=
    let (host, service) := spanHost false cs
    if host = [] then s = .other && service = [] && !user
    else
      (if s = .other then Host.ofOther? host else Host.ofText? host).isSome && isService service

/-- A letter and a colon or a bar name a drive, not a host. -/
def isDrive : List Char → Bool
  | [letter, mark] => letter.isAlpha && (mark = ':' || mark = '|')
  | _ => false

/-- What follows the scheme of a file: a host after two slashes, or a path. -/
def isFile : List Char → Bool
  | a :: b :: rest =>
    if Scheme.file.isSlash a && Scheme.file.isSlash b then
      let host := rest.takeWhile fun c => !Scheme.file.endsAuthority c
      host = [] || isDrive host || (Host.ofText? host).isSome
    else true
  | _ => true

/-- The text is an absolute address. -/
def isUrl (s : String) : Bool :=
  let ends (c : Char) : Bool := c.toNat ≤ 0x20
  let text := ((s.toList.dropWhile ends).reverse.dropWhile ends).reverse
  match Scheme.scan? (text.filter fun c => c ≠ '\t' && c ≠ '\n' && c ≠ '\r') with
  | none => false
  | some (.file, rest) => isFile rest
  | some (.hosted, rest) => isAuthority .hosted (rest.dropWhile Scheme.hosted.isSlash)
  | some (.other, '/' :: '/' :: rest) => isAuthority .other rest
  | some (.other, _) => true

end FieldRules.Address
