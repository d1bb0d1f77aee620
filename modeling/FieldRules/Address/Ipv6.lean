import FieldRules.Address.Ipv4
/-!
Addresses of eight pieces. Pieces of one to four hexadecimal digits stand between colons; one double
colon stands for at least one piece of zero; the last two pieces may be written as an address of
four bytes.
-/

attribute [local instance (high)] instPowNat

namespace FieldRules.Address.Ipv6

/-- The text before and after the first double colon. -/
def splitGap : List Char → Option (List Char × List Char)
  | ':' :: ':' :: rest => some ([], rest)
  | c :: rest => (splitGap rest).map fun (a, b) => (c :: a, b)
  | [] => none

/-- One piece. -/
def piece? (cs : List Char) : Option Nat := if cs.length ≤ 4 then Text.valueIn? 16 cs else none

/-- Pieces between colons; the last may be an address of four bytes. -/
def pieces? : List (List Char) → Option (List Nat)
  | [] => some []
  | [last] =>
    match Ipv4.dotted? last with
    | some n => some [n / 2 ^ (16 : Nat), n % 2 ^ (16 : Nat)]
    | none => (piece? last).map ([·])
  | g :: rest => do
    let p ← piece? g
    let ps ← pieces? rest
    some (p :: ps)

/-- The eight pieces of an address. -/
def ofText? (cs : List Char) : Option (List Nat) :=
  match splitGap cs with
  | none => (pieces? (Text.split ':' cs)).filter (·.length = 8)
  | some (before, after) => do
    let left ← if before = [] then some [] else (Text.split ':' before).mapM piece?
    let right ← if after = [] then some [] else pieces? (Text.split ':' after)
    let present := left.length + right.length
    if present < 8 then some (left ++ List.replicate (8 - present) 0 ++ right) else none

end FieldRules.Address.Ipv6
