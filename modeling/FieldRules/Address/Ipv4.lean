import FieldRules.Text.Digits
import FieldRules.Text.Pieces
/-!
Addresses of four bytes. Up to four numbers are separated by points; all but the last are bytes, and
the last one fills the bytes that remain. A number is decimal, octal after a zero, or hexadecimal
after `0x`.
-/

attribute [local instance (high)] instPowNat

namespace FieldRules.Address.Ipv4

/-- One number of an address. A prefix that nothing follows is zero. -/
def number? (cs : List Char) : Option Nat :=
  match cs with
  | '0' :: x :: rest =>
    if x = 'x' ∨ x = 'X' then if rest = [] then some 0 else Text.valueIn? 16 rest
    else Text.valueIn? 8 (x :: rest)
  | cs => Text.valueIn? 10 cs

/-- The labels without an empty one at the end. -/
def withoutRoot (labels : List (List Char)) : List (List Char) :=
  if labels.getLast? = some [] then labels.dropLast else labels

/-- A name whose last label is a number can only be an address. Digits alone are a number, even
where the address would take them as octal. -/
def endsInNumber (labels : List (List Char)) : Bool :=
  match (withoutRoot labels).getLast? with
  | some last => last ≠ [] && (last.all (·.isDigit) || (number? last).isSome)
  | none => false

/-- The address that numbers between points write. -/
def ofLabels? (labels : List (List Char)) : Option Nat := do
  let numbers ← (withoutRoot labels).mapM number?
  let last ← numbers.getLast?
  let bytes := numbers.dropLast
  if bytes.length < 4 ∧ bytes.all (· < 256) ∧ last < 256 ^ (4 - bytes.length) then
    some (bytes.foldr (fun b n => b * 256 ^ (3 : Nat) + n / 256) 0 + last)
  else none

/-- Four decimal bytes without leading zeros, as an address of another kind ends in them. -/
def dotted? (cs : List Char) : Option Nat := do
  let bytes ← (Text.split '.' cs).mapM fun ds =>
    if ds.length = 1 ∨ ds.head? ≠ some '0' then (Text.valueIn? 10 ds).filter (· < 256) else none
  if bytes.length = 4 then some (bytes.foldl (fun n b => 256 * n + b) 0) else none

end FieldRules.Address.Ipv4
