import FieldRules.Address.Domain
import FieldRules.Address.Ipv6
/-!
The host of an address: a domain name, a number, or text of another scheme that is kept as it is.
-/

namespace FieldRules.Address

inductive Host where
  | domain (labels : List (List Char))
  | ipv4 (address : Nat)
  | ipv6 (pieces : List Nat)
  | verbatim (text : List Char)
  deriving DecidableEq

/-- Bytes with every `%` and two hexadecimal digits replaced by the byte that they write. -/
def percentDecoded : List UInt8 → List UInt8
  | 0x25 :: a :: b :: rest =>
    match Text.hexDigit? (Char.ofNat a.toNat), Text.hexDigit? (Char.ofNat b.toNat) with
    | some m, some n => UInt8.ofNat (16 * m + n) :: percentDecoded rest
    | _, _ => 0x25 :: percentDecoded (a :: b :: rest)
  | c :: rest => c :: percentDecoded rest
  | [] => []

namespace Host

/-- An address in brackets. -/
def bracketed? (inner : List Char) : Option Host := do
  if inner.getLast? ≠ some ']' then none
  some (.ipv6 (← Ipv6.ofText? inner.dropLast))

/-- The host of a scheme whose hosts are names and numbers. -/
def ofText? (cs : List Char) : Option Host :=
  match cs with
  | '[' :: inner => bracketed? inner
  | cs => do
    let bytes := percentDecoded (String.ofList cs).toUTF8.toList
    let text ← String.fromUTF8? ⟨bytes.toArray⟩
    let labels ← Domain.labels? text.toList
    if labels = [[]] then none
    else if Ipv4.endsInNumber labels then (Ipv4.ofLabels? labels).map .ipv4
    else some (.domain labels)

/-- The host of any other scheme. -/
def ofOther? (cs : List Char) : Option Host :=
  match cs with
  | '[' :: inner => bracketed? inner
  | cs =>
    if cs.any "\x00\t\n\r #/:<>?@[\\]^|".toList.contains then none else some (.verbatim cs)

end Host

end FieldRules.Address
