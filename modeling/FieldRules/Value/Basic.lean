import FieldRules.Json.Tree
import FieldRules.Table
import FieldRules.Text.Blank
/-!
Field values and records. A value is what a JSON document holds; a record gives a value to each of
its fields, and a missing field reads as `null`.

The classes that rules branch on live here: a value is empty when it is `null`, blank text or an
empty list; it has a number when it is one or is text that writes one; it has a length when it is
text or a list.
-/

namespace FieldRules

/-- A value of a document. The members of an object that was read are sorted by name. -/
inductive Value
  | null
  | bool (b : Bool)
  | number (n : Number)
  | text (s : String)
  | list (items : List Value)
  | object (members : List (String × Value))
  deriving Inhabited

/-- Fields and their values. -/
abbrev Record := Table Value

/-- The value of a field; a missing field reads as `null`. -/
def Record.read (r : Record) (field : String) : Value := (r.find? field).getD .null

namespace Value

/-! ### Equality -/

mutual

/-- Values alike but for their numbers, which are compared by `eq`. -/
def agrees (eq : Number → Number → Bool) : Value → Value → Bool
  | null, null => true
  | bool a, bool b => a == b
  | number m, number n => eq m n
  | text s, text t => s == t
  | list xs, list ys => itemsAgree eq xs ys
  | object xs, object ys => membersAgree eq xs ys
  | _, _ => false

def itemsAgree (eq : Number → Number → Bool) : List Value → List Value → Bool
  | [], [] => true
  | x :: xs, y :: ys => agrees eq x y && itemsAgree eq xs ys
  | _, _ => false

def membersAgree (eq : Number → Number → Bool) :
    List (String × Value) → List (String × Value) → Bool
  | [], [] => true
  | (m, x) :: xs, (n, y) :: ys => m == n && (agrees eq x y && membersAgree eq xs ys)
  | _, _ => false

end

/-- Equal values of the same kind; integers and rounded numbers are different kinds. -/
def same : Value → Value → Bool := agrees Number.same

mutual

theorem agrees_eq_iff : ∀ v w : Value, agrees (· = ·) v w = true ↔ v = w
  | null, w | bool _, w | number _, w | text _, w => by cases w <;> simp [agrees]
  | list xs, w => by cases w <;> simp [agrees, itemsAgree_eq_iff xs]
  | object xs, w => by cases w <;> simp [agrees, membersAgree_eq_iff xs]

theorem itemsAgree_eq_iff : ∀ xs ys : List Value, itemsAgree (· = ·) xs ys = true ↔ xs = ys
  | [], ys => by cases ys <;> simp [itemsAgree]
  | x :: xs, ys => by cases ys <;> simp [itemsAgree, agrees_eq_iff x, itemsAgree_eq_iff xs]

theorem membersAgree_eq_iff :
    ∀ xs ys : List (String × Value), membersAgree (· = ·) xs ys = true ↔ xs = ys
  | [], ys => by cases ys <;> simp [membersAgree]
  | (m, x) :: xs, ys => by
    cases ys <;>
      simp [membersAgree, agrees_eq_iff x, membersAgree_eq_iff xs, Prod.ext_iff, and_assoc]

end

/-- Unlike `same`, equality tells the two zeros apart. -/
instance : DecidableEq Value := fun v w => decidable_of_iff _ (agrees_eq_iff v w)

/-! ### Classes of values -/

def isNull : Value → Bool
  | null => true
  | _ => false

/-- `null`, blank text, or an empty list. -/
def isEmpty : Value → Bool
  | null => true
  | text s => Text.allBlank s.toList
  | list items => items.isEmpty
  | _ => false

/-- The number that a value is or writes. -/
def number? : Value → Option Binary64
  | number n => n.toBinary64?
  | text s => Binary64.ofText? s
  | _ => none

/-- Characters of text, items of a list. -/
def length? : Value → Option Nat
  | text s => some s.length
  | list items => some items.length
  | _ => none

/-! ### Values of JSON text -/

/-- Enters a member in the order of names; of equal names the later one wins. -/
def enter (name : String) (v : Value) : List (String × Value) → List (String × Value)
  | [] => [(name, v)]
  | (n, w) :: rest =>
    if name = n then (n, v) :: rest
    else if name < n then (name, v) :: (n, w) :: rest
    else (n, w) :: enter name v rest

mutual

/-- The value of a parsed text: numbers in range, strings that are text, members sorted, and at
most `depth` lists and objects inside one another. -/
def ofJson? (depth : Nat) : Json → Option Value
  | .null => some null
  | .bool b => some (bool b)
  | .number l => l.toNumber?.map number
  | .string s => s.map text
  | .list items =>
    match depth with
    | 0 => none
    | depth + 1 => (itemsOfJson? depth items).map list
  | .object members =>
    match depth with
    | 0 => none
    | depth + 1 => (membersOfJson? depth members).map fun ms =>
        object (ms.foldl (fun acc m => enter m.1 m.2 acc) [])

def itemsOfJson? (depth : Nat) : List Json → Option (List Value)
  | [] => some []
  | x :: xs => do
    let v ← ofJson? depth x
    let vs ← itemsOfJson? depth xs
    some (v :: vs)

def membersOfJson? (depth : Nat) : List (Option String × Json) → Option (List (String × Value))
  | [] => some []
  | (name, x) :: xs => do
    let n ← name
    let v ← ofJson? depth x
    let vs ← membersOfJson? depth xs
    some ((n, v) :: vs)

end

/-- How many lists and objects may stand inside one another. -/
def maxDepth : Nat := 127

/-- The value of a JSON text. -/
def ofText? (s : String) : Option Value := do
  let x ← Json.ofText? s
  ofJson? maxDepth x

/-- The member of an object. -/
def member? (name : String) : Value → Option Value
  | object members => Table.lookup name members
  | _ => none

end Value

/-- The record that an object is. -/
def Record.ofValue? : Value → Option Record
  | .object members => some (Table.ofList members)
  | _ => none

end FieldRules
