import FieldRules.Json.Tree
/-!
Members of JSON objects under the names that a reader knows. A reader of a fixed shape ignores names
it does not know and refuses a name that it knows twice.
-/

namespace FieldRules.Json

/-- The members under names that are text, or nothing if some name is not. -/
def named? : List (Option String × Json) → Option (List (String × Json))
  | [] => some []
  | (name, x) :: rest => do
    let n ← name
    let rest ← named? rest
    some ((n, x) :: rest)

/-- The one member of a name; the outer option is empty if there are several. -/
def once? (name : String) (members : List (String × Json)) : Option (Option Json) :=
  match members.filter fun m => m.1 == name with
  | [] => some none
  | [m] => some (some m.2)
  | _ => none

def bool? : Json → Option Bool
  | bool b => some b
  | _ => none

def text? : Json → Option String
  | string s => s
  | _ => none

/-- Text or `null`. -/
def optionalText? : Json → Option (Option String)
  | null => some none
  | string s => s.map some
  | _ => none

/-- The values of a list of members, under their names and in their order. -/
def mapMembers? {α : Type} (f : Json → Option α) : List (Option String × Json) →
    Option (List (String × α))
  | [] => some []
  | (name, x) :: rest => do
    let n ← name
    let a ← f x
    let rest ← mapMembers? f rest
    some ((n, a) :: rest)

end FieldRules.Json
