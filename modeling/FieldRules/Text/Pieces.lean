/-!
Cutting text at a separator and joining pieces. `split` cuts at every occurrence and always gives
at least one piece; `joined` puts a separator between neighbours.
-/

namespace FieldRules.Text

/-- The text before the first separator, and the pieces after it. -/
def pieces (sep : Char) : List Char → List Char × List (List Char)
  | [] => ([], [])
  | c :: cs =>
    let (first, rest) := pieces sep cs
    if c = sep then ([], first :: rest) else (c :: first, rest)

/-- Cuts at every separator. -/
def split (sep : Char) (cs : List Char) : List (List Char) :=
  (pieces sep cs).1 :: (pieces sep cs).2

/-- Cuts at the first separator, if there is one. -/
def splitOnce (sep : Char) : List Char → Option (List Char × List Char)
  | [] => none
  | c :: cs =>
    if c = sep then some ([], cs) else (splitOnce sep cs).map fun (a, b) => (c :: a, b)

/-- Puts `sep` between neighbours. -/
def joined (sep : String) : List String → String
  | [] => ""
  | [s] => s
  | s :: t :: rest => s ++ sep ++ joined sep (t :: rest)

end FieldRules.Text
