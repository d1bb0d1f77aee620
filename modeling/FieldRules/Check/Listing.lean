import FieldRules.Rule.Predicate
/-!
Rules with a list of candidates, which are compared as written with the text of the value.
-/

namespace FieldRules.Check

/-- The candidates as messages list them. -/
def listed (candidates : List String) : String := Text.joined ", " candidates

/-- The value's text is one of the candidates. -/
def oneOf : Factory := fun i =>
  .ok (.ofTest "in" ("Value must be one of: " ++ listed i.texts ++ ".") fun v =>
    i.texts.contains v.toText)

/-- The value's text is none of the candidates. -/
def noneOf : Factory := fun i =>
  .ok (.ofTest "not_in" "Invalid value." fun v => !i.texts.contains v.toText)

/-- The value is empty, or its text begins with a candidate. -/
def startsWith : Factory := fun i =>
  .ok (.ofTest "starts_with" ("Must start with one of: " ++ listed i.texts) fun v =>
    v.isEmpty || i.texts.any fun p => p.toList.isPrefixOf v.toText.toList)

/-- The value is empty, or its text ends with a candidate. -/
def endsWith : Factory := fun i =>
  .ok (.ofTest "ends_with" ("Must end with one of: " ++ listed i.texts) fun v =>
    v.isEmpty || i.texts.any fun s => s.toList.isSuffixOf v.toText.toList)

end FieldRules.Check
