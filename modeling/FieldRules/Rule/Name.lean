/-!
The closed catalog of rules, in the order in which it is listed, with the spelling of each rule in
rule strings. Main statement: `ofText?_text`, a rule is found again under its spelling.
-/

namespace FieldRules

/-- A rule of the catalog. -/
inductive Rule
  | required | nullable | email | string | numeric | integer | boolean | min | max | between
  | confirmed | same | regex | url | date | after | before | alpha | alphaNum | oneOf | noneOf
  | size | digits | digitsBetween | startsWith | endsWith
  deriving DecidableEq

namespace Rule

/-- Every rule, in catalog order. -/
def all : List Rule :=
  [required, nullable, email, string, numeric, integer, boolean, min, max, between, confirmed,
    same, regex, url, date, after, before, alpha, alphaNum, oneOf, noneOf, size, digits,
    digitsBetween, startsWith, endsWith]

/-- The spelling in rule strings. -/
def text : Rule → String
  | required => "required"
  | nullable => "nullable"
  | email => "email"
  | string => "string"
  | numeric => "numeric"
  | integer => "integer"
  | boolean => "boolean"
  | min => "min"
  | max => "max"
  | between => "between"
  | confirmed => "confirmed"
  | same => "same"
  | regex => "regex"
  | url => "url"
  | date => "date"
  | after => "after"
  | before => "before"
  | alpha => "alpha"
  | alphaNum => "alpha_num"
  | oneOf => "in"
  | noneOf => "not_in"
  | size => "size"
  | digits => "digits"
  | digitsBetween => "digits_between"
  | startsWith => "starts_with"
  | endsWith => "ends_with"

/-- The rule of a spelling, which is case-sensitive. -/
def ofText? (s : String) : Option Rule := all.find? fun r => r.text == s

/-- Rules that make size rules of the same field compare numeric text by value. -/
def marksNumeric : Rule → Bool
  | numeric | integer => true
  | _ => false

/-- Rules that are known even where no registry lists them. -/
def alwaysKnown : Rule → Bool
  | oneOf | noneOf => true
  | _ => false

/-- What is said of a name that no rule has. -/
def unknownText (s : String) : String := "`" ++ s ++ "` is not a built-in rule"

theorem ofText?_text (r : Rule) : ofText? r.text = some r := by cases r <;> decide

theorem text_of_ofText? {s : String} {r : Rule} (h : ofText? s = some r) : r.text = s := by
  simpa using List.find?_some h

end Rule

end FieldRules
