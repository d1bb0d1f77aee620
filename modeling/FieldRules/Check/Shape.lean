import FieldRules.Rule.Predicate
import FieldRules.Pattern.Search
import FieldRules.Pattern.Reader
/-!
Rules about the shape of text: mail addresses and patterns.
-/

namespace FieldRules

namespace Pattern

/-- One or more characters of a set. -/
def some1 (s : CharSet) : Pattern := .rep (.set s) 1 none

/-- Characters of a mail address other than blanks and the at sign. -/
def mailPart : CharSet :=
  CharSet.complement CharSet.maxPoint (CharSet.space.union (.single '@'.toNat))

/-- A whole text with an at sign in it and a dot after that, both between other characters. -/
def mail : Pattern :=
  .seq (.edge .textStart) <| .seq (some1 mailPart) <| .seq (.set (.single '@'.toNat)) <|
    .seq (some1 mailPart) <| .seq (.set (.single '.'.toNat)) <| .seq (some1 mailPart)
      (.edge .textEnd)

end Pattern

namespace Check

/-- Unlike most rules this one fails on empty values. -/
def email : Factory := fun _ =>
  .ok (.ofTest "email" "Invalid email address." fun v =>
    !v.isEmpty && Pattern.mail.occurs v.toText.toList)

/-- The value is `null` or the pattern matches somewhere in its text. The arguments are the pieces
of the pattern between commas. -/
def regex : Factory := fun i => do
  let _ ← i.text 0
  let written := Text.joined "," i.texts
  match Pattern.ofText? written with
  | none => throw (.invalidPattern i.field written)
  | some p =>
    return .ofTest "regex" "Invalid format." fun v => v.isNull || p.occurs v.toText.toList

/-- Stands in for a pattern that cannot be read: only `null` passes. -/
def unusablePattern : Predicate := .ofTest "regex" "Invalid format." Value.isNull

end Check

end FieldRules
