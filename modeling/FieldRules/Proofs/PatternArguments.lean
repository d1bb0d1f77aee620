import FieldRules.Proofs.BoundRules
import FieldRules.Proofs.PatternReading
import FieldRules.Proofs.RuleGrammar
/-!
What becomes of a pattern in a rule string. It is cut at commas like any argument text, and the pieces
are joined again, so that the pattern that is read is the one that was written, counted repetitions
with a comma included (`regex_of_pattern`). The exception is a pattern that begins with a comma: its
first piece is empty, and an empty first argument counts as none.
-/

namespace FieldRules

/-! ### Tokens with tight arguments -/

theorem Rule.text_plain (rule : Rule) :
    '|' ∉ rule.text.toList ∧ ':' ∉ rule.text.toList ∧
      Text.trim rule.text.toList = rule.text.toList := by
  cases rule <;> decide

/-- A rule and a colon before text without a bar are one token. -/
theorem Token.ofText_rule (rule : Rule) {args : String} (hbar : '|' ∉ args.toList) :
    ofText (rule.text ++ ":" ++ args) =
      [⟨rule.text, (argsOf args.toList).map String.ofList⟩] := by
  obtain ⟨hrule, hcolon, htrim⟩ := rule.text_plain
  have hlist : (rule.text ++ ":" ++ args).toList = rule.text.toList ++ ':' :: args.toList := by
    rw [String.toList_append, String.toList_append, List.append_assoc]
    rfl
  rw [ofText, hlist, ofChars_append_colon hcolon hrule hbar, htrim, String.ofList_toList]

/-- Argument text that reading takes apart without a loss: it is not blank, has no bar in it, and has
no blank character at its ends or beside a comma. -/
structure Token.PlainArgs (args : String) : Prop where
  visible : Text.allBlank args.toList = false
  unbarred : '|' ∉ args.toList
  tight : Text.Tight ',' args.toList

/-- The pieces between the commas of argument text. -/
def Token.piecesOf (args : String) : List String := (Text.split ',' args.toList).map String.ofList

theorem Token.joined_piecesOf (args : String) : Text.joined "," (piecesOf args) = args :=
  String.toList_injective (Text.toList_joined_split rfl args.toList)

/-- Plain argument text is cut at its commas and at nothing else. -/
theorem Token.ofText_of_plainArgs (rule : Rule) {args : String} (h : PlainArgs args) :
    ofText (rule.text ++ ":" ++ args) = [⟨rule.text, piecesOf args⟩] := by
  have hpieces : (Text.split ',' args.toList).map Text.trim = Text.split ',' args.toList :=
    (List.map_congr_left h.tight.trim_of_mem_split).trans (List.map_id _)
  have hvisible : ¬ Text.trim args.toList = [] := by
    rw [Text.trim_eq_nil_iff, h.visible]
    exact Bool.false_ne_true
  rw [ofText_rule rule h.unbarred, argsOf, if_neg hvisible, hpieces, piecesOf]

theorem Token.ofText_regex {pattern : String} (h : PlainArgs pattern) :
    ofText ("regex:" ++ pattern) = [⟨"regex", piecesOf pattern⟩] := by
  rw [show "regex:" = Rule.regex.text ++ ":" by decide]
  exact ofText_of_plainArgs .regex h

/-! ### The factory -/

section Factory

variable {field name : String} {numericField : Bool}

theorem Registry.texts_inputOf (args : List String) :
    (inputOf field numericField ⟨name, args⟩).texts = args := by
  simp [Input.texts, inputOf, Function.comp_def, Argument.raw_coerce]

namespace Check

open Token

/-- Passes `null` and the text in which the pattern matches somewhere. -/
def patternTest (p : Pattern) : Predicate :=
  .ofTest "regex" "Invalid format." fun v => v.isNull || p.occurs v.toText.toList

theorem patternTest_check {p : Pattern} (hp : p.WellFormed) (v : Value) (record : Record) :
    ((patternTest p).check v record = none ↔ v = .null ∨ p.Occurs v.toText.toList) ∧
      ((patternTest p).check v record = some "Invalid format." ↔
        v ≠ .null ∧ ¬ p.Occurs v.toText.toList) := by
  have hnull : v.isNull = true ↔ v = .null := by cases v <;> simp [Value.isNull]
  have hpasses : (patternTest p).check v record = none ↔ v = .null ∨ p.Occurs v.toText.toList := by
    rw [patternTest, Predicate.check_ofTest_eq_none_iff, Bool.or_eq_true, hnull,
      Pattern.occurs_iff hp]
  exact ⟨hpasses, Predicate.check_ofTest_eq_some_iff.trans ((not_congr hpasses).trans not_or)⟩

variable {pattern : String}

/-- A comma in front leaves an empty piece, and an empty first argument is none. -/
theorem factory_of_comma (h : pattern.toList.head? = some ',') :
    Rule.regex.factory (Registry.inputOf field numericField ⟨name, piecesOf pattern⟩) =
      .error (.missingArgument field name .text) := by
  obtain ⟨rest, hrest⟩ := List.head?_eq_some_iff.mp h
  have hpieces : piecesOf pattern = "" :: (Text.split ',' rest).map String.ofList := by
    rw [piecesOf, hrest, Text.split_cons_self]
    rfl
  have htext : (Registry.inputOf field numericField ⟨name, piecesOf pattern⟩).text 0 =
      .error (.missingArgument field name .text) := by
    simp [Input.text, Registry.inputOf, hpieces, Argument.raw_coerce]
  rw [Rule.factory, regex, htext]
  rfl

section Read

variable (hne : pattern.toList ≠ []) (h : pattern.toList.head? ≠ some ',')

include hne h

theorem exists_text_piecesOf : ∃ first,
    (Registry.inputOf field numericField ⟨name, piecesOf pattern⟩).text 0 = .ok first := by
  obtain ⟨c, rest, hcs⟩ := List.exists_cons_of_ne_nil hne
  have hc : c ≠ ',' := fun hc => h (by rw [hcs, hc]; rfl)
  obtain ⟨first, hfirst, others, hpieces⟩ : ∃ first, first ≠ "" ∧ ∃ others,
      piecesOf pattern = first :: others := by
    rw [piecesOf, hcs, Text.split_cons_of_ne hc]
    exact ⟨_, by simp, _, rfl⟩
  exact ⟨first, Registry.text_inputOf (by rw [hpieces]; rfl) hfirst⟩

theorem factory_of_readable {p : Pattern} (hp : Pattern.ofText? pattern = some p) :
    Rule.regex.factory (Registry.inputOf field numericField ⟨name, piecesOf pattern⟩) =
      .ok (patternTest p) := by
  obtain ⟨first, hfirst⟩ := exists_text_piecesOf hne h
  rw [Rule.factory, regex, hfirst, Registry.texts_inputOf, joined_piecesOf]
  dsimp only
  rw [hp]
  rfl

theorem factory_of_unreadable (hp : Pattern.ofText? pattern = none) :
    Rule.regex.factory (Registry.inputOf field numericField ⟨name, piecesOf pattern⟩) =
      .error (.invalidPattern field pattern) := by
  obtain ⟨first, hfirst⟩ := exists_text_piecesOf hne h
  rw [Rule.factory, regex, hfirst, Registry.texts_inputOf, joined_piecesOf]
  dsimp only
  rw [hp]
  rfl

end Read

end Check

end Factory

/-! ### Rule strings with one token -/

section Single

variable (settings : Settings) (field : String) {text : String}

theorem Registry.result_build_of_token {r : Registry} {t : Token} (h : Token.ofText text = [t])
    (hrule : t.name ≠ Rule.nullable.text) :
    let resolution := r.resolve settings field (FieldSpec.rules text).isNumeric t
    (r.build settings field (.rules text)).result =
      orFault (BuiltField.mk resolution.predicate?.toList false) resolution.fault? := by
  intro resolution
  have hnullable : (FieldSpec.rules text).isNullable = false := by
    simp [FieldSpec.isNullable, FieldSpec.declares, FieldSpec.tokens, h, hrule]
  rw [result_build, hnullable, FieldSpec.contributed, FieldSpec.tokens, h, contributed_cons,
    firstFault?_cons]
  change orFault (BuiltField.mk (resolution.predicate?.toList ++ []) false)
    (resolution.fault?.or none) = _
  rw [List.append_nil, Option.or_none]

variable {rule : Rule} {args : List String} (h : Token.ofText text = [⟨rule.text, args⟩])
  (hrule : rule.text ≠ Rule.nullable.text)

include h hrule

theorem Registry.result_build_of_ok {p : Predicate}
    (hp : ∀ numericField, rule.factory (inputOf field numericField ⟨rule.text, args⟩) = .ok p) :
    (builtin.build settings field (.rules text)).result = .ok ⟨[p], false⟩ := by
  rw [result_build_of_token settings field h hrule, resolve_eq_kept (hp _)]
  rfl

theorem Registry.result_build_of_error {e : SpecError}
    (he : ∀ numericField, rule.factory (inputOf field numericField ⟨rule.text, args⟩) = .error e) :
    (builtin.build settings field (.rules text)).result =
      orFault ⟨(onError settings e).predicate?.toList, false⟩ (onError settings e).fault? := by
  rw [result_build_of_token settings field h hrule, resolve_eq_onError (he _)]

end Single

/-- A field with one predicate answers what the predicate does. -/
theorem Engine.result_evaluateField_of_single {e : Engine} {field : String} {spec : FieldSpec}
    {p : Predicate} (h : (e.build field spec).result = .ok ⟨[p], false⟩) (v : Value) (r : Record) :
    (e.evaluateField field v r (some spec)).result = .ok (p.check v r) := by
  rw [result_evaluateField, h]
  cases hcheck : p.check v r <;>
    simp [Except.map, BuiltField.evaluate, BuiltField.skips, BuiltField.firstFailure, hcheck]

/-! ### Patterns in rule strings -/

/-- A pattern that does not begin with a comma is read as it was written, and is the one rule of its
field; one that does begin with a comma is never read. -/
theorem regex_of_pattern (settings : Settings) (field : String) {pattern : String}
    (hplain : Token.PlainArgs pattern) :
    let built := (Registry.builtin.build settings field (.rules ("regex:" ++ pattern))).result
    (pattern.toList.head? ≠ some ',' →
      (∀ p, Pattern.ofText? pattern = some p → ∃ predicate : Predicate,
        built = .ok ⟨[predicate], false⟩ ∧ predicate.name = "regex" ∧ ∀ v record,
          (predicate.check v record = none ↔ v = .null ∨ p.Occurs v.toText.toList) ∧
          (predicate.check v record = some "Invalid format." ↔
            v ≠ .null ∧ ¬ p.Occurs v.toText.toList)) ∧
      (Pattern.ofText? pattern = none → built =
        match settings.invalidPattern with
        | .propagate => .error (.invalidPattern field pattern)
        | .message => .ok ⟨[Check.unusablePattern], false⟩)) ∧
    (pattern.toList.head? = some ',' → built =
      if settings.strict then .error (.missingArgument field "regex" .text)
      else .ok ⟨[], false⟩) := by
  intro built
  have htoken := Token.ofText_regex hplain
  have hrule : Rule.regex.text ≠ Rule.nullable.text := by decide
  have hne : pattern.toList ≠ [] := by
    intro hnil
    have hvisible := hplain.visible
    rw [hnil] at hvisible
    cases hvisible
  refine ⟨fun hcomma => ⟨fun p hp => ?_, fun hnone => ?_⟩, fun hcomma => ?_⟩
  · have hbuilt := Registry.result_build_of_ok settings field htoken hrule fun _ =>
      Check.factory_of_readable hne hcomma hp
    exact ⟨_, hbuilt, rfl, Check.patternTest_check (Pattern.wellFormed_of_ofText? hp)⟩
  · have hbuilt := Registry.result_build_of_error settings field htoken hrule fun _ =>
      Check.factory_of_unreadable hne hcomma hnone
    refine hbuilt.trans ?_
    dsimp only [Registry.onError, SpecError.isInvalidPattern]
    cases settings.invalidPattern <;> rfl
  · have hbuilt := Registry.result_build_of_error settings field htoken hrule fun _ =>
      Check.factory_of_comma hcomma
    refine hbuilt.trans ?_
    dsimp only [Registry.onError, SpecError.isInvalidPattern]
    cases settings.strict <;> rfl

/-- A comma in a counted repetition, two beside one another and one at the end. -/
theorem regex_of_counted_pattern :
    let pattern := "^[0-9]\x7b2,4\x7d,,"
    Token.PlainArgs pattern ∧ pattern.toList.head? ≠ some ',' ∧
      ∃ p, Pattern.ofText? pattern = some p ∧ ∃ predicate : Predicate,
        (Registry.builtin.build {} "code" (.rules ("regex:" ++ pattern))).result =
          .ok ⟨[predicate], false⟩ ∧
        predicate.check (.text "123,,") .empty = none := by
  intro pattern
  have hplain : Token.PlainArgs pattern :=
    ⟨by decide, by decide, Text.Tight.of_any_eq_false (by decide)⟩
  have hcomma : pattern.toList.head? ≠ some ',' := by decide
  have hread : (Pattern.ofText? pattern).map (·.occurs "123,,".toList) = some true := by
    decide +kernel
  obtain ⟨p, hp, hoccurs⟩ := Option.map_eq_some_iff.mp hread
  obtain ⟨predicate, hbuilt, -, hcheck⟩ := ((regex_of_pattern {} "code" hplain).1 hcomma).1 p hp
  have hmatches := (Pattern.occurs_ofText?_iff hp _).mp hoccurs
  exact ⟨hplain, hcomma, p, hp, predicate, hbuilt, (hcheck _ _).1.mpr (Or.inr hmatches)⟩

/-- Amounts that must end in a comma and two digits: the pattern can be read and does not match, yet
the field has no rule left that could fail. -/
theorem regex_lost_behind_comma :
    let pattern := ",[0-9][0-9]$"
    Token.PlainArgs pattern ∧
      (∃ p, Pattern.ofText? pattern = some p ∧ ¬ p.Occurs "12".toList) ∧
      (Registry.builtin.build {} "price" (.rules ("regex:" ++ pattern))).result =
        .ok ⟨[], false⟩ := by
  intro pattern
  have hplain : Token.PlainArgs pattern :=
    ⟨by decide, by decide, Text.Tight.of_any_eq_false (by decide)⟩
  have hread : (Pattern.ofText? pattern).map (·.occurs "12".toList) = some false := by
    decide +kernel
  obtain ⟨p, hp, hoccurs⟩ := Option.map_eq_some_iff.mp hread
  refine ⟨hplain, ⟨p, hp, ?_⟩, ?_⟩
  · rw [← Pattern.occurs_ofText?_iff hp, hoccurs]
    exact Bool.false_ne_true
  · exact Registry.result_build_of_error {} "price" (Token.ofText_regex hplain)
      (show Rule.regex.text ≠ Rule.nullable.text by decide) fun _ =>
        Check.factory_of_comma (by decide)

end FieldRules
