import FieldRules.Proofs.PatternArguments
/-!
Rules with a list of candidates. The candidates pass through the reader of rule strings and through
the coercion of arguments, and what is compared with the text of a value, and shown in a message, is
still what was written, in that order (`list_rules_see_what_was_written`).
-/

namespace FieldRules

/-- Candidates that reading takes apart and leaves as they are. -/
theorem Token.canonical_of_candidates (rule : Rule) {candidates : List String}
    (hplain : ∀ c ∈ candidates, Text.trimmed c = c ∧ '|' ∉ c.toList ∧ ',' ∉ c.toList)
    (hblank : candidates ≠ [""]) : Canonical ⟨rule.text, candidates⟩ := by
  obtain ⟨hbar, hcolon, htrim⟩ := rule.text_plain
  exact ⟨trim_toList.mpr htrim, ⟨hbar, hcolon⟩, fun c hc => (hplain c hc).1,
    fun c hc => (hplain c hc).2, hblank⟩

/-- A rule that is written alone and binds to a test answers what the test does. -/
theorem Engine.result_evaluateField_of_test {settings : Settings} {field : String} {rule : Rule}
    {args : List String} (hargs : Token.Canonical ⟨rule.text, args⟩)
    (hrule : rule.text ≠ Rule.nullable.text) {name message : String} {ok : Value → Bool}
    (hfactory : ∀ numericField, rule.factory (Registry.inputOf field numericField ⟨rule.text, args⟩) =
      .ok (.ofTest name message ok)) (v : Value) (record : Record) :
    ((Engine.mk .builtin settings).evaluateField field v record
      (some (.rules (Token.render ⟨rule.text, args⟩)))).result =
        .ok (if ok v then none else some message) := by
  have hbuilt : ((Engine.mk .builtin settings).build field
      (.rules (Token.render ⟨rule.text, args⟩))).result = .ok ⟨[.ofTest name message ok], false⟩ :=
    Registry.result_build_of_ok settings field (Token.ofText_render hargs) hrule hfactory
  rw [result_evaluateField_of_single hbuilt, Predicate.ofTest]

/-- What a test answers, once it is known which values pass it. -/
theorem answers_of_test {result : Except SpecError (Option String)} {ok : Bool} {message : String}
    {P : Prop} (hresult : result = .ok (if ok then none else some message)) (hP : ok = true ↔ P) :
    (result = .ok none ↔ P) ∧ (¬ P → result = .ok (some message)) := by
  subst hresult
  cases ok with
  | true => exact ⟨⟨fun _ => hP.mp rfl, fun _ => rfl⟩, fun hnot => absurd (hP.mp rfl) hnot⟩
  | false =>
    have hnot : ¬ P := fun h => Bool.false_ne_true (hP.mpr h)
    exact ⟨⟨fun hnone => (nomatch hnone), fun h => absurd h hnot⟩, fun _ => rfl⟩

/-- A list of candidates in a rule string, with the catalog. `in` passes a value whose text is one of
them character for character, and `not_in` all that `in` fails; `starts_with` and `ends_with` pass
empty values and those whose text begins or ends with one. The messages list the candidates as they
were written. -/
theorem list_rules_see_what_was_written (settings : Settings) (field : String)
    {candidates : List String} (hblank : candidates ≠ [""])
    (hplain : ∀ c ∈ candidates, Text.trimmed c = c ∧ '|' ∉ c.toList ∧ ',' ∉ c.toList) (v : Value)
    (record : Record) :
    let evaluate := fun rule : Rule => ((Engine.mk .builtin settings).evaluateField field v record
      (some (.rules (rule.text ++ ":" ++ Text.joined "," candidates)))).result
    let passes := fun rule => evaluate rule = .ok none
    let fails := fun rule message => evaluate rule = .ok (some message)
    let written := Text.joined ", " candidates
    let begins := ∃ c ∈ candidates, c.toList <+: v.toText.toList
    let ends := ∃ c ∈ candidates, c.toList <:+ v.toText.toList
    ((passes .oneOf ↔ v.toText ∈ candidates) ∧
      (¬ v.toText ∈ candidates → fails .oneOf ("Value must be one of: " ++ written ++ "."))) ∧
    ((passes .noneOf ↔ ¬ passes .oneOf) ∧ (passes .oneOf → fails .noneOf "Invalid value.")) ∧
    ((passes .startsWith ↔ v.isEmpty = true ∨ begins) ∧
      (¬ (v.isEmpty = true ∨ begins) →
        fails .startsWith ("Must start with one of: " ++ written))) ∧
    ((passes .endsWith ↔ v.isEmpty = true ∨ ends) ∧
      (¬ (v.isEmpty = true ∨ ends) → fails .endsWith ("Must end with one of: " ++ written))) := by
  intro evaluate passes fails written begins ends
  have hevaluate : ∀ {rule : Rule} {name message : String} {ok : Value → Bool},
      rule.text ≠ Rule.nullable.text →
      (∀ numericField, rule.factory (Registry.inputOf field numericField ⟨rule.text, candidates⟩) =
        .ok (.ofTest name message ok)) →
      evaluate rule = .ok (if ok v then none else some message) := fun hrule hfactory =>
    Engine.result_evaluateField_of_test (Token.canonical_of_candidates _ hplain hblank) hrule
      hfactory v record
  have htexts : ∀ (rule : Rule) numericField,
      (Registry.inputOf field numericField ⟨rule.text, candidates⟩).texts = candidates :=
    fun _ _ => Registry.texts_inputOf candidates
  have hin := @hevaluate .oneOf _ _ _ (by decide) fun b => by rw [Rule.factory, Check.oneOf, htexts]
  have hnotIn := @hevaluate .noneOf _ _ _ (by decide) fun b => by
    rw [Rule.factory, Check.noneOf, htexts]
  have hstarts := @hevaluate .startsWith _ _ _ (by decide) fun b => by
    rw [Rule.factory, Check.startsWith, htexts]
  have hends := @hevaluate .endsWith _ _ _ (by decide) fun b => by
    rw [Rule.factory, Check.endsWith, htexts]
  have hone := answers_of_test hin List.contains_iff_mem
  refine ⟨hone, ?_, answers_of_test hstarts ?_, answers_of_test hends ?_⟩
  · have hpasses : passes .oneOf ↔ v.toText ∈ candidates := hone.1
    have hnone := answers_of_test (P := ¬ passes .oneOf) hnotIn (by
      rw [hpasses, Bool.not_eq_true', ← Bool.not_eq_true, List.contains_iff_mem])
    exact ⟨hnone.1, fun h => hnone.2 (not_not_intro h)⟩
  · simp [begins]
  · simp [ends]

/-- Spellings of one number are different candidates, and a value is compared as its text: the number
seven, a list, and text with a prefix that has a blank in it. -/
theorem list_rules_see_spellings_of_seven :
    let candidates := ["007", "7.0", "a b", ""]
    let evaluate := fun (rule : Rule) v => ((Engine.mk .builtin {}).evaluateField "code" v .empty
      (some (.rules (rule.text ++ ":" ++ Text.joined "," candidates)))).result
    candidates ≠ [""] ∧
    (∀ c ∈ candidates, Text.trimmed c = c ∧ '|' ∉ c.toList ∧ ',' ∉ c.toList) ∧
    (Argument.coerce "007").number?.map Binary64.value =
      (Argument.coerce "7.0").number?.map Binary64.value ∧
    evaluate .oneOf (.text "007") = .ok none ∧
    evaluate .oneOf (.number (.int 7)) = .ok (some "Value must be one of: 007, 7.0, a b, .") ∧
    evaluate .noneOf (.list [.text "7.0"]) = .ok (some "Invalid value.") := by
  intro candidates evaluate
  have hplain : ∀ c ∈ candidates, Text.trimmed c = c ∧ '|' ∉ c.toList ∧ ',' ∉ c.toList := by decide
  have hblank : candidates ≠ [""] := by decide
  have hsees := list_rules_see_what_was_written {} "code" hblank hplain
  obtain ⟨⟨hpasses, -⟩, -⟩ := hsees (.text "007") .empty
  obtain ⟨⟨-, hfails⟩, -⟩ := hsees (.number (.int 7)) .empty
  obtain ⟨⟨hlist, -⟩, ⟨-, hinvalid⟩, -⟩ := hsees (.list [.text "7.0"]) .empty
  exact ⟨hblank, hplain, by decide +kernel, hpasses.mpr (by decide), hfails (by decide),
    hinvalid (hlist.mpr (by decide))⟩

end FieldRules
