import FieldRules.Proofs.Building
import FieldRules.Proofs.RuleGrammar
/-!
The two shapes of a specification. A list of rule strings means what the strings joined by bars mean,
down to the events of its build, and literal predicates in a list only take their places among what
the rule strings contribute (`list_means_joined`).
-/

namespace FieldRules

/-- The item is a rule string. -/
def SpecItem.isRules : SpecItem → Bool
  | rules _ => true
  | predicate _ => false

/-! ### Tokens of both shapes -/

theorem Token.ofText_joined : ∀ texts : List String,
    Token.ofText (Text.joined "|" texts) = texts.flatMap Token.ofText
  | [] => rfl
  | [text] => by simp [Text.joined]
  | s :: t :: rest => by
    rw [Token.ofText, Text.toList_joined_cons]
    change Token.ofChars (s.toList ++ '|' :: (Text.joined "|" (t :: rest)).toList) = _
    rw [Token.ofChars_append_bar, List.flatMap_cons, ← Token.ofText_joined (t :: rest)]
    rfl

/-- The tokens that make a field numeric are those of two rules. -/
theorem Token.marksNumeric_iff {t : Token} :
    (∃ rule, t.rule? = some rule ∧ rule.marksNumeric = true) ↔
      t.name = Rule.numeric.text ∨ t.name = Rule.integer.text := by
  constructor
  · rintro ⟨rule, hrule, hmarks⟩
    have hname : rule.text = t.name := Rule.text_of_ofText? hrule
    cases rule with
    | numeric => exact Or.inl hname.symm
    | integer => exact Or.inr hname.symm
    | _ => cases hmarks
  · rintro (hname | hname)
    · exact ⟨.numeric, by rw [Token.rule?, hname, Rule.ofText?_text], rfl⟩
    · exact ⟨.integer, by rw [Token.rule?, hname, Rule.ofText?_text], rfl⟩

namespace FieldSpec

theorem declares_iff {s : FieldSpec} {r : Rule} :
    s.declares r = true ↔ ∃ t ∈ s.tokens, t.name = r.text := by
  simp [declares]

/-- A field is numeric when its rules name one of the two that say so. -/
theorem isNumeric_eq_declares (s : FieldSpec) :
    s.isNumeric = (s.declares .numeric || s.declares .integer) := by
  rw [Bool.eq_iff_iff, Bool.or_eq_true, declares_iff, declares_iff, ← exists_or]
  simp only [isNumeric, List.any_eq_true, List.mem_filterMap, ← and_or_left,
    ← Token.marksNumeric_iff]
  constructor
  · rintro ⟨rule, ⟨t, ht, hrule⟩, hmarks⟩
    exact ⟨t, ht, rule, hrule, hmarks⟩
  · rintro ⟨t, ht, rule, hrule, hmarks⟩
    exact ⟨rule, ⟨t, ht, hrule⟩, hmarks⟩

theorem tokens_list_rules (texts : List String) :
    (list (texts.map .rules)).tokens = (rules (Text.joined "|" texts)).tokens := by
  rw [tokens, tokens, List.flatMap_map, Token.ofText_joined]
  rfl

theorem tokens_filter_isRules : ∀ items : List SpecItem,
    (list (items.filter SpecItem.isRules)).tokens = (list items).tokens
  | [] => rfl
  | .rules text :: rest => by
    have ih := tokens_filter_isRules rest
    rw [tokens, tokens] at ih ⊢
    rw [List.filter_cons_of_pos rfl, List.flatMap_cons, List.flatMap_cons, ih]
  | .predicate p :: rest => by
    have ih := tokens_filter_isRules rest
    rw [tokens, tokens] at ih ⊢
    rw [List.filter_cons_of_neg Bool.false_ne_true, List.flatMap_cons, ih]
    rfl

/-- All that a build takes from a specification as a whole is taken from its tokens. -/
theorem marks_eq_of_tokens_eq {s t : FieldSpec} (h : s.tokens = t.tokens) :
    s.isNumeric = t.isNumeric ∧ s.isNullable = t.isNullable ∧
      ∀ field, s.references field = t.references field := by
  simp only [isNumeric, isNullable, declares, references, h, implies_true, and_self]

end FieldSpec

/-! ### Builds of both shapes -/

namespace Registry

variable (resolve : Token → Resolution) (field : String)

/-- Reading the rule strings one by one builds what reading all of them at once does. -/
theorem buildItems_rules : ∀ texts : List String,
    buildItems resolve field (texts.map .rules) =
      buildTokens resolve field (texts.flatMap Token.ofText)
  | [] => rfl
  | text :: rest => by
    rw [List.map_cons, buildItems, buildItems_rules rest, List.flatMap_cons, buildTokens_append]

/-- A list builds as its rule strings alone do; then every literal predicate stands in its place. -/
theorem result_build_list (r : Registry) (settings : Settings) (items : List SpecItem) :
    (r.build settings field (.list items)).result =
      (r.build settings field (.list (items.filter SpecItem.isRules))).result.map fun built =>
        ⟨items.flatMap (SpecItem.contributed
          (r.resolve settings field (FieldSpec.list items).isNumeric)), built.nullable⟩ := by
  have htokens := FieldSpec.tokens_filter_isRules items
  obtain ⟨hnumeric, hnullable, -⟩ := FieldSpec.marks_eq_of_tokens_eq htokens
  rw [result_build, result_build, htokens, hnumeric, hnullable]
  cases firstFault? (r.resolve settings field (FieldSpec.list items).isNumeric)
    (FieldSpec.list items).tokens <;> rfl

end Registry

/-- Rule strings in a list mean the same as joined by bars: tokens, references, and the build with its
events. In a list with literal predicates the build fails as without them or keeps the mark for empty
values, and each item contributes in its place: a rule string what it contributes without the literal
predicates, and a literal predicate itself. -/
theorem list_means_joined (r : Registry) (settings : Settings) (field : String) :
    (∀ texts : List String,
      let listed : FieldSpec := .list (texts.map .rules)
      let joined : FieldSpec := .rules (Text.joined "|" texts)
      listed.tokens = joined.tokens ∧ listed.references field = joined.references field ∧
        r.build settings field listed = r.build settings field joined) ∧
    (∀ items : List SpecItem,
      let bare := items.filter SpecItem.isRules
      let contributed :=
        SpecItem.contributed (r.resolve settings field (FieldSpec.list bare).isNumeric)
      (r.build settings field (.list bare)).result =
        (r.build settings field (.list bare)).result.map (fun built =>
          ⟨bare.flatMap contributed, built.nullable⟩) ∧
      (r.build settings field (.list items)).result =
        (r.build settings field (.list bare)).result.map (fun built =>
          ⟨items.flatMap contributed, built.nullable⟩) ∧
      ∀ p, contributed (.predicate p) = [p]) := by
  constructor
  · intro texts listed joined
    have htokens := FieldSpec.tokens_list_rules texts
    obtain ⟨hnumeric, hnullable, hrefs⟩ := FieldSpec.marks_eq_of_tokens_eq htokens
    refine ⟨htokens, hrefs field, ?_⟩
    simp only [listed, joined, Registry.build, Registry.buildPredicates, hnumeric, hnullable,
      Registry.buildItems_rules, Token.ofText_joined]
  · intro items bare contributed
    have hnumeric := (FieldSpec.marks_eq_of_tokens_eq (FieldSpec.tokens_filter_isRules items)).1
    have hbare : bare.filter SpecItem.isRules = bare := by simp [bare]
    refine ⟨?_, ?_, fun p => rfl⟩
    · have h := Registry.result_build_list field r settings bare
      rwa [hbare] at h
    · have h := Registry.result_build_list field r settings items
      rwa [← hnumeric] at h

end FieldRules
