import FieldRules.Proofs.EmptyValues
/-!
What is said of empty values. Most rules of the catalog let every empty value pass and two fail
every one, whether it is `null`, blank text or the empty list, and whatever the record holds. A field
with no other rules therefore treats all empty values alike (`empty_values_are_alike`).
-/

namespace FieldRules

namespace Rule

/-- The rules that judge an empty value by its emptiness alone. -/
def judgingEmptiness : List Rule :=
  [required, nullable, email, string, numeric, integer, boolean, url, date, after, before, alpha,
    alphaNum, startsWith, endsWith]

/-- What such a rule says of every empty value. -/
def ofEmpty : Rule → Option String
  | required => some "This field is required."
  | email => some "Invalid email address."
  | _ => none

end Rule

/-- The factory either binds the rule to a predicate that gives this answer to every empty value, or
misses an argument of a rule that has nothing to say. -/
def JudgesEmptiness (answer : Option String) (bound : Except SpecError Predicate) : Prop :=
  (∃ p, bound = .ok p ∧ ∀ v record, v.isEmpty = true → p.check v record = answer) ∨
    answer = none ∧ ∃ e, bound = .error e ∧ e.isInvalidPattern = false

/-! ### Single rules -/

theorem judgesEmptiness_ofTest {name message : String} {ok : Value → Bool} (passes : Bool)
    (h : ∀ v : Value, v.isEmpty = true → ok v = passes) :
    JudgesEmptiness (if passes then none else some message) (.ok (.ofTest name message ok)) :=
  .inl ⟨_, rfl, fun v record hv => by simp only [Predicate.ofTest, h v hv]⟩

theorem Check.isBoolean_of_isEmpty {v : Value} (h : v.isEmpty = true) : isBoolean v = true := by
  cases v with
  | null | bool _ => rfl
  | text _ | list _ => exact h
  | number _ | object _ => cases h

/-- Text is missed as an argument and never refused. -/
theorem Input.eq_missingArgument_of_text_eq_error {i : Input} {n : Nat} {e : SpecError}
    (h : i.text n = .error e) : e = .missingArgument i.field i.rule .text := by
  rw [text] at h
  split at h
  · exact (Except.error.inj h).symm
  · split at h
    · exact (Except.error.inj h).symm
    · cases h

/-- A comparison in time looks at nothing else before it lets an empty value pass. -/
theorem Check.judgesEmptiness_relative (name : String)
    (holds : Calendar.Instant → Calendar.Instant → Bool) (i : Input) :
    JudgesEmptiness none (relative name holds i) := by
  rw [relative]
  cases htext : i.text 0 with
  | ok reference => exact .inl ⟨_, rfl, fun v record hv => if_pos hv⟩
  | error e =>
    rw [Input.eq_missingArgument_of_text_eq_error htext]
    exact .inr ⟨rfl, _, rfl, rfl⟩

theorem Rule.judgesEmptiness_factory {rule : Rule} (h : rule ∈ judgingEmptiness) (i : Input) :
    JudgesEmptiness rule.ofEmpty (rule.factory i) := by
  cases rule with
  | required => exact judgesEmptiness_ofTest false fun v hv => by rw [hv]; rfl
  | email => exact judgesEmptiness_ofTest false fun v hv => by rw [hv]; rfl
  | nullable => exact .inl ⟨_, rfl, fun _ _ _ => rfl⟩
  | boolean => exact judgesEmptiness_ofTest true fun v hv => Check.isBoolean_of_isEmpty hv
  | after | before => exact Check.judgesEmptiness_relative _ _ i
  | string | numeric | integer | url | date | alpha | alphaNum | startsWith | endsWith =>
    exact judgesEmptiness_ofTest true fun v hv => by rw [hv, Bool.true_or]
  | min | max | between | confirmed | same | regex | oneOf | noneOf | size | digits
    | digitsBetween => exact absurd h (by decide)

/-! ### Fields -/

/-- What a token says of every empty value, if its rule judges by emptiness. -/
def Token.ofEmpty (t : Token) : Option String := t.rule?.bind Rule.ofEmpty

section Fields

variable {policy : PatternPolicy} {field : String} {numericField : Bool}

/-- A lenient build has no fault in such a rule, and what it contributes gives its answer. -/
theorem Registry.resolve_on_empty {t : Token} {rule : Rule} (h : rule ∈ Rule.judgingEmptiness)
    (hname : t.name = rule.text) :
    let resolution := builtin.resolve ⟨false, policy⟩ field numericField t
    resolution.fault? = none ∧ ∀ v record, v.isEmpty = true →
      (resolution.predicate?.bind fun p => p.check v record) = t.ofEmpty := by
  have hrule : t.rule? = some rule := by rw [Token.rule?, hname, Rule.ofText?_text]
  have hanswer : t.ofEmpty = rule.ofEmpty := by rw [Token.ofEmpty, hrule, Option.bind_some]
  intro resolution
  have hresolve : resolution = builtin.resolve ⟨false, policy⟩ field numericField t := rfl
  rw [resolve, factory?_builtin, ← Token.rule?, hrule] at hresolve
  rcases rule.judgesEmptiness_factory h (inputOf field numericField t) with
    ⟨p, hp, hcheck⟩ | ⟨hnone, e, he, hpattern⟩
  · simp only [Option.map_some, hp] at hresolve
    rw [hresolve, hanswer]
    exact ⟨rfl, hcheck⟩
  · simp only [Option.map_some, he, onError, hpattern] at hresolve
    rw [hresolve, hanswer, hnone]
    exact ⟨rfl, fun _ _ _ => rfl⟩

/-- The message of a field is the first that one of its predicates gives. -/
theorem BuiltField.map_snd_firstFailure (b : BuiltField) (v : Value) (record : Record) :
    (b.firstFailure v record).map Prod.snd = b.predicates.findSome? fun p => p.check v record := by
  rw [firstFailure, List.map_findSome?]
  congr 1
  funext p
  exact Option.map_map .. |>.trans (Option.map_id' ..)

/-- The first rule that says something of empty values decides, unless they skip all rules. -/
theorem Engine.result_evaluateField_of_isEmpty {text : String}
    (htokens : ∀ t ∈ Token.ofText text, ∃ rule ∈ Rule.judgingEmptiness, t.name = rule.text)
    {v : Value} (hv : v.isEmpty = true) (record : Record) :
    ((Engine.mk .builtin ⟨false, policy⟩).evaluateField field v record
      (some (.rules text))).result =
        .ok (if (FieldSpec.rules text).declares .nullable then none
          else (Token.ofText text).findSome? Token.ofEmpty) := by
  let spec : FieldSpec := .rules text
  let resolve := Registry.builtin.resolve ⟨false, policy⟩ field spec.isNumeric
  have hresolve : ∀ t ∈ Token.ofText text, (resolve t).fault? = none ∧
      ((resolve t).predicate?.bind fun p => p.check v record) = t.ofEmpty := by
    intro t ht
    obtain ⟨rule, hrule, hname⟩ := htokens t ht
    obtain ⟨hfault, hcheck⟩ := Registry.resolve_on_empty hrule hname
    exact ⟨hfault, hcheck v record hv⟩
  have hbuilt : ((Engine.mk .builtin ⟨false, policy⟩).build field spec).result =
      .ok ⟨contributed resolve (Token.ofText text), spec.isNullable⟩ := by
    have hfault : firstFault? resolve (Token.ofText text) = none :=
      List.findSome?_eq_none_iff.mpr fun t ht => (hresolve t ht).1
    rw [build, Registry.result_build]
    exact congrArg (orFault _) hfault
  have hmessage : (contributed resolve (Token.ofText text)).findSome? (fun p => p.check v record) =
      (Token.ofText text).findSome? Token.ofEmpty := by
    rw [contributed, findSome?_filterMap, ← List.head?_filterMap, ← List.head?_filterMap,
      List.filterMap_congr fun t ht => (hresolve t ht).2]
  rw [result_evaluateField, hbuilt, Except.map, BuiltField.evaluate, BuiltField.skips, hv,
    Bool.and_true, BuiltField.map_snd_firstFailure, hmessage]
  rfl

end Fields

namespace Token

/-- The token names one of the two rules that fail empty values. -/
def FailsEmpty (t : Token) : Prop := t.name = Rule.required.text ∨ t.name = Rule.email.text

theorem ofEmpty_eq_none {t : Token} (h : ¬ t.FailsEmpty) : t.ofEmpty = none := by
  rw [ofEmpty, Option.bind_eq_none_iff]
  intro rule hrule
  have hname := Rule.text_of_ofText? hrule
  cases rule with
  | required => exact absurd (.inl hname.symm) h
  | email => exact absurd (.inr hname.symm) h
  | _ => rfl

theorem ofEmpty_of_name {t : Token} {rule : Rule} (h : t.name = rule.text) :
    t.ofEmpty = rule.ofEmpty := by
  rw [ofEmpty, rule?, h, Rule.ofText?_text, Option.bind_some]

end Token

/-- A rule string of rules that judge empty values by their emptiness, with any arguments, in a
lenient build. All empty values get the same result in all records: they pass if `nullable` is named
or if neither `required` nor `email` is, and otherwise show the message of whichever of these two
comes first. -/
theorem empty_values_are_alike (policy : PatternPolicy) (field : String) {text : String}
    (htokens : ∀ t ∈ Token.ofText text, ∃ rule ∈ Rule.judgingEmptiness, t.name = rule.text) :
    let tokens := Token.ofText text
    let evaluate := fun v record => ((Engine.mk .builtin ⟨false, policy⟩).evaluateField field v
      record (some (.rules text))).result
    let empty := fun v : Value =>
      v = .null ∨ (∃ s, v = .text s ∧ Text.trimmed s = "") ∨ v = .list []
    let named := fun rule : Rule => ∃ t ∈ tokens, t.name = rule.text
    (∀ v w record record', empty v → empty w → evaluate v record = evaluate w record') ∧
    ∀ v record, empty v →
      (named .nullable ∨ ¬ named .required ∧ ¬ named .email → evaluate v record = .ok none) ∧
      ∀ before t after, tokens = before ++ t :: after → (∀ u ∈ before, ¬ u.FailsEmpty) →
        ¬ named .nullable →
        (t.name = Rule.required.text →
          evaluate v record = .ok (some "This field is required.")) ∧
        (t.name = Rule.email.text →
          evaluate v record = .ok (some "Invalid email address.")) := by
  intro tokens evaluate empty named
  have hevaluate : ∀ v record, empty v → evaluate v record =
      .ok (if (FieldSpec.rules text).declares .nullable then none
        else tokens.findSome? Token.ofEmpty) := fun v record hv =>
    Engine.result_evaluateField_of_isEmpty htokens (Value.isEmpty_iff.mpr hv) record
  have hnullable : (FieldSpec.rules text).declares .nullable = true ↔ named .nullable :=
    FieldSpec.declares_iff
  refine ⟨fun v w record record' hv hw => ?_, fun v record hv => ⟨?_, ?_⟩⟩
  · rw [hevaluate v record hv, hevaluate w record' hw]
  · rw [hevaluate v record hv]
    rintro (hnamed | ⟨hrequired, hemail⟩)
    · rw [if_pos (hnullable.mpr hnamed)]
    · have hnone : tokens.findSome? Token.ofEmpty = none :=
        List.findSome?_eq_none_iff.mpr fun t ht => Token.ofEmpty_eq_none (by
          rintro (h | h)
          · exact hrequired ⟨t, ht, h⟩
          · exact hemail ⟨t, ht, h⟩)
      rw [hnone, ite_self]
  · intro before t after hsplit hbefore hnamed
    have hfirst : tokens.findSome? Token.ofEmpty =
        t.ofEmpty.or (after.findSome? Token.ofEmpty) := by
      have hnone : before.findSome? Token.ofEmpty = none :=
        List.findSome?_eq_none_iff.mpr fun u hu => Token.ofEmpty_eq_none (hbefore u hu)
      rw [hsplit, List.findSome?_append, hnone, Option.none_or, List.findSome?_cons]
      cases t.ofEmpty <;> rfl
    rw [hevaluate v record hv, if_neg (mt hnullable.mp hnamed), hfirst]
    constructor
    · intro hname
      rw [Token.ofEmpty_of_name hname]
      rfl
    · intro hname
      rw [Token.ofEmpty_of_name hname]
      rfl

/-- A deadline that must also be a mail address: `after` without a reference is dropped, a date in
another field is not looked at, and `email` speaks before `required`. -/
theorem empty_values_are_alike_of_deadline :
    let text := "date|after| before:start |starts_with:20,19|email:x|required"
    let evaluate := fun v record => ((Engine.mk .builtin ⟨false, .propagate⟩).evaluateField "due" v
      record (some (.rules text))).result
    let record : Record := .ofList [("start", .text "2024-02-29")]
    let named := fun rule : Rule => ∃ t ∈ Token.ofText text, t.name = rule.text
    (∀ t ∈ Token.ofText text, ∃ rule ∈ Rule.judgingEmptiness, t.name = rule.text) ∧
      Text.trimmed "\t\u3000" = "" ∧ ¬ named .nullable ∧
      evaluate (.text "\t\u3000") record = evaluate (.list []) .empty ∧
      evaluate .null record = .ok (some "Invalid email address.") := by
  intro text evaluate record named
  have hread : Token.ofText text = [⟨"date", []⟩, ⟨"after", []⟩, ⟨"before", ["start"]⟩,
      ⟨"starts_with", ["20", "19"]⟩] ++ ⟨"email", ["x"]⟩ :: [⟨"required", []⟩] := by decide
  have htokens : ∀ t ∈ Token.ofText text, ∃ rule ∈ Rule.judgingEmptiness, t.name = rule.text := by
    rw [hread]
    decide
  have hnamed : ¬ named .nullable := by
    simp only [named, hread]
    decide
  have hblank : Text.trimmed "\t\u3000" = "" := by decide
  obtain ⟨hsame, hresult⟩ := empty_values_are_alike .propagate "due" htokens
  obtain ⟨-, hfirst⟩ := hresult .null record (.inl rfl)
  obtain ⟨-, hemail⟩ := hfirst _ _ _ hread (by simp [Token.FailsEmpty, Rule.text]) hnamed
  exact ⟨htokens, hblank, hnamed,
    hsame _ _ record .empty (.inr (.inl ⟨_, rfl, hblank⟩)) (.inr (.inr rfl)), hemail rfl⟩

end FieldRules
