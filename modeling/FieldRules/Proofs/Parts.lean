import Mathlib.Data.List.Basic
import FieldRules.Proofs.Building
/-!
A specification as the flat list of what it declares, tokens and literal predicates, in the order of
their declaration. Whatever a build takes from a specification it takes from these parts
(`result_build_parts`), and what becomes of the single tokens decides the whole build, events
included (`build_congr`).
-/

namespace FieldRules

/-- A single declaration of a specification. -/
inductive Part
  | token (t : Token)
  | literal (p : Predicate)

namespace Part

def token? : Part → Option Token
  | token t => some t
  | literal _ => none

/-- The predicate that the declaration contributes. -/
def predicate? (resolve : Token → Resolution) : Part → Option Predicate
  | token t => (resolve t).predicate?
  | literal p => some p

end Part

/-- The declarations of an element of a list. -/
def SpecItem.parts : SpecItem → List Part
  | rules text => (Token.ofText text).map .token
  | predicate p => [.literal p]

/-- All declarations, in order. -/
def FieldSpec.parts : FieldSpec → List Part
  | rules text => (Token.ofText text).map .token
  | list items => items.flatMap SpecItem.parts

/-! ### Tokens and contributions -/

theorem filterMap_token?_map (ts : List Token) :
    (ts.map Part.token).filterMap Part.token? = ts := by
  rw [List.filterMap_map]
  exact List.filterMap_some

theorem filterMap_predicate?_map (resolve : Token → Resolution) (ts : List Token) :
    (ts.map Part.token).filterMap (Part.predicate? resolve) = contributed resolve ts := by
  rw [List.filterMap_map]
  rfl

namespace FieldSpec

theorem tokens_eq_parts (spec : FieldSpec) : spec.tokens = spec.parts.filterMap Part.token? := by
  cases spec with
  | rules text => exact (filterMap_token?_map _).symm
  | list items =>
    rw [tokens, parts, List.filterMap_flatMap]
    refine List.flatMap_congr fun item _ => ?_
    cases item with
    | rules text => exact (filterMap_token?_map _).symm
    | predicate p => rfl

theorem contributed_eq_parts (resolve : Token → Resolution) (spec : FieldSpec) :
    spec.contributed resolve = spec.parts.filterMap (Part.predicate? resolve) := by
  cases spec with
  | rules text => exact (filterMap_predicate?_map resolve _).symm
  | list items =>
    rw [contributed, parts, List.filterMap_flatMap]
    refine List.flatMap_congr fun item _ => ?_
    cases item with
    | rules text => exact (filterMap_predicate?_map resolve _).symm
    | predicate p => rfl

theorem mem_tokens_iff {spec : FieldSpec} {t : Token} :
    t ∈ spec.tokens ↔ .token t ∈ spec.parts := by
  rw [tokens_eq_parts, List.mem_filterMap]
  constructor
  · rintro ⟨part, hpart, ht⟩
    cases part with
    | token u =>
      cases ht
      exact hpart
    | literal p => cases ht
  · intro ht
    exact ⟨_, ht, rfl⟩

end FieldSpec

/-! ### Builds -/

namespace Registry

/-- What a build comes to, said of the parts. -/
theorem result_build_parts (r : Registry) (settings : Settings) (field : String)
    (spec : FieldSpec) :
    (r.build settings field spec).result =
      orFault ⟨spec.parts.filterMap (Part.predicate? (r.resolve settings field spec.isNumeric)),
          spec.isNullable⟩
        (firstFault? (r.resolve settings field spec.isNumeric) spec.tokens) := by
  rw [result_build, FieldSpec.contributed_eq_parts]

variable {resolve resolve' : Token → Resolution} {field : String}

theorem buildTokens_congr : ∀ {ts : List Token}, (∀ t ∈ ts, resolve t = resolve' t) →
    buildTokens resolve field ts = buildTokens resolve' field ts
  | [], _ => rfl
  | t :: ts, h => by
    rw [buildTokens, buildTokens, h t List.mem_cons_self,
      buildTokens_congr fun u hu => h u (List.mem_cons_of_mem _ hu)]

theorem buildItems_congr : ∀ {items : List SpecItem},
    (∀ t ∈ items.flatMap SpecItem.tokens, resolve t = resolve' t) →
    buildItems resolve field items = buildItems resolve' field items
  | [], _ => rfl
  | .rules text :: rest, h => by
    rw [List.flatMap_cons, SpecItem.tokens] at h
    rw [buildItems, buildItems, buildTokens_congr fun t ht => h t (List.mem_append_left _ ht),
      buildItems_congr fun t ht => h t (List.mem_append_right _ ht)]
  | .predicate p :: rest, h => by
    rw [List.flatMap_cons, SpecItem.tokens, List.nil_append] at h
    rw [buildItems, buildItems, buildItems_congr h]

/-- Registries and settings that make the same of every token build the same. -/
theorem build_congr {r r' : Registry} {settings settings' : Settings} {spec : FieldSpec}
    (h : ∀ t ∈ spec.tokens, r.resolve settings field spec.isNumeric t =
      r'.resolve settings' field spec.isNumeric t) :
    r.build settings field spec = r'.build settings' field spec := by
  have hpredicates : buildPredicates (r.resolve settings field spec.isNumeric) field spec =
      buildPredicates (r'.resolve settings' field spec.isNumeric) field spec := by
    cases spec with
    | rules text => exact buildTokens_congr h
    | list items => exact buildItems_congr h
  rw [build, build, hpredicates]

end Registry

end FieldRules
