import FieldRules.Check.Catalog
import FieldRules.Proofs.Building
import FieldRules.Proofs.Tables
/-!
Which fields of a record an evaluation can depend on. A predicate of the catalog reads the field
that `FieldSpec.reads?` finds in its token, if any, and nothing else; the references of a
specification are therefore all that its evaluation reads beside the value itself. Main statement:
`evaluation_determined_by_references`.
-/

namespace FieldRules

/-- The records hold the same value at every key; a missing key holds `null`. -/
def Record.AgreeOn (keys : List String) (r s : Record) : Prop :=
  ∀ key ∈ keys, r.read key = s.read key

/-- The answers depend on the record only through the keys. -/
def Predicate.ReadsOnly (p : Predicate) (keys : List String) : Prop :=
  ∀ v r s, Record.AgreeOn keys r s → p.check v r = p.check v s

/-- All items are rule strings. -/
def FieldSpec.OnlyRules : FieldSpec → Prop
  | rules _ => True
  | list items => ∀ item ∈ items, ∃ text, item = .rules text

namespace Predicate

theorem ReadsOnly.mono {p : Predicate} {keys more : List String} (h : p.ReadsOnly keys)
    (hsub : ∀ key ∈ keys, key ∈ more) : p.ReadsOnly more :=
  fun v r s hrs => h v r s fun key hkey => hrs key (hsub key hkey)

/-- A check that never looks at the record reads nothing of it. -/
theorem readsOnly_nil {p : Predicate} (h : ∀ v r s, p.check v r = p.check v s) :
    p.ReadsOnly [] :=
  fun v r s _ => h v r s

theorem readsOnly_equals (name other : String) : (Check.equals name other).ReadsOnly [other] := by
  intro v r s hrs
  simp only [Check.equals, hrs other (List.mem_singleton_self other)]

end Predicate

/-! ### Arguments of tokens -/

theorem Argument.raw_coerce (text : String) : (coerce text).raw = text := by
  rw [coerce]
  cases Binary64.ofText? text <;> rfl

/-- The first text argument of a bound token is the token's own first argument, not empty. -/
theorem firstText?_of_text {field : String} {numericField : Bool} {t : Token} {a : String}
    (h : (Registry.inputOf field numericField t).text 0 = .ok a) :
    FieldSpec.firstText? t = some a := by
  rw [Input.text, Registry.inputOf] at h
  rw [FieldSpec.firstText?]
  cases hargs : t.args with
  | nil =>
    rw [hargs] at h
    cases h
  | cons b rest =>
    rw [hargs] at h
    simp only [List.map_cons, List.getElem?_cons_zero, Argument.raw_coerce] at h
    split at h
    · cases h
    · next hb =>
      cases h
      simp [hb]

/-! ### Predicates of the catalog -/

/-- A bound in time that is a literal date reads nothing, any other reads its field. -/
theorem readsOnly_relative {name : String} {holds : Calendar.Instant → Calendar.Instant → Bool}
    {i : Input} {p : Predicate} (h : Check.relative name holds i = .ok p) :
    ∃ reference, i.text 0 = .ok reference ∧ p.ReadsOnly
      ((some reference).filter fun a => (Calendar.instantOfText? a).isNone).toList := by
  obtain ⟨reference, htext, hp⟩ := exists_of_bind_eq_ok h
  refine ⟨reference, htext, ?_⟩
  cases hp
  intro v r s hrs
  have hbound : Check.bound? reference r = Check.bound? reference s := by
    rw [Check.bound?, Check.bound?]
    cases hlit : Calendar.instantOfText? reference with
    | some t => rfl
    | none => rw [hrs reference (by simp [hlit])]
  simp only [hbound]

/-- The rules that look at the value alone. -/
def Rule.readsValue : Rule → Bool
  | confirmed | same | after | before => false
  | _ => true

theorem Rule.readsOnly_factory_of_readsValue {rule : Rule} {i : Input} {p : Predicate}
    (hrule : rule.readsValue = true) (h : rule.factory i = .ok p) : p.ReadsOnly [] := by
  cases rule with
  | confirmed | same | after | before => cases hrule
  | required | nullable | email | string | numeric | integer | boolean | url | date | alpha
  | alphaNum | oneOf | noneOf | startsWith | endsWith =>
    cases h
    exact Predicate.readsOnly_nil fun _ _ _ => rfl
  | min | max | size | digits =>
    obtain ⟨bound, -, hp⟩ := exists_of_bind_eq_ok h
    cases hp
    exact Predicate.readsOnly_nil fun _ _ _ => rfl
  | between | digitsBetween =>
    obtain ⟨lo, -, h⟩ := exists_of_bind_eq_ok h
    obtain ⟨hi, -, hp⟩ := exists_of_bind_eq_ok h
    cases hp
    exact Predicate.readsOnly_nil fun _ _ _ => rfl
  | regex =>
    obtain ⟨-, -, h⟩ := exists_of_bind_eq_ok h
    dsimp only at h
    split at h
    · cases h
    · cases h
      exact Predicate.readsOnly_nil fun _ _ _ => rfl

/-- What the factory of a token's rule binds reads the field found in the token. -/
theorem Rule.readsOnly_factory {rule : Rule} {field : String} {numericField : Bool} {t : Token}
    {p : Predicate} (hrule : t.rule? = some rule)
    (h : rule.factory (Registry.inputOf field numericField t) = .ok p) :
    p.ReadsOnly (FieldSpec.reads? field t).toList := by
  by_cases hv : rule.readsValue = true
  · exact (Rule.readsOnly_factory_of_readsValue hv h).mono (by simp)
  · cases rule with
    | confirmed =>
      cases h
      simpa [FieldSpec.reads?, hrule, Registry.inputOf] using Predicate.readsOnly_equals _ _
    | same =>
      obtain ⟨other, htext, hp⟩ := exists_of_bind_eq_ok h
      cases hp
      simpa [FieldSpec.reads?, hrule, firstText?_of_text htext] using Predicate.readsOnly_equals _ _
    | after | before =>
      obtain ⟨reference, htext, hp⟩ := readsOnly_relative h
      simpa [FieldSpec.reads?, hrule, firstText?_of_text htext] using hp
    | _ => exact absurd rfl hv

/-! ### The registry of the catalog -/

theorem lookup_map_rule (name : String) : ∀ rules : List Rule,
    Table.lookup name (rules.map fun rule => (rule.text, rule.factory)) =
      (rules.find? fun rule => rule.text == name).map Rule.factory
  | [] => rfl
  | rule :: rest => by
    rw [List.map_cons, Table.lookup, List.find?_cons]
    by_cases h : rule.text = name
    · simp [h]
    · rw [if_neg h, beq_eq_false_iff_ne.mpr h, lookup_map_rule name rest]

namespace Registry

theorem find?_builtin (name : String) :
    builtin.find? name = (Rule.ofText? name).map Rule.factory := by
  have hnodup : ((Rule.all.map fun rule => (rule.text, rule.factory)).map Prod.fst).Nodup := by
    rw [List.map_map]
    decide
  rw [builtin, Table.find?, Table.entries_ofList_of_nodup hnodup, lookup_map_rule]
  rfl

/-- The catalog lists the rules that are always known, so nothing else is known with it. -/
theorem factory?_builtin (name : String) :
    builtin.factory? name = (Rule.ofText? name).map Rule.factory := by
  rw [factory?, find?_builtin, alwaysKnown?]
  cases Rule.ofText? name <;> rfl

/-- Where an error of a factory contributes a predicate, that stands in for a pattern. -/
theorem eq_unusablePattern_of_onError {settings : Settings} {e : SpecError} {p : Predicate}
    (h : (onError settings e).predicate? = some p) : p = Check.unusablePattern := by
  rw [onError] at h
  split at h
  · split at h
    · cases h
    · cases h
      rfl
  · split at h <;> cases h

theorem readsOnly_resolve_builtin {settings : Settings} {field : String} {numericField : Bool}
    {t : Token} {p : Predicate}
    (h : (builtin.resolve settings field numericField t).predicate? = some p) :
    p.ReadsOnly (FieldSpec.reads? field t).toList := by
  rw [resolve, factory?_builtin] at h
  cases hrule : Rule.ofText? t.name with
  | none =>
    rw [hrule] at h
    cases hs : settings.strict <;> simp [hs, Resolution.predicate?] at h
  | some rule =>
    simp only [hrule, Option.map_some] at h
    cases hf : rule.factory (inputOf field numericField t) with
    | ok q =>
      simp only [hf, Resolution.predicate?, Option.some.injEq] at h
      exact Rule.readsOnly_factory hrule (h ▸ hf)
    | error e =>
      simp only [hf] at h
      rw [eq_unusablePattern_of_onError h]
      exact (Predicate.readsOnly_nil fun _ _ _ => rfl).mono (by simp)

end Registry

/-! ### Fields and records -/

namespace FieldSpec

theorem mem_references {spec : FieldSpec} {field key : String} :
    key ∈ spec.references field ↔ ∃ t ∈ spec.tokens, reads? field t = some key := by
  rw [references, List.mem_eraseDups, List.mem_filterMap]

/-- Without literal predicates all that is contributed comes from tokens. -/
theorem exists_token_of_mem_contributed {resolve : Token → Resolution} {spec : FieldSpec}
    (hspec : spec.OnlyRules) {p : Predicate} (h : p ∈ spec.contributed resolve) :
    ∃ t ∈ spec.tokens, (resolve t).predicate? = some p := by
  cases spec with
  | rules text =>
    rw [contributed, FieldRules.contributed, List.mem_filterMap] at h
    exact h
  | list items =>
    rw [contributed, List.mem_flatMap] at h
    obtain ⟨item, hitem, hp⟩ := h
    obtain ⟨text, rfl⟩ := hspec item hitem
    rw [SpecItem.contributed, FieldRules.contributed, List.mem_filterMap] at hp
    obtain ⟨t, ht, hp⟩ := hp
    exact ⟨t, List.mem_flatMap.mpr ⟨_, hitem, ht⟩, hp⟩

end FieldSpec

namespace BuiltField

theorem firstFailure_congr {b : BuiltField} {v w : Value} {r s : Record}
    (h : ∀ p ∈ b.predicates, p.check v r = p.check w s) :
    b.firstFailure v r = b.firstFailure w s := by
  obtain ⟨predicates, nullable⟩ := b
  rw [firstFailure, firstFailure]
  induction predicates with
  | nil => rfl
  | cons p rest ih =>
    rw [List.findSome?_cons, List.findSome?_cons, h p List.mem_cons_self,
      ih fun q hq => h q (List.mem_cons_of_mem _ hq)]

end BuiltField

/-- Without literal predicates all that is built comes from tokens. -/
theorem Registry.exists_token_of_mem_build {r : Registry} {settings : Settings} {field : String}
    {spec : FieldSpec} (hspec : spec.OnlyRules) {built : BuiltField}
    (h : (r.build settings field spec).result = .ok built) {p : Predicate}
    (hp : p ∈ built.predicates) :
    ∃ t ∈ spec.tokens, (r.resolve settings field spec.isNumeric t).predicate? = some p := by
  rw [result_build] at h
  cases hfault : firstFault? (r.resolve settings field spec.isNumeric) spec.tokens with
  | some e =>
    rw [hfault] at h
    cases h
  | none =>
    rw [hfault] at h
    cases h
    exact FieldSpec.exists_token_of_mem_contributed hspec hp

namespace Engine

variable {settings : Settings}

/-- Every predicate of a built field reads only the references of its specification. -/
theorem readsOnly_of_build {field : String} {spec : FieldSpec} (hspec : spec.OnlyRules)
    {built : BuiltField} (h : (Registry.builtin.build settings field spec).result = .ok built) :
    ∀ p ∈ built.predicates, p.ReadsOnly (spec.references field) := by
  intro p hp
  obtain ⟨t, ht, hres⟩ := Registry.exists_token_of_mem_build hspec h hp
  refine (Registry.readsOnly_resolve_builtin hres).mono fun key hkey => ?_
  exact FieldSpec.mem_references.mpr ⟨t, ht, by simpa using hkey⟩

theorem evaluateField_congr {field : String} {spec : FieldSpec} (hspec : spec.OnlyRules)
    {r s : Record} (h : Record.AgreeOn (spec.references field) r s) (v : Value) :
    (Engine.mk .builtin settings).evaluateField field v r (some spec) =
      (Engine.mk .builtin settings).evaluateField field v s (some spec) := by
  refine Traced.bind_congr_ok fun built hbuilt => ?_
  have hfail : built.firstFailure v r = built.firstFailure v s :=
    BuiltField.firstFailure_congr fun p hp => readsOnly_of_build hspec hbuilt p hp v r s h
  rw [hfail]

theorem evaluateEntries_congr {r s : Record} : ∀ entries : List (String × FieldSpec),
    (∀ e ∈ entries, e.2.OnlyRules ∧ Record.AgreeOn (e.1 :: e.2.references e.1) r s) →
    (Engine.mk .builtin settings).evaluateEntries r entries =
      (Engine.mk .builtin settings).evaluateEntries s entries
  | [], _ => rfl
  | (field, spec) :: rest, h => by
    obtain ⟨hspec, hagree⟩ := h (field, spec) List.mem_cons_self
    have hvalue : r.read field = s.read field := hagree field List.mem_cons_self
    have hrefs : Record.AgreeOn (spec.references field) r s :=
      fun key hkey => hagree key (List.mem_cons_of_mem _ hkey)
    rw [evaluateEntries, evaluateEntries, hvalue, evaluateField_congr hspec hrefs,
      evaluateEntries_congr rest fun e he => h e (List.mem_cons_of_mem _ he)]

/-- The evaluation of a field, events and errors included, is the same on all records that agree on
the references of its specification, and that of a sheet on all records that agree on its fields
and their references. -/
theorem evaluation_determined_by_references (settings : Settings) :
    (∀ (field : String) (spec : FieldSpec) (v : Value) (r s : Record), spec.OnlyRules →
      Record.AgreeOn (spec.references field) r s →
      (Engine.mk .builtin settings).evaluateField field v r (some spec) =
        (Engine.mk .builtin settings).evaluateField field v s (some spec)) ∧
    (∀ (specs : Sheet) (r s : Record), (∀ e ∈ specs.entries, e.2.OnlyRules) →
      (∀ e ∈ specs.entries, Record.AgreeOn (e.1 :: e.2.references e.1) r s) →
      (Engine.mk .builtin settings).evaluateAll r specs =
        (Engine.mk .builtin settings).evaluateAll s specs) := by
  constructor
  · intro field spec v r s hspec h
    exact evaluateField_congr hspec h v
  · intro specs r s hspecs h
    rw [evaluateAll, evaluateAll,
      evaluateEntries_congr specs.entries fun e he => ⟨hspecs e he, h e he⟩]

/-- Two records with the same stay but different notes; neither has the twin field. -/
theorem evaluation_beside_notes :
    let e : Engine := ⟨.builtin, {}⟩
    let spec : FieldSpec := .list [.rules "date|after:start", .rules "same:twin"]
    let specs : Sheet := .ofList [("end", spec)]
    let r : Record := .ofList
      [("start", .text "2024-01-01"), ("end", .text "2024-02-01"), ("note", .text "late")]
    let s : Record := .ofList [("end", .text "2024-02-01"), ("start", .text "2024-01-01")]
    spec.OnlyRules ∧ Record.AgreeOn (spec.references "end") r s ∧
    e.evaluateField "end" (.bool true) r (some spec) =
      e.evaluateField "end" (.bool true) s (some spec) ∧
    (∀ entry ∈ specs.entries, entry.2.OnlyRules) ∧
    (∀ entry ∈ specs.entries, Record.AgreeOn (entry.1 :: entry.2.references entry.1) r s) ∧
    e.evaluateAll r specs = e.evaluateAll s specs := by
  intro e spec specs r s
  have hspec : spec.OnlyRules := by simp [spec, FieldSpec.OnlyRules]
  have hrefs : spec.references "end" = ["start", "twin"] := by decide +kernel
  have hagree : Record.AgreeOn ("end" :: spec.references "end") r s := by
    intro key hkey
    rw [hrefs] at hkey
    simp only [List.mem_cons, List.not_mem_nil, or_false] at hkey
    rcases hkey with rfl | rfl | rfl <;> rfl
  have hagree' : Record.AgreeOn (spec.references "end") r s :=
    fun key hkey => hagree key (List.mem_cons_of_mem _ hkey)
  have hentries : specs.entries = [("end", spec)] := rfl
  have hspecs : ∀ entry ∈ specs.entries, entry.2.OnlyRules := by simpa [hentries] using hspec
  have hall : ∀ entry ∈ specs.entries,
      Record.AgreeOn (entry.1 :: entry.2.references entry.1) r s := by
    simpa [hentries] using hagree
  have h := evaluation_determined_by_references {}
  exact ⟨hspec, hagree', h.1 "end" spec (.bool true) r s hspec hagree', hspecs, hall,
    h.2 specs r s hspecs hall⟩

end Engine

end FieldRules
