import Mathlib.Data.List.Forall2
import FieldRules.Proofs.Policies
import FieldRules.Proofs.ReadSets
/-!
What the evaluation of a record is. The record has no part in whether it fails: the first field in
order whose build fails gives the error, and a fault found with the catalog names that field.
Otherwise the verdict holds the result of every built field, in order (`evaluateAll_reference`).
-/

namespace FieldRules

/-! ### Errors of the catalog -/

namespace Input

variable {i : Input} {n : Nat} {e : SpecError}

theorem field_of_number_eq_error (h : i.number n = .error e) : e.field = i.field := by
  rw [number] at h
  split at h
  · cases h
    rfl
  · split at h
    · cases h
    · cases h
      rfl

theorem field_of_text_eq_error (h : i.text n = .error e) : e.field = i.field := by
  rw [text] at h
  split at h
  · cases h
    rfl
  · split at h
    · cases h
      rfl
    · cases h

end Input

/-- The factories of the catalog report faults of the field they are bound to. -/
theorem Rule.field_of_factory_eq_error {rule : Rule} {i : Input} {e : SpecError}
    (h : rule.factory i = .error e) : e.field = i.field := by
  cases rule with
  | required | nullable | email | string | numeric | integer | boolean | url | date | alpha
  | alphaNum | oneOf | noneOf | startsWith | endsWith | confirmed => cases h
  | min | max | size | digits =>
    rcases bind_eq_error h with h | ⟨bound, -, h⟩
    · exact Input.field_of_number_eq_error h
    · cases h
  | between | digitsBetween =>
    rcases bind_eq_error h with h | ⟨lo, -, h⟩
    · exact Input.field_of_number_eq_error h
    · rcases bind_eq_error h with h | ⟨hi, -, h⟩
      · exact Input.field_of_number_eq_error h
      · cases h
  | same | after | before =>
    rcases bind_eq_error h with h | ⟨other, -, h⟩
    · exact Input.field_of_text_eq_error h
    · cases h
  | regex =>
    rcases bind_eq_error h with h | ⟨-, -, h⟩
    · exact Input.field_of_text_eq_error h
    · dsimp only at h
      split at h
      · cases h
        rfl
      · cases h

namespace Registry

theorem field_of_fault_builtin {settings : Settings} {field : String} {numericField : Bool}
    {t : Token} {e : SpecError}
    (h : (builtin.resolve settings field numericField t).fault? = some e) : e.field = field := by
  rw [resolve, factory?_builtin] at h
  cases hrule : Rule.ofText? t.name with
  | none =>
    rw [hrule] at h
    cases hs : settings.strict <;> simp [hs, Resolution.fault?] at h
    exact h ▸ rfl
  | some rule =>
    simp only [hrule, Option.map_some] at h
    cases hf : rule.factory (inputOf field numericField t) with
    | ok p => simp [hf, Resolution.fault?] at h
    | error e' =>
      simp only [hf, fault?_onError_eq_some_iff] at h
      exact h.1 ▸ Rule.field_of_factory_eq_error hf

/-- With the catalog a build that fails names its own field. -/
theorem field_of_build_eq_error {settings : Settings} {field : String} {spec : FieldSpec}
    {e : SpecError} (h : (builtin.build settings field spec).result = .error e) :
    e.field = field := by
  obtain ⟨t, -, ht⟩ := List.exists_of_findSome?_eq_some (build_eq_error_iff.mp h)
  exact field_of_fault_builtin ht

end Registry

/-! ### Fields in order -/

namespace Engine

variable (e : Engine)

/-- The build of a field fails with an error. -/
def Fails (entry : String × FieldSpec) (failure : String × SpecError) : Prop :=
  failure.1 = entry.1 ∧ (e.build entry.1 entry.2).result = .error failure.2

/-- A result is that of a field: what its built predicates say of its value in the record. -/
def Answers (r : Record) (entry : String × FieldSpec) (result : String × Option String) : Prop :=
  result.1 = entry.1 ∧ ∃ built, (e.build entry.1 entry.2).result = .ok built ∧
    result.2 = built.evaluate (r.read entry.1) r

/-- The error that the build of a field fails with. -/
def failure? (entry : String × FieldSpec) : Option (String × SpecError) :=
  match (e.build entry.1 entry.2).result with
  | .error err => some (entry.1, err)
  | .ok _ => none

variable {e}

theorem failure?_eq_some_iff (entry : String × FieldSpec) (failure : String × SpecError) :
    e.failure? entry = some failure ↔ e.Fails entry failure := by
  obtain ⟨name, err⟩ := failure
  rw [failure?, Fails]
  cases (e.build entry.1 entry.2).result <;> simp [eq_comm]

theorem buildEntries_eq_error_iff {err : SpecError} : ∀ {entries : List (String × FieldSpec)},
    e.buildEntries entries = .error err ↔
      ∃ name, entries.findSome? e.failure? = some (name, err)
  | [] => by simp [buildEntries]
  | (field, spec) :: rest => by
    have ih := @buildEntries_eq_error_iff err rest
    rw [buildEntries, List.findSome?_cons, failure?]
    cases hb : (e.build field spec).result with
    | error err' => simp [bind, Except.bind]
    | ok built =>
      rw [← ih]
      cases e.buildEntries rest <;> simp [bind, Except.bind, pure, Except.pure]

/-- Results answer for fields in order when they are those of the built fields. -/
theorem forall₂_answers_iff {r : Record} : ∀ {entries : List (String × FieldSpec)}
    {results : List (String × Option String)},
    List.Forall₂ (e.Answers r) entries results ↔
      ∃ fields, e.buildEntries entries = .ok fields ∧ results = fields.map (answer r)
  | [], results => by simp [buildEntries]
  | (field, spec) :: rest, results => by
    rw [List.forall₂_cons_left_iff]
    constructor
    · rintro ⟨result, tail, ⟨hname, built, hb, hmessage⟩, htail, rfl⟩
      obtain ⟨fields, ht, rfl⟩ := forall₂_answers_iff.mp htail
      have hresult : result = answer r (field, built) := Prod.ext hname hmessage
      exact ⟨_, buildEntries_cons_eq_ok.mpr ⟨built, fields, hb, ht, rfl⟩, hresult ▸ rfl⟩
    · rintro ⟨_, h, rfl⟩
      obtain ⟨built, fields, hb, ht, rfl⟩ := buildEntries_cons_eq_ok.mp h
      exact ⟨_, _, ⟨rfl, built, hb, rfl⟩, forall₂_answers_iff.mpr ⟨fields, ht, rfl⟩, rfl⟩

theorem evaluateAll_eq_error_iff {r : Record} {specs : Sheet} {err : SpecError} :
    (e.evaluateAll r specs).result = .error err ↔
      ∃ name, specs.entries.findSome? e.failure? = some (name, err) := by
  rw [result_evaluateAll, ← buildEntries_eq_error_iff]
  cases e.buildEntries specs.entries <;> simp [Except.map]

/-- A verdict is one entry for each field, in order and nothing else. -/
theorem evaluateAll_eq_ok_iff {r : Record} {specs : Sheet} {v : Verdict} :
    (e.evaluateAll r specs).result = .ok v ↔
      List.Forall₂ (e.Answers r) specs.entries v.errors.entries ∧
        v.valid = Verdict.allPass v.errors := by
  rw [result_evaluateAll, forall₂_answers_iff]
  constructor
  · intro h
    cases hb : e.buildEntries specs.entries with
    | error err =>
      rw [hb] at h
      cases h
    | ok fields =>
      rw [hb] at h
      cases h
      -- the names of a sheet differ, so no result of a field is entered over another
      have hnodup : ((fields.map (answer r)).map Prod.fst).Nodup := by
        rw [map_fst_answer, map_fst_of_buildEntries hb]
        exact specs.nodup
      exact ⟨⟨fields, rfl, Table.entries_ofList_of_nodup hnodup⟩, rfl⟩
  · rintro ⟨⟨fields, hb, hentries⟩, hvalid⟩
    have hv : v = Verdict.ofResults v.errors := by
      obtain ⟨valid, errors⟩ := v
      exact congrArg (Verdict.mk · errors) hvalid
    rw [hb, Except.map, ← hentries, Table.ofList_entries, ← hv]

theorem exists_evaluateAll {specs : Sheet} (r : Record)
    (h : ∀ entry ∈ specs.entries, ∃ built, (e.build entry.1 entry.2).result = .ok built) :
    ∃ v, (e.evaluateAll r specs).result = .ok v := by
  obtain ⟨fields, hb⟩ := exists_buildEntries h
  rw [result_evaluateAll, hb]
  exact ⟨_, rfl⟩

/-- Whether a record's evaluation fails, and with which error, is the same for all records: the error
is that of the first field in order whose build fails. When all fields build, the verdict has one
entry for each field, in order and nothing else, which is the result of its built predicates, and it
is valid when no entry holds a message. With the catalog the error names the field that fails. -/
theorem evaluateAll_reference (e : Engine) (specs : Sheet) :
    (∀ r s err, (e.evaluateAll r specs).result = .error err ↔
      (e.evaluateAll s specs).result = .error err) ∧
    (∀ r, (∃ err, (e.evaluateAll r specs).result = .error err) ↔
      ∃ entry ∈ specs.entries, ∃ err, (e.build entry.1 entry.2).result = .error err) ∧
    (∀ r err, (e.evaluateAll r specs).result = .error err ↔
      ∃ name, FirstOf e.Fails specs.entries (name, err)) ∧
    (∀ r, (∀ entry ∈ specs.entries, ∃ built, (e.build entry.1 entry.2).result = .ok built) →
      ∃ v, (e.evaluateAll r specs).result = .ok v ∧
        List.Forall₂ (e.Answers r) specs.entries v.errors.entries ∧
        (v.valid = true ↔ ∀ entry ∈ v.errors.entries, entry.2 = none)) ∧
    (e.registry = .builtin → ∀ r err, (e.evaluateAll r specs).result = .error err →
      FirstOf e.Fails specs.entries (err.field, err)) := by
  have hfirst : ∀ r err, (e.evaluateAll r specs).result = .error err ↔
      ∃ name, FirstOf e.Fails specs.entries (name, err) := by
    intro r err
    rw [evaluateAll_eq_error_iff]
    exact exists_congr fun name => findSome?_eq_some_iff_firstOf failure?_eq_some_iff
  refine ⟨?_, ?_, hfirst, ?_, ?_⟩
  · intro r s err
    rw [hfirst, hfirst]
  · intro r
    have hsome : (∃ err, (e.evaluateAll r specs).result = .error err) ↔
        ∃ failure, specs.entries.findSome? e.failure? = some failure := by
      simp only [evaluateAll_eq_error_iff, Prod.exists]
      exact exists_comm
    rw [hsome, exists_findSome?_iff failure?_eq_some_iff]
    simp [Fails]
  · intro r h
    obtain ⟨v, hv⟩ := exists_evaluateAll r h
    obtain ⟨hentries, hvalid⟩ := evaluateAll_eq_ok_iff.mp hv
    exact ⟨v, hv, hentries, hvalid ▸ Verdict.allPass_iff⟩
  · intro hbuiltin r err h
    obtain ⟨name, before, entry, after, hentries, ⟨hname, hbuild⟩, hbefore⟩ := (hfirst r err).mp h
    have hfield : err.field = entry.1 := by
      rw [build, hbuiltin] at hbuild
      exact Registry.field_of_build_eq_error hbuild
    exact ⟨before, entry, after, hentries, ⟨hfield, hbuild⟩, hbefore⟩

/-- An empty nickname is skipped, but an empty code with a pattern that cannot be read fails the
evaluation, in front of another such field. -/
theorem evaluation_of_empty_fields :
    let e : Engine := ⟨.builtin, {}⟩
    let specs : Sheet := .ofList [("name", .rules "required"), ("nick", .rules "nullable|min:3")]
    let broken : Sheet := .ofList
      [("name", .rules "required"), ("code", .rules "nullable|regex:("), ("age", .rules "regex:[")]
    let r : Record := .ofList [("nick", .text ""), ("code", .text "")]
    let err : SpecError := .invalidPattern "code" "("
    ((∀ entry ∈ specs.entries, ∃ built, (e.build entry.1 entry.2).result = .ok built) ∧
      ∃ v, (e.evaluateAll r specs).result = .ok v ∧
        List.Forall₂ (e.Answers r) specs.entries v.errors.entries ∧ v.valid = false) ∧
    e.registry = .builtin ∧ (e.evaluateAll r broken).result = .error err ∧
      FirstOf e.Fails broken.entries ("code", err) := by
  intro e specs broken r err
  have hbuilds : ∀ entry ∈ specs.entries,
      ∃ built, (e.build entry.1 entry.2).result = .ok built := by
    have hentries : specs.entries =
        [("name", .rules "required"), ("nick", .rules "nullable|min:3")] := rfl
    simp only [hentries, List.mem_cons, List.not_mem_nil, or_false]
    rintro _ (rfl | rfl) <;>
      exact ⟨_, Registry.build_eq_ok_iff.mpr ⟨by decide +kernel, rfl⟩⟩
  have herror : (e.evaluateAll r broken).result = .error err := by decide +kernel
  obtain ⟨-, -, -, hok, -⟩ := evaluateAll_reference e specs
  obtain ⟨-, -, -, -, hfield⟩ := evaluateAll_reference e broken
  obtain ⟨v, hv, hanswers, -⟩ := hok r hbuilds
  have hinvalid : v.valid = false := by
    have heval : (e.evaluateAll r specs).result.map Verdict.valid = .ok false := by decide +kernel
    rw [hv] at heval
    exact Except.ok.inj heval
  exact ⟨⟨hbuilds, v, hv, hanswers, hinvalid⟩, rfl, herror, hfield rfl r err herror⟩

end Engine

end FieldRules
