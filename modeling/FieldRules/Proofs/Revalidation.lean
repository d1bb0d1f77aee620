import FieldRules.Proofs.Dependents
import FieldRules.Proofs.ReadSets
/-!
Keeping errors up to date while a record is edited. After a change of one key only the field of that
name and the fields whose references hold it can have new results, and `dependents` finds exactly
these; so overwriting the held errors with what `revalidate` gives leaves the errors of a whole
evaluation, edit after edit (`held_errors_eq_evaluateAll`).
-/

namespace FieldRules

/-! ### Edits of a record -/

/-- A change of one key of a record. -/
inductive Edit
  | set (key : String) (v : Value)
  | remove (key : String)

namespace Edit

def key : Edit → String
  | set k _ | remove k => k

/-- The record after the change. -/
def apply (r : Record) : Edit → Record
  | set k v => r.insert k v
  | remove k => r.erase k

theorem read_apply_of_ne (edit : Edit) (r : Record) {name : String} (h : name ≠ edit.key) :
    (edit.apply r).read name = r.read name := by
  cases edit with
  | set k v =>
    have hk : k ≠ name := Ne.symm h
    rw [apply, Record.read, Table.find?_insert, if_neg hk, Record.read]
  | remove k =>
    have hk : k ≠ name := Ne.symm h
    rw [apply, Record.read, Table.find?_erase, if_neg hk, Record.read]

end Edit

/-- A record and the errors that are held for it. -/
structure Held where
  record : Record
  errors : Table (Option String)

namespace Held

/-- Changes the record and overwrites the errors with those that revalidating the key gives. -/
def step (e : Engine) (specs : Sheet) (h : Held) (edit : Edit) : Except SpecError Held := do
  let record := edit.apply h.record
  let results ← (e.revalidate edit.key record specs).result
  return ⟨record, h.errors.insertAll results.entries⟩

/-- Makes changes one after another. -/
def run (e : Engine) (specs : Sheet) (h : Held) (edits : List Edit) : Except SpecError Held :=
  edits.foldlM (step e specs) h

end Held

/-! ### Errors that are up to date -/

namespace Engine

variable {e : Engine} {specs : Sheet}

/-- The errors are the results of all fields of the sheet, in its order. -/
structure UpToDate (e : Engine) (specs : Sheet) (r : Record) (errors : Table (Option String)) :
    Prop where
  names_eq : errors.names = specs.names
  find_eq : ∀ {field spec}, specs.find? field = some spec →
    ∃ built, (e.build field spec).result = .ok built ∧
      errors.find? field = some (built.evaluate (r.read field) r)

/-- What is found among the results of built fields is the result of one of them. -/
theorem find?_ofList_answer {r : Record} {fields : List (String × BuiltField)} {name : String}
    (h : name ∈ fields.map Prod.fst) : ∃ built, (name, built) ∈ fields ∧
      (Table.ofList (fields.map (answer r))).find? name =
        some (built.evaluate (r.read name) r) := by
  have hname : name ∈ (fields.map (answer r)).map Prod.fst := by rwa [map_fst_answer]
  obtain ⟨m, hm, hfind⟩ := Table.find?_insertAll_of_mem (fields.map (answer r)) .empty hname
  obtain ⟨⟨field, built⟩, hf, heq⟩ := List.mem_map.mp hm
  cases heq
  exact ⟨built, hf, hfind⟩

theorem upToDate_of_evaluateAll {r : Record} {v : Verdict}
    (h : (e.evaluateAll r specs).result = .ok v) : UpToDate e specs r v.errors := by
  rw [result_evaluateAll] at h
  cases hb : e.buildEntries specs.entries with
  | error err =>
    rw [hb] at h
    cases h
  | ok fields =>
    rw [hb] at h
    cases h
    have hnames := map_fst_of_buildEntries hb
    constructor
    · have hnodup : ((fields.map (answer r)).map Prod.fst).Nodup := by
        rw [map_fst_answer, hnames]
        exact specs.nodup
      exact (Table.names_ofList_of_nodup hnodup).trans ((map_fst_answer r fields).trans hnames)
    · intro field spec hspec
      have hentry := Table.find?_eq_some_iff.mp hspec
      have hmem : field ∈ fields.map Prod.fst := hnames ▸ List.mem_map_of_mem hentry
      obtain ⟨built, hf, hfind⟩ := find?_ofList_answer (r := r) hmem
      obtain ⟨s, hs, hbuilt⟩ := mem_of_buildEntries hb _ hf
      have hss : some s = some spec := (Table.find?_eq_some_iff.mpr hs).symm.trans hspec
      cases hss
      exact ⟨built, hbuilt, hfind⟩

/-- Errors that are up to date are those of a whole evaluation. -/
theorem evaluateAll_of_upToDate {r : Record} {errors : Table (Option String)}
    (h : UpToDate e specs r errors) :
    (e.evaluateAll r specs).result = .ok (Verdict.ofResults errors) := by
  have hbuilds : ∀ entry ∈ specs.entries,
      ∃ built, (e.build entry.1 entry.2).result = .ok built := by
    intro entry hentry
    obtain ⟨built, hbuilt, -⟩ := h.find_eq (Table.find?_eq_some_iff.mpr hentry)
    exact ⟨built, hbuilt⟩
  obtain ⟨fields, hb⟩ := exists_buildEntries hbuilds
  have hall : (e.evaluateAll r specs).result =
      .ok (Verdict.ofResults (Table.ofList (fields.map (answer r)))) := by
    rw [result_evaluateAll, hb]
    rfl
  have hfresh := upToDate_of_evaluateAll hall
  have heq : Table.ofList (fields.map (answer r)) = errors := by
    refine Table.ext_find? (hfresh.names_eq.trans h.names_eq.symm) fun name hname => ?_
    obtain ⟨spec, hspec⟩ := Table.mem_names_iff.mp (hfresh.names_eq ▸ hname)
    obtain ⟨b, hb, hfind⟩ := hfresh.find_eq hspec
    obtain ⟨b', hb', hfind'⟩ := h.find_eq hspec
    cases hb.symm.trans hb'
    exact hfind.trans hfind'.symm
  rw [hall, heq]

/-- Revalidating a key evaluates its field and all fields that refer to it. -/
theorem mem_affected {key name : String} {spec : FieldSpec} :
    (name, spec) ∈ affected specs key ↔
      specs.find? name = some spec ∧ (name = key ∨ key ∈ spec.references name) := by
  have hentry : (name, spec) ∈ affected specs key ↔
      (name = key ∨ name ∈ (specs.dependents.find? key).getD []) ∧
        specs.find? name = some spec := by
    simp only [affected, List.mem_filterMap, List.mem_cons, Option.map_eq_some_iff, Prod.mk.injEq]
    constructor
    · rintro ⟨n, hn, s, hs, rfl, rfl⟩
      exact ⟨hn, hs⟩
    · rintro ⟨hn, hs⟩
      exact ⟨name, hn, spec, hs, rfl, rfl⟩
  rw [hentry, Sheet.mem_dependents]
  constructor
  · rintro ⟨rfl | ⟨s, hs, hkey, -⟩, hspec⟩
    · exact ⟨hspec, Or.inl rfl⟩
    · cases hs.symm.trans hspec
      exact ⟨hspec, Or.inr hkey⟩
  · rintro ⟨hspec, hkey⟩
    by_cases hname : name = key
    · exact ⟨Or.inl hname, hspec⟩
    · exact ⟨Or.inr ⟨spec, hspec, hkey.resolve_left hname, Ne.symm hname⟩, hspec⟩

/-- When a change of one key leaves the results of all fields that do not refer to it, overwriting
with the revalidated results brings the errors up to date. -/
theorem upToDate_overwrite {r s : Record} {key : String} {errors : Table (Option String)}
    (h : UpToDate e specs r errors)
    (hkeep : ∀ field spec built, specs.find? field = some spec →
      (e.build field spec).result = .ok built → field ≠ key → key ∉ spec.references field →
      built.evaluate (s.read field) s = built.evaluate (r.read field) r) :
    ∃ results, (e.revalidate key s specs).result = .ok results ∧
      (∀ name ∈ results.names, name ∈ errors.names) ∧
      UpToDate e specs s (errors.insertAll results.entries) := by
  have hbuilds : ∀ entry ∈ affected specs key,
      ∃ built, (e.build entry.1 entry.2).result = .ok built := by
    intro entry hentry
    obtain ⟨built, hbuilt, -⟩ := h.find_eq (mem_affected.mp hentry).1
    exact ⟨built, hbuilt⟩
  obtain ⟨fields, hb⟩ := exists_buildEntries hbuilds
  have hresult : (e.revalidate key s specs).result =
      .ok (Table.ofList (fields.map (answer s))) := by
    rw [result_revalidate, hb]
    rfl
  have hnames : ∀ name, name ∈ (Table.ofList (fields.map (answer s))).names ↔
      name ∈ (affected specs key).map Prod.fst := by
    intro name
    rw [Table.mem_names_ofList, map_fst_answer, map_fst_of_buildEntries hb]
  have hsub : ∀ name ∈ (Table.ofList (fields.map (answer s))).names, name ∈ errors.names := by
    intro name hname
    obtain ⟨⟨n, spec⟩, hentry, rfl⟩ := List.mem_map.mp ((hnames name).mp hname)
    rw [h.names_eq]
    exact Table.mem_names_iff.mpr ⟨spec, (mem_affected.mp hentry).1⟩
  refine ⟨_, hresult, hsub, (Table.names_insertAll_of_subset _ _ hsub).trans h.names_eq, ?_⟩
  intro field spec hspec
  obtain ⟨built, hbuilt, hfind⟩ := h.find_eq hspec
  refine ⟨built, hbuilt, ?_⟩
  by_cases hmem : field ∈ (Table.ofList (fields.map (answer s))).names
  · -- a revalidated field gets its new result
    obtain ⟨m, hm, hover⟩ := Table.find?_insertAll_of_mem _ errors hmem
    have hfields : field ∈ fields.map Prod.fst := by
      rwa [Table.mem_names_ofList, map_fst_answer] at hmem
    obtain ⟨b, hbf, hanswer⟩ := find?_ofList_answer (r := s) hfields
    obtain ⟨spec', hentry, hb'⟩ := mem_of_buildEntries hb _ hbf
    cases (mem_affected.mp hentry).1.symm.trans hspec
    cases hb'.symm.trans hbuilt
    cases (Table.find?_eq_some_iff.mpr hm).symm.trans hanswer
    exact hover
  · -- any other field keeps its result, which is still right
    have hout : (field, spec) ∉ affected specs key :=
      fun hin => hmem ((hnames field).mpr (List.mem_map_of_mem hin))
    rw [mem_affected, not_and, not_or] at hout
    obtain ⟨hne, hkey⟩ := hout hspec
    rw [Table.find?_insertAll_of_not_mem _ errors hmem, hfind,
      hkeep field spec built hspec hbuilt hne hkey]

end Engine

/-! ### Runs of edits -/

section Runs

variable {settings : Settings} {specs : Sheet}

/-- With the catalog, a change of one key leaves the result of a field that does not refer to it. -/
theorem BuiltField.evaluate_eq_of_unaffected {field key : String} {spec : FieldSpec}
    {built : BuiltField} {r s : Record} (hspec : spec.OnlyRules)
    (hbuilt : (Registry.builtin.build settings field spec).result = .ok built)
    (hread : ∀ name, name ≠ key → s.read name = r.read name) (hne : field ≠ key)
    (hkey : key ∉ spec.references field) :
    built.evaluate (s.read field) s = built.evaluate (r.read field) r := by
  have hagree : Record.AgreeOn (spec.references field) s r :=
    fun name hname => hread name fun e => hkey (e ▸ hname)
  have hfail : built.firstFailure (r.read field) s = built.firstFailure (r.read field) r :=
    firstFailure_congr fun p hp => Engine.readsOnly_of_build hspec hbuilt p hp _ s r hagree
  rw [hread field hne, evaluate, evaluate, hfail]

/-- One edit keeps the held errors up to date and adds no field to them. -/
theorem Held.step_upToDate (hspecs : ∀ entry ∈ specs.entries, entry.2.OnlyRules) {h : Held}
    (hup : Engine.UpToDate ⟨.builtin, settings⟩ specs h.record h.errors) (edit : Edit) :
    ∃ results, ((Engine.mk .builtin settings).revalidate edit.key (edit.apply h.record)
        specs).result = .ok results ∧
      (∀ name ∈ results.names, name ∈ h.errors.names) ∧
      h.step ⟨.builtin, settings⟩ specs edit =
        .ok ⟨edit.apply h.record, h.errors.insertAll results.entries⟩ ∧
      Engine.UpToDate ⟨.builtin, settings⟩ specs (edit.apply h.record)
        (h.errors.insertAll results.entries) := by
  have hread : ∀ name, name ≠ edit.key → (edit.apply h.record).read name = h.record.read name :=
    fun name hname => edit.read_apply_of_ne h.record hname
  obtain ⟨results, hres, hsub, hnext⟩ := Engine.upToDate_overwrite hup
    fun field spec built hspec hbuilt hne hkey =>
      BuiltField.evaluate_eq_of_unaffected (hspecs _ (Table.find?_eq_some_iff.mp hspec)) hbuilt
        hread hne hkey
  refine ⟨results, hres, hsub, ?_, hnext⟩
  rw [Held.step, hres]
  rfl

/-- Every run of edits goes through and ends with errors that are up to date. -/
theorem Held.run_upToDate (hspecs : ∀ entry ∈ specs.entries, entry.2.OnlyRules) :
    ∀ (edits : List Edit) {h : Held},
    Engine.UpToDate ⟨.builtin, settings⟩ specs h.record h.errors →
    ∃ final, h.run ⟨.builtin, settings⟩ specs edits = .ok final ∧
      final.record = edits.foldl Edit.apply h.record ∧
      Engine.UpToDate ⟨.builtin, settings⟩ specs final.record final.errors
  | [], h, hup => ⟨h, rfl, rfl, hup⟩
  | edit :: rest, h, hup => by
    obtain ⟨results, -, -, hstep, hnext⟩ := Held.step_upToDate hspecs hup edit
    obtain ⟨final, hrun, hrec, hfinal⟩ := Held.run_upToDate hspecs rest
      (h := ⟨edit.apply h.record, h.errors.insertAll results.entries⟩) hnext
    refine ⟨final, ?_, hrec, hfinal⟩
    rw [Held.run, List.foldlM_cons, hstep]
    exact hrun

/-- Over any run of edits no revalidation fails or names a field that is not held, and the errors
held at the end are those of evaluating the final record. -/
theorem held_errors_eq_evaluateAll (settings : Settings) (specs : Sheet)
    (hspecs : ∀ entry ∈ specs.entries, entry.2.OnlyRules) (r : Record) (v : Verdict)
    (h : ((Engine.mk .builtin settings).evaluateAll r specs).result = .ok v)
    (edits : List Edit) :
    (∃ final, (Held.mk r v.errors).run ⟨.builtin, settings⟩ specs edits = .ok final ∧
      final.record = edits.foldl Edit.apply r ∧
      ((Engine.mk .builtin settings).evaluateAll final.record specs).result =
        .ok (Verdict.ofResults final.errors)) ∧
    (∀ before edit after, edits = before ++ edit :: after → ∃ held results,
      (Held.mk r v.errors).run ⟨.builtin, settings⟩ specs before = .ok held ∧
      ((Engine.mk .builtin settings).revalidate edit.key (edit.apply held.record) specs).result =
        .ok results ∧
      (∀ name ∈ results.names, name ∈ held.errors.names) ∧
      (held.errors.insertAll results.entries).names = held.errors.names) := by
  have hup := Engine.upToDate_of_evaluateAll h
  constructor
  · obtain ⟨final, hrun, hrec, hfinal⟩ := Held.run_upToDate hspecs edits (h := ⟨r, v.errors⟩) hup
    exact ⟨final, hrun, hrec, Engine.evaluateAll_of_upToDate hfinal⟩
  · rintro before edit after -
    obtain ⟨held, hrun, -, hheld⟩ := Held.run_upToDate hspecs before (h := ⟨r, v.errors⟩) hup
    obtain ⟨results, hres, hsub, -, -⟩ := Held.step_upToDate hspecs hheld edit
    exact ⟨held, results, hrun, hres, hsub, Table.names_insertAll_of_subset _ _ hsub⟩

/-- A password is changed and then its repetition is taken away. -/
theorem held_errors_of_password_change :
    let e : Engine := ⟨.builtin, {}⟩
    let specs : Sheet := .ofList
      [("password", .rules "required|min:8"), ("repeated", .rules "same:password")]
    let r : Record := .ofList [("password", .text "long enough"), ("repeated", .text "short")]
    let errors : Table (Option String) :=
      .ofList [("password", none), ("repeated", some "Fields do not match.")]
    let edits : List Edit := [.set "password" (.text "short"), .remove "repeated"]
    (∀ entry ∈ specs.entries, entry.2.OnlyRules) ∧
    (e.evaluateAll r specs).result = .ok ⟨false, errors⟩ ∧
    (∃ final, (Held.mk r errors).run e specs edits = .ok final ∧
      (e.evaluateAll final.record specs).result = .ok (Verdict.ofResults final.errors)) ∧
    ∃ held results, (Held.mk r errors).run e specs [.set "password" (.text "short")] = .ok held ∧
      (e.revalidate "repeated" (held.record.erase "repeated") specs).result = .ok results ∧
      ∀ name ∈ results.names, name ∈ held.errors.names := by
  intro e specs r errors edits
  have hspecs : ∀ entry ∈ specs.entries, entry.2.OnlyRules := by
    have hentries : specs.entries =
        [("password", .rules "required|min:8"), ("repeated", .rules "same:password")] := rfl
    simp [hentries, FieldSpec.OnlyRules]
  have hstart : (e.evaluateAll r specs).result = .ok ⟨false, errors⟩ := by decide +kernel
  have h := held_errors_eq_evaluateAll {} specs hspecs r ⟨false, errors⟩ hstart edits
  obtain ⟨final, hrun, -, hfinal⟩ := h.1
  obtain ⟨held, results, hheld, hres, hsub, -⟩ :=
    h.2 [.set "password" (.text "short")] (.remove "repeated") [] rfl
  exact ⟨hspecs, hstart, ⟨final, hrun, hfinal⟩, held, results, hheld, hres, hsub⟩

end Runs

end FieldRules
