import FieldRules.Check.Catalog
import FieldRules.Proofs.Building
import FieldRules.Proofs.Tables
/-!
The references of a sheet turned around. Its links are the pairs of a field and another name that
the field refers to; grouping them by the name gives the dependents (`readersIn_dependents`,
`names_dependents`). Revalidating a field therefore answers for the field and then for its readers,
in the order of the sheet (`dependents_invert_references`).
-/

namespace FieldRules

namespace Sheet

/-! ### Links -/

/-- Each field with each other name that it refers to, in the order of the fields and of their
references. -/
def links (entries : List (String × FieldSpec)) : List (String × String) :=
  entries.flatMap fun e => ((e.2.references e.1).filter (· ≠ e.1)).map (e.1, ·)

/-- The fields entered as readers of a base. -/
def readersIn (t : Table (List String)) (base : String) : List String := (t.find? base).getD []

/-- Enters the reader of a link. -/
def addLink (t : Table (List String)) (l : String × String) : Table (List String) :=
  addReader l.1 t l.2

theorem foldl_addReader (field : String) (t : Table (List String)) : ∀ bases : List String,
    bases.foldl (addReader field) t = ((bases.filter (· ≠ field)).map (field, ·)).foldl addLink t
  | [] => rfl
  | base :: rest => by
    by_cases h : base = field
    · rw [List.filter_cons_of_neg (by simpa using h), List.foldl_cons, addReader, if_pos h,
        foldl_addReader field t rest]
    · rw [List.filter_cons_of_pos (by simpa using h), List.map_cons, List.foldl_cons,
        List.foldl_cons, foldl_addReader field _ rest]
      rfl

theorem dependents_eq_foldl (specs : Sheet) :
    specs.dependents = (links specs.entries).foldl addLink .empty := by
  rw [dependents, links, List.foldl_flatMap]
  simp only [foldl_addReader]

theorem ne_of_mem_links {entries : List (String × FieldSpec)} {l : String × String}
    (h : l ∈ links entries) : l.2 ≠ l.1 := by
  obtain ⟨e, -, hl⟩ := List.mem_flatMap.mp h
  obtain ⟨base, hbase, rfl⟩ := List.mem_map.mp hl
  simpa using (List.mem_filter.mp hbase).2

theorem names_addLink {l : String × String} (h : l.2 ≠ l.1) (t : Table (List String)) :
    (addLink t l).names = Table.addOnce t.names l.2 := by
  rw [addLink, addReader, if_neg h, Table.names_insert, Table.addOnce]

theorem readersIn_addLink {l : String × String} (h : l.2 ≠ l.1) (t : Table (List String))
    (key : String) : readersIn (addLink t l) key =
      if l.2 = key then Table.addOnce (readersIn t key) l.1 else readersIn t key := by
  simp only [addLink, addReader, if_neg h, readersIn, Table.find?_insert]
  by_cases hkey : l.2 = key
  · simp [hkey, Table.addOnce]
  · simp [hkey]

/-- The names come in the order of their first links. -/
theorem names_foldl_addLink : ∀ {ls : List (String × String)}, (∀ l ∈ ls, l.2 ≠ l.1) →
    ∀ t : Table (List String),
      (ls.foldl addLink t).names = (ls.map Prod.snd).foldl Table.addOnce t.names
  | [], _, _ => rfl
  | l :: ls, h, t => by
    rw [List.foldl_cons, names_foldl_addLink fun m hm => h m (List.mem_cons_of_mem _ hm),
      names_addLink (h l List.mem_cons_self), List.map_cons, List.foldl_cons]

/-- Under a name the readers of its links are entered. -/
theorem readersIn_foldl_addLink (key : String) : ∀ {ls : List (String × String)},
    (∀ l ∈ ls, l.2 ≠ l.1) → ∀ t : Table (List String), readersIn (ls.foldl addLink t) key =
      ((ls.filter (·.2 = key)).map Prod.fst).foldl Table.addOnce (readersIn t key)
  | [], _, _ => rfl
  | l :: ls, h, t => by
    rw [List.foldl_cons, readersIn_foldl_addLink key fun m hm => h m (List.mem_cons_of_mem _ hm),
      readersIn_addLink (h l List.mem_cons_self)]
    by_cases hkey : l.2 = key
    · rw [if_pos hkey, List.filter_cons_of_pos (by simpa using hkey), List.map_cons,
        List.foldl_cons]
    · rw [if_neg hkey, List.filter_cons_of_neg (by simpa using hkey)]

/-! ### Dependents -/

/-- The fields that refer to another field, in the order of the sheet. -/
def readersOf (specs : Sheet) (base : String) : List String :=
  (specs.entries.filter fun e => base ∈ e.2.references e.1 ∧ base ≠ e.1).map Prod.fst

variable {specs : Sheet} {base : String}

theorem readersOf_sublist : (specs.readersOf base).Sublist specs.names :=
  List.Sublist.map Prod.fst List.filter_sublist

theorem mem_readersOf {field : String} : field ∈ specs.readersOf base ↔
    ∃ spec, specs.find? field = some spec ∧ base ∈ spec.references field ∧ base ≠ field := by
  simp only [readersOf, List.mem_map, List.mem_filter, decide_eq_true_eq, Table.find?_eq_some_iff]
  constructor
  · rintro ⟨e, ⟨he, hbase⟩, rfl⟩
    exact ⟨e.2, he, hbase⟩
  · rintro ⟨spec, he, hbase⟩
    exact ⟨(field, spec), ⟨he, hbase⟩, rfl⟩

/-- A field has at most one link to a name. -/
theorem filter_links (base : String) : ∀ entries : List (String × FieldSpec),
    ((links entries).filter (·.2 = base)).map Prod.fst =
      (entries.filter fun e => base ∈ e.2.references e.1 ∧ base ≠ e.1).map Prod.fst
  | [] => rfl
  | e :: rest => by
    have hnodup : ((e.2.references e.1).filter (· ≠ e.1)).Nodup :=
      (Table.nodup_eraseDups _).filter _
    have hfirst : ((((e.2.references e.1).filter (· ≠ e.1)).map (e.1, ·)).filter
        (·.2 = base)).map Prod.fst =
          if base ∈ e.2.references e.1 ∧ base ≠ e.1 then [e.1] else [] := by
      rw [List.filter_map, List.map_map]
      refine (congrArg (List.map _) (Table.filter_eq_of_nodup hnodup base)).trans ?_
      simp only [List.mem_filter, decide_eq_true_eq]
      split <;> rfl
    rw [links, List.flatMap_cons, List.filter_append, List.map_append, hfirst, ← links,
      filter_links base rest, List.filter_cons]
    by_cases h : base ∈ e.2.references e.1 ∧ base ≠ e.1
    · rw [if_pos h, if_pos (decide_eq_true h)]
      rfl
    · rw [if_neg h, if_neg (by simpa using h)]
      rfl

theorem readersIn_dependents (specs : Sheet) (base : String) :
    readersIn specs.dependents base = specs.readersOf base := by
  have hnodup : (specs.readersOf base).Nodup := readersOf_sublist.nodup specs.nodup
  rw [dependents_eq_foldl, readersIn_foldl_addLink base fun _ => ne_of_mem_links, filter_links]
  exact (Table.eraseDups_eq_foldl_addOnce _).symm.trans (Table.eraseDups_of_nodup hnodup)

theorem names_dependents (specs : Sheet) : specs.dependents.names =
    (specs.entries.flatMap fun e => (e.2.references e.1).filter (· ≠ e.1)).eraseDups := by
  rw [dependents_eq_foldl, names_foldl_addLink fun _ => ne_of_mem_links,
    Table.eraseDups_eq_foldl_addOnce]
  simp [links, List.map_flatMap, Function.comp_def, Table.empty, Table.names]

/-- A field depends on the others among its references. -/
theorem mem_dependents {field : String} : field ∈ (specs.dependents.find? base).getD [] ↔
    ∃ spec, specs.find? field = some spec ∧ base ∈ spec.references field ∧ base ≠ field := by
  rw [← readersIn, readersIn_dependents, mem_readersOf]

/-- What stands under a name are its readers, of which there is at least one. -/
theorem find?_dependents {readers : List String} : specs.dependents.find? base = some readers ↔
    readers = specs.readersOf base ∧ readers ≠ [] := by
  have hreaders := readersIn_dependents specs base
  rw [readersIn] at hreaders
  constructor
  · intro h
    rw [h, Option.getD_some] at hreaders
    refine ⟨hreaders, fun hnil => ?_⟩
    -- a name in the table has a link, hence a reader
    have hname := names_dependents specs ▸ Table.mem_names_iff.mpr ⟨readers, h⟩
    obtain ⟨e, he, hbase⟩ := List.mem_flatMap.mp (List.mem_eraseDups.mp hname)
    obtain ⟨hrefs, hne⟩ := List.mem_filter.mp hbase
    have hreader : e.1 ∈ readers := hreaders ▸
      mem_readersOf.mpr ⟨e.2, Table.find?_eq_some_iff.mpr he, hrefs, by simpa using hne⟩
    exact List.not_mem_nil (hnil ▸ hreader)
  · rintro ⟨rfl, hne⟩
    cases h : specs.dependents.find? base with
    | none =>
      rw [h] at hreaders
      exact absurd hreaders.symm hne
    | some readers =>
      rw [h] at hreaders
      exact congrArg some hreaders

end Sheet

/-! ### Revalidation -/

namespace Engine

variable {e : Engine} {specs : Sheet} {field : String} {r : Record}

theorem result_revalidate (e : Engine) (specs : Sheet) (field : String) (r : Record) :
    (e.revalidate field r specs).result = (e.buildEntries (affected specs field)).map fun fields =>
      Table.ofList (fields.map (answer r)) := by
  rw [revalidate, Traced.result_bind, result_evaluateEntries]
  cases e.buildEntries (affected specs field) <;> rfl

/-- Revalidating a field answers for the field, if it has a specification, and for its readers. -/
theorem map_fst_affected (specs : Sheet) (field : String) : (affected specs field).map Prod.fst =
    (if field ∈ specs.names then [field] else []) ++ specs.readersOf field := by
  have hkeep : ∀ names : List String, (names.filterMap fun name =>
      (specs.find? name).map (name, ·)).map Prod.fst = names.filter (· ∈ specs.names) := by
    intro names
    induction names with
    | nil => rfl
    | cons name rest ih =>
      rw [List.filterMap_cons]
      cases h : specs.find? name with
      | none =>
        have hname : name ∉ specs.names := by simp [Table.mem_names_iff, h]
        rw [List.filter_cons_of_neg (by simpa using hname), ← ih]
        rfl
      | some spec =>
        have hname : name ∈ specs.names := Table.mem_names_iff.mpr ⟨spec, h⟩
        rw [List.filter_cons_of_pos (by simpa using hname), ← ih]
        rfl
  have hreaders : (specs.readersOf field).filter (· ∈ specs.names) = specs.readersOf field := by
    rw [List.filter_eq_self]
    exact fun name hname => decide_eq_true (Sheet.readersOf_sublist.subset hname)
  rw [affected, hkeep, ← Sheet.readersIn, Sheet.readersIn_dependents, List.filter_cons, hreaders]
  by_cases h : field ∈ specs.names <;> simp [h]

theorem find?_of_mem_affected {name : String} {spec : FieldSpec}
    (h : (name, spec) ∈ affected specs field) : specs.find? name = some spec := by
  obtain ⟨n, -, hn⟩ := List.mem_filterMap.mp h
  obtain ⟨s, hs, heq⟩ := Option.map_eq_some_iff.mp hn
  cases heq
  exact hs

theorem nodup_map_fst_affected (specs : Sheet) (field : String) :
    ((affected specs field).map Prod.fst).Nodup := by
  have hreaders : (specs.readersOf field).Nodup := Sheet.readersOf_sublist.nodup specs.nodup
  rw [map_fst_affected]
  split
  · refine List.nodup_cons.mpr ⟨fun hself => ?_, hreaders⟩
    obtain ⟨spec, -, -, hne⟩ := Sheet.mem_readersOf.mp hself
    exact hne rfl
  · exact hreaders

/-- The results of a revalidation stand in the order of the affected fields, and each is the result
of evaluating its field. -/
theorem revalidate_eq_ok {results : Table (Option String)}
    (h : (e.revalidate field r specs).result = .ok results) :
    results.names = (affected specs field).map Prod.fst ∧
      ∀ name message, results.find? name = some message → ∃ spec, specs.find? name = some spec ∧
        (e.evaluateField name (r.read name) r (some spec)).result = .ok message := by
  rw [result_revalidate] at h
  cases hb : e.buildEntries (affected specs field) with
  | error err =>
    rw [hb] at h
    cases h
  | ok fields =>
    rw [hb] at h
    cases h
    have hnames : (fields.map (answer r)).map Prod.fst = (affected specs field).map Prod.fst :=
      (map_fst_answer r fields).trans (map_fst_of_buildEntries hb)
    have hnodup : ((fields.map (answer r)).map Prod.fst).Nodup :=
      hnames ▸ nodup_map_fst_affected specs field
    refine ⟨(Table.names_ofList_of_nodup hnodup).trans hnames, fun name message hfind => ?_⟩
    rw [Table.find?_eq_some_iff, Table.entries_ofList_of_nodup hnodup] at hfind
    obtain ⟨⟨n, built⟩, hbuilt, heq⟩ := List.mem_map.mp hfind
    cases heq
    obtain ⟨spec, hspec, hbuild⟩ := mem_of_buildEntries hb _ hbuilt
    refine ⟨spec, find?_of_mem_affected hspec, ?_⟩
    rw [result_evaluateField, hbuild]
    rfl

/-- Under each name stand the other fields that refer to it, in the order of the sheet, and the
names come in the order in which they are first referred to; revalidating a field gives the results
of the field and of these readers. -/
theorem dependents_invert_references (specs : Sheet) :
    (∀ field base, (∃ readers, specs.dependents.find? base = some readers ∧ field ∈ readers) ↔
      base ≠ field ∧ ∃ spec, specs.find? field = some spec ∧ base ∈ spec.references field) ∧
    (∀ base readers, specs.dependents.find? base = some readers →
      readers ≠ [] ∧ readers.Nodup ∧ readers.Sublist specs.names) ∧
    specs.dependents.names.Nodup ∧
    specs.dependents.names =
      (specs.entries.flatMap fun e => (e.2.references e.1).filter (· ≠ e.1)).eraseDups ∧
    ∀ (e : Engine) (r : Record) (field : String) (results : Table (Option String)),
      (e.revalidate field r specs).result = .ok results →
      results.names = (if field ∈ specs.names then [field] else []) ++
        (specs.dependents.find? field).getD [] ∧
      results.names.Nodup ∧
      ∀ name message, results.find? name = some message → ∃ spec, specs.find? name = some spec ∧
        (e.evaluateField name (r.read name) r (some spec)).result = .ok message := by
  refine ⟨fun field base => ⟨?_, ?_⟩, ?_, specs.dependents.nodup, Sheet.names_dependents specs, ?_⟩
  · rintro ⟨readers, hreaders, hfield⟩
    obtain ⟨rfl, -⟩ := Sheet.find?_dependents.mp hreaders
    obtain ⟨spec, hspec, hbase, hne⟩ := Sheet.mem_readersOf.mp hfield
    exact ⟨hne, spec, hspec, hbase⟩
  · rintro ⟨hne, spec, hspec, hbase⟩
    have hfield := Sheet.mem_readersOf.mpr ⟨spec, hspec, hbase, hne⟩
    exact ⟨_, Sheet.find?_dependents.mpr ⟨rfl, List.ne_nil_of_mem hfield⟩, hfield⟩
  · intro base readers hreaders
    obtain ⟨rfl, hne⟩ := Sheet.find?_dependents.mp hreaders
    exact ⟨hne, Sheet.readersOf_sublist.nodup specs.nodup, Sheet.readersOf_sublist⟩
  · intro e r field results h
    obtain ⟨hnames, hresults⟩ := revalidate_eq_ok h
    refine ⟨?_, results.nodup, hresults⟩
    rw [hnames, map_fst_affected, ← Sheet.readersIn_dependents, Sheet.readersIn]

/-- A stay whose end refers to its start, to a literal date and to itself, whose start refers to a
field that is not there, and a code that is repeated. -/
theorem dependents_of_stay :
    let specs : Sheet := .ofList [("end", .rules "after:start|after:2024-01-01|same:end"),
      ("code", .rules "confirmed"), ("start", .list [.rules "before:end", .rules "before:limit"]),
      ("code_confirmation", .rules "same:code|after:start")]
    let stay : Record := .ofList [("start", .text "2024-03-01"), ("end", .text "2024-02-01")]
    let results : Table (Option String) := .ofList [("start", some "Date must be before end."),
      ("end", some "Date must be after start."), ("code_confirmation", none)]
    let e : Engine := ⟨.builtin, {}⟩
    (∃ readers, specs.dependents.find? "start" = some readers ∧ "end" ∈ readers) ∧
    specs.dependents.names = ["start", "code_confirmation", "end", "limit", "code"] ∧
    (e.revalidate "start" stay specs).result = .ok results ∧
    results.names = ["start", "end", "code_confirmation"] ∧
    ∃ spec, specs.find? "end" = some spec ∧
      (e.evaluateField "end" (stay.read "end") stay (some spec)).result =
        .ok (some "Date must be after start.") := by
  intro specs stay results e
  obtain ⟨hinverse, -, -, hnames, hrevalidate⟩ := dependents_invert_references specs
  have hend : specs.find? "end" = some (.rules "after:start|after:2024-01-01|same:end") := rfl
  have hreads : "start" ∈
      FieldSpec.references (.rules "after:start|after:2024-01-01|same:end") "end" := by
    decide +kernel
  have hok : (e.revalidate "start" stay specs).result = .ok results := by decide +kernel
  obtain ⟨horder, -, hresults⟩ := hrevalidate e stay "start" results hok
  exact ⟨(hinverse "end" "start").mpr ⟨by decide, _, hend, hreads⟩,
    hnames.trans (by decide +kernel), hok, horder.trans (by decide +kernel),
    hresults "end" _ rfl⟩

end Engine

end FieldRules
