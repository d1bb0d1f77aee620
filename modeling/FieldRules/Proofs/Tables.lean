import Mathlib.Data.List.Basic
import FieldRules.Table
/-!
What tables say and how they change. A table is its names in order together with what is found
under each (`ext_find?`), so an operation is known once both are; `find?_insertAll` and
`names_insertAll` say this of entering many values one after another.
-/

namespace FieldRules.Table

variable {α β : Type}

/-! ### Look-ups in lists of entries -/

theorem lookup_eq_none_of_not_mem {name : String} : ∀ {l : List (String × α)},
    name ∉ l.map Prod.fst → lookup name l = none
  | [], _ => rfl
  | (n, b) :: rest, h => by
    rw [List.map_cons, List.mem_cons, not_or] at h
    rw [lookup, if_neg (Ne.symm h.1)]
    exact lookup_eq_none_of_not_mem h.2

theorem mem_of_lookup {name : String} {a : α} : ∀ {l : List (String × α)},
    lookup name l = some a → (name, a) ∈ l
  | (n, b) :: rest, h => by
    rw [lookup] at h
    split at h
    · next hn =>
      cases h
      exact hn ▸ List.mem_cons_self
    · exact List.mem_cons_of_mem _ (mem_of_lookup h)

theorem lookup_of_mem {name : String} {a : α} : ∀ {l : List (String × α)},
    (l.map Prod.fst).Nodup → (name, a) ∈ l → lookup name l = some a
  | (n, b) :: rest, hl, h => by
    rw [List.map_cons, List.nodup_cons] at hl
    rcases List.mem_cons.mp h with heq | hrest
    · cases heq
      simp [lookup]
    · have hne : n ≠ name := fun e => hl.1 (List.mem_map.mpr ⟨(name, a), hrest, e.symm⟩)
      rw [lookup, if_neg hne]
      exact lookup_of_mem hl.2 hrest

/-- Where entries are kept by their names, a name that is kept still finds what it found. -/
theorem lookup_filter (keep : String → Bool) (name : String) : ∀ l : List (String × α),
    lookup name (l.filter fun e => keep e.1) = if keep name then lookup name l else none
  | [] => by simp [lookup]
  | (n, b) :: rest => by
    have ih := lookup_filter keep name rest
    rw [List.filter_cons, lookup]
    by_cases hn : n = name
    · subst hn
      cases hkeep : keep n <;> simp [lookup, hkeep, ih]
    · cases hkeep : keep n <;> simp [lookup, hn, ih]

theorem lookup_map (f : α → β) (name : String) : ∀ l : List (String × α),
    lookup name (l.map fun e => (e.1, f e.2)) = (lookup name l).map f
  | [] => rfl
  | (n, a) :: rest => by
    rw [List.map_cons, lookup, lookup, lookup_map f name rest]
    split <;> rfl

/-- Lists with the same distinct names in the same order are equal when all look-ups agree. -/
theorem eq_of_lookup_eq : ∀ {l m : List (String × α)}, (l.map Prod.fst).Nodup →
    l.map Prod.fst = m.map Prod.fst → (∀ name, lookup name l = lookup name m) → l = m
  | [], [], _, _, _ => rfl
  | (n, a) :: l, (n', b) :: m, hl, hnames, hlook => by
    rw [List.map_cons, List.map_cons, List.cons.injEq] at hnames
    obtain ⟨rfl, hrest⟩ := hnames
    rw [List.map_cons, List.nodup_cons] at hl
    have hab : a = b := by simpa [lookup] using hlook n
    have hlm : l = m := by
      refine eq_of_lookup_eq hl.2 hrest fun name => ?_
      by_cases hn : n = name
      · subst hn
        rw [lookup_eq_none_of_not_mem hl.1, lookup_eq_none_of_not_mem (hrest ▸ hl.1)]
      · simpa [lookup, hn] using hlook name
    rw [hab, hlm]

/-! ### What a table says -/

theorem find?_eq_some_iff {t : Table α} {name : String} {a : α} :
    t.find? name = some a ↔ (name, a) ∈ t.entries :=
  ⟨mem_of_lookup, lookup_of_mem t.nodup⟩

theorem find?_eq_none_of_not_mem {t : Table α} {name : String} (h : name ∉ t.names) :
    t.find? name = none :=
  lookup_eq_none_of_not_mem h

theorem mem_names_iff {t : Table α} {name : String} :
    name ∈ t.names ↔ ∃ a, t.find? name = some a := by
  constructor
  · intro h
    obtain ⟨⟨n, a⟩, he, rfl⟩ := List.mem_map.mp h
    exact ⟨a, find?_eq_some_iff.mpr he⟩
  · rintro ⟨a, h⟩
    exact List.mem_map_of_mem (find?_eq_some_iff.mp h)

theorem eq_of_entries_eq {s t : Table α} (h : s.entries = t.entries) : s = t := by
  cases s
  cases t
  cases h
  rfl

/-- A table is its names in order and what is found under them. -/
theorem ext_find? {s t : Table α} (hnames : s.names = t.names)
    (hfind : ∀ name ∈ s.names, s.find? name = t.find? name) : s = t := by
  have hentries : s.entries = t.entries := by
    refine eq_of_lookup_eq s.nodup hnames fun name => ?_
    by_cases hn : name ∈ s.names
    · exact hfind name hn
    · exact (find?_eq_none_of_not_mem hn).trans (find?_eq_none_of_not_mem (hnames ▸ hn)).symm
  cases s
  cases t
  cases hentries
  rfl

/-- The entries are what is found under the names. -/
theorem entries_eq_filterMap (t : Table α) :
    t.entries = t.names.filterMap fun name => (t.find? name).map (name, ·) := by
  have hentry : ∀ e ∈ t.entries, (t.find? e.1).map (e.1, ·) = some e := by
    intro e he
    rw [find?_eq_some_iff.mpr he]
    rfl
  rw [names, List.filterMap_map]
  exact ((List.filterMap_congr hentry).trans List.filterMap_some).symm

/-- What is found does not depend on the order of the entries. -/
theorem find?_eq_of_perm {s t : Table α} (h : s.entries.Perm t.entries) (name : String) :
    s.find? name = t.find? name := by
  refine Option.ext fun a => ?_
  rw [find?_eq_some_iff, find?_eq_some_iff, h.mem_iff]

theorem find?_erase (t : Table α) (name other : String) :
    (t.erase name).find? other = if name = other then none else t.find? other := by
  refine (lookup_filter (fun n => decide (n ≠ name)) other t.entries).trans ?_
  by_cases h : name = other
  · simp [h]
  · simp [h, Ne.symm h, find?]

/-! ### Names, each once -/

/-- Keeping first occurrences and keeping the names of a kind can be done in either order. -/
theorem eraseDups_filter (p : String → Bool) : ∀ names : List String,
    (names.filter p).eraseDups = names.eraseDups.filter p
  | [] => rfl
  | a :: names => by
    have ih := eraseDups_filter p (names.filter fun b => !b == a)
    rw [List.filter_filter] at ih
    rw [List.eraseDups_cons]
    cases hp : p a with
    | true =>
      rw [List.filter_cons_of_pos hp, List.eraseDups_cons, List.filter_cons_of_pos hp, ← ih,
        List.filter_filter]
      simp only [Bool.and_comm]
    | false =>
      have hne : ∀ b ∈ names, (p b && !b == a) = p b := by
        intro b _
        by_cases hb : b = a
        · simp [hb, hp]
        · simp [hb]
      rw [List.filter_cons_of_neg (by simp [hp]), List.filter_cons_of_neg (by simp [hp]), ← ih,
        List.filter_congr hne]
  termination_by names => names.length
  decreasing_by exact Nat.lt_succ_of_le (List.length_filter_le _ _)

theorem eraseDups_of_nodup : ∀ {names : List String}, names.Nodup → names.eraseDups = names
  | [], _ => rfl
  | a :: names, h => by
    rw [List.nodup_cons] at h
    have hkeep : (names.filter fun b => !b == a) = names := by
      rw [List.filter_eq_self]
      intro b hb
      have hne : b ≠ a := fun e => h.1 (e ▸ hb)
      simp [hne]
    rw [List.eraseDups_cons, hkeep, eraseDups_of_nodup h.2]

/-- Adds an element at the end unless it is there. -/
def addOnce (l : List String) (a : String) : List String := if a ∈ l then l else l ++ [a]

/-- Elements that are added one after another come in the order of their first occurrences. -/
theorem foldl_addOnce : ∀ as l : List String,
    as.foldl addOnce l = l ++ (as.filter (· ∉ l)).eraseDups
  | [], l => by simp
  | a :: as, l => by
    rw [List.foldl_cons, foldl_addOnce as, addOnce]
    by_cases h : a ∈ l
    · rw [if_pos h, List.filter_cons_of_neg (by simpa using h)]
    · rw [if_neg h, List.filter_cons_of_pos (by simpa using h), List.eraseDups_cons,
        List.append_assoc, List.filter_filter]
      simp [Bool.and_comm, Bool.beq_eq_decide_eq]

theorem eraseDups_eq_foldl_addOnce (as : List String) : as.eraseDups = as.foldl addOnce [] := by
  simp [foldl_addOnce]

theorem nodup_foldl_addOnce : ∀ (as : List String) {l : List String}, l.Nodup →
    (as.foldl addOnce l).Nodup
  | [], _, h => h
  | a :: as, l, h => by
    refine nodup_foldl_addOnce as ?_
    rw [addOnce]
    split
    · exact h
    · next ha =>
      rw [List.nodup_append]
      exact ⟨h, by simp, fun b hb c hc e => ha (List.mem_singleton.mp hc ▸ e ▸ hb)⟩

theorem nodup_eraseDups (as : List String) : as.eraseDups.Nodup := by
  rw [eraseDups_eq_foldl_addOnce]
  exact nodup_foldl_addOnce as List.nodup_nil

theorem filter_eq_of_nodup {l : List String} (h : l.Nodup) (a : String) :
    l.filter (· = a) = if a ∈ l then [a] else [] := by
  rw [List.filter_eq, h.count]
  split <;> rfl

/-! ### Entering many values -/

/-- Enters named values one after another. -/
def insertAll (t : Table α) (l : List (String × α)) : Table α :=
  l.foldl (fun t e => t.insert e.1 e.2) t

theorem ofList_eq_insertAll (l : List (String × α)) : ofList l = empty.insertAll l := rfl

theorem insertAll_cons (t : Table α) (e : String × α) (l : List (String × α)) :
    t.insertAll (e :: l) = (t.insert e.1 e.2).insertAll l := rfl

theorem insertAll_append (t : Table α) (l m : List (String × α)) :
    t.insertAll (l ++ m) = (t.insertAll l).insertAll m :=
  List.foldl_append

/-- The last value under a name. -/
def lastOf (name : String) (l : List (String × α)) : Option α :=
  (l.filter (·.1 = name)).getLast?.map Prod.snd

theorem lastOf_eq_none_of_not_mem {name : String} {l : List (String × α)}
    (h : name ∉ l.map Prod.fst) : lastOf name l = none := by
  have hnone : l.filter (·.1 = name) = [] := by
    rw [List.filter_eq_nil_iff]
    intro e he
    have hne : e.1 ≠ name := fun heq => h (heq ▸ List.mem_map_of_mem he)
    simpa using hne
  rw [lastOf, hnone]
  rfl

theorem exists_lastOf {name : String} {l : List (String × α)} (h : name ∈ l.map Prod.fst) :
    ∃ a, (name, a) ∈ l ∧ lastOf name l = some a := by
  obtain ⟨e, he, rfl⟩ := List.mem_map.mp h
  have hne : l.filter (·.1 = e.1) ≠ [] := List.ne_nil_of_mem (List.mem_filter.mpr ⟨he, by simp⟩)
  obtain ⟨⟨name, a⟩, hlast⟩ := Option.ne_none_iff_exists'.mp (mt List.getLast?_eq_none_iff.mp hne)
  obtain ⟨hmem, hname⟩ := List.mem_filter.mp (List.mem_of_getLast? hlast)
  have hname : name = e.1 := by simpa using hname
  subst hname
  refine ⟨a, hmem, ?_⟩
  rw [lastOf, hlast]
  rfl

/-- Under a name the last value entered under it is found, or what was found before. -/
theorem find?_insertAll (name : String) : ∀ (l : List (String × α)) (t : Table α),
    (t.insertAll l).find? name = (lastOf name l).or (t.find? name)
  | [], _ => rfl
  | e :: rest, t => by
    rw [insertAll_cons, find?_insertAll name rest, find?_insert, lastOf, lastOf]
    by_cases h : e.1 = name
    · rw [if_pos h, List.filter_cons_of_pos (by simpa using h), List.getLast?_cons]
      cases (rest.filter (·.1 = name)).getLast? <;> rfl
    · rw [if_neg h, List.filter_cons_of_neg (by simpa using h)]

theorem find?_insertAll_of_not_mem {name : String} (l : List (String × α)) (t : Table α)
    (h : name ∉ l.map Prod.fst) : (t.insertAll l).find? name = t.find? name := by
  rw [find?_insertAll, lastOf_eq_none_of_not_mem h]
  rfl

/-- What is found under an entered name is one of the values entered under it. -/
theorem find?_insertAll_of_mem {name : String} (l : List (String × α)) (t : Table α)
    (h : name ∈ l.map Prod.fst) : ∃ a, (name, a) ∈ l ∧ (t.insertAll l).find? name = some a := by
  obtain ⟨a, ha, hlast⟩ := exists_lastOf h
  refine ⟨a, ha, ?_⟩
  rw [find?_insertAll, hlast]
  rfl

/-- Entered names that are new go to the end in the order in which they first come. -/
theorem names_insertAll : ∀ (l : List (String × α)) (t : Table α),
    (t.insertAll l).names =
      t.names ++ ((l.map Prod.fst).filter (· ∉ t.names)).eraseDups := by
  have hfold : ∀ (l : List (String × α)) (t : Table α),
      (t.insertAll l).names = (l.map Prod.fst).foldl addOnce t.names := by
    intro l
    induction l with
    | nil => exact fun _ => rfl
    | cons e rest ih =>
      intro t
      rw [insertAll_cons, ih, names_insert, List.map_cons, List.foldl_cons, addOnce]
  intro l t
  rw [hfold, foldl_addOnce]

/-- Values entered under names that are present change no name and no place. -/
theorem names_insertAll_of_subset (l : List (String × α)) (t : Table α)
    (h : ∀ name ∈ l.map Prod.fst, name ∈ t.names) : (t.insertAll l).names = t.names := by
  have hnone : (l.map Prod.fst).filter (· ∉ t.names) = [] := by
    rw [List.filter_eq_nil_iff]
    intro name hname
    simpa using h name hname
  rw [names_insertAll, hnone, List.eraseDups_nil, List.append_nil]

/-- Entering the same values again changes nothing. -/
theorem insertAll_insertAll_self (t : Table α) (l : List (String × α)) :
    (t.insertAll l).insertAll l = t.insertAll l := by
  have hold : ∀ name ∈ l.map Prod.fst, name ∈ (t.insertAll l).names := by
    intro name hname
    obtain ⟨a, -, hfind⟩ := find?_insertAll_of_mem l t hname
    exact mem_names_iff.mpr ⟨a, hfind⟩
  refine ext_find? (names_insertAll_of_subset l _ hold) fun name _ => ?_
  rw [find?_insertAll, find?_insertAll]
  cases lastOf name l <;> rfl

/-- Enters named values one after another and keeps what each of them replaces. -/
def insertEach (t : Table α) : List (String × α) → List (Option α) × Table α
  | [] => ([], t)
  | (name, a) :: rest =>
    let (replaced, t) := t.replace name a
    let (more, t) := t.insertEach rest
    (replaced :: more, t)

theorem insertEach_cons (t : Table α) (e : String × α) (l : List (String × α)) :
    t.insertEach (e :: l) =
      (t.find? e.1 :: ((t.insert e.1 e.2).insertEach l).1, ((t.insert e.1 e.2).insertEach l).2) := by
  rw [insertEach, replace_eq]

theorem snd_insertEach : ∀ (l : List (String × α)) (t : Table α),
    (t.insertEach l).2 = t.insertAll l
  | [], _ => rfl
  | e :: l, t => by rw [insertEach_cons, snd_insertEach l, insertAll_cons]

/-- Each value replaces what the values before it have left under its name. -/
theorem getElem?_insertEach : ∀ (l : List (String × α)) (t : Table α) (i : Nat),
    (t.insertEach l).1[i]? = l[i]?.map fun e => (t.insertAll (l.take i)).find? e.1
  | [], _, _ => rfl
  | e :: l, t, 0 => by
    rw [insertEach_cons]
    rfl
  | e :: l, t, i + 1 => by
    rw [insertEach_cons, List.getElem?_cons_succ, List.getElem?_cons_succ, List.take_succ_cons,
      insertAll_cons, getElem?_insertEach l]

/-! ### Tables of entered values -/

theorem find?_ofList (l : List (String × α)) (name : String) :
    (ofList l).find? name = lastOf name l := by
  rw [ofList_eq_insertAll, find?_insertAll]
  exact Option.or_none

theorem names_ofList (l : List (String × α)) :
    (ofList l).names = (l.map Prod.fst).eraseDups := by
  rw [ofList_eq_insertAll, names_insertAll]
  simp [empty, names]

theorem names_ofList_of_nodup {l : List (String × α)} (h : (l.map Prod.fst).Nodup) :
    (ofList l).names = l.map Prod.fst := by
  rw [names_ofList, eraseDups_of_nodup h]

theorem mem_names_ofList {l : List (String × α)} {name : String} :
    name ∈ (ofList l).names ↔ name ∈ l.map Prod.fst := by
  rw [names_ofList, List.mem_eraseDups]

/-- Under distinct names nothing is replaced. -/
theorem entries_ofList_of_nodup {l : List (String × α)} (h : (l.map Prod.fst).Nodup) :
    (ofList l).entries = l := by
  refine eq_of_lookup_eq (ofList l).nodup (names_ofList_of_nodup h) fun name => ?_
  by_cases hn : name ∈ l.map Prod.fst
  · obtain ⟨a, ha, hfind⟩ := find?_insertAll_of_mem l empty hn
    exact Eq.trans hfind (lookup_of_mem h ha).symm
  · rw [lookup_eq_none_of_not_mem hn]
    exact find?_insertAll_of_not_mem l empty hn

theorem ofList_entries (t : Table α) : ofList t.entries = t :=
  eq_of_entries_eq (entries_ofList_of_nodup t.nodup)

/-- Distinct names have one entry each. -/
theorem filter_fst_eq {name : String} : ∀ {l : List (String × α)}, (l.map Prod.fst).Nodup →
    l.filter (·.1 = name) = ((lookup name l).map (name, ·)).toList
  | [], _ => rfl
  | (n, b) :: rest, h => by
    rw [List.map_cons, List.nodup_cons] at h
    have ih : rest.filter (·.1 = name) = _ := filter_fst_eq h.2
    by_cases hn : n = name
    · subst hn
      rw [lookup_eq_none_of_not_mem h.1] at ih
      rw [List.filter_cons_of_pos (by simp), ih, lookup, if_pos rfl]
      rfl
    · rw [List.filter_cons_of_neg (by simpa using hn), ih, lookup, if_neg hn]

theorem filter_entries (t : Table α) (name : String) :
    t.entries.filter (·.1 = name) = ((t.find? name).map (name, ·)).toList :=
  filter_fst_eq t.nodup

/-- Entering values into a table first and then that table elsewhere enters the values there. -/
theorem insertAll_ofList (t : Table α) (l : List (String × α)) :
    t.insertAll (ofList l).entries = t.insertAll l := by
  have hnames : (ofList l).entries.map Prod.fst = (l.map Prod.fst).eraseDups := names_ofList l
  refine ext_find? ?_ fun name _ => ?_
  · rw [names_insertAll, names_insertAll, eraseDups_of_nodup ((ofList l).nodup.filter _), hnames,
      ← eraseDups_filter]
  · have hlast : lastOf name (ofList l).entries = lastOf name l := by
      rw [lastOf, filter_entries, ← find?_ofList]
      cases (ofList l).find? name <;> rfl
    rw [find?_insertAll, find?_insertAll, hlast]

end FieldRules.Table
