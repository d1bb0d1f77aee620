/-!
Tables from names to entries that remember the order in which their names first came: setting a
name that is present keeps its place and replaces its entry, a new name goes to the end.

Main statements: `find?_insert` says what a look-up sees after an insertion, `names_insert` says
where the name stands, `replace_eq` says which entry makes room.
-/

namespace FieldRules

/-- Entries under distinct names, in the order the names first came. -/
structure Table (α : Type) where
  entries : List (String × α)
  nodup : (entries.map Prod.fst).Nodup
  deriving DecidableEq

namespace Table

variable {α β : Type}

/-! ### Lists of named entries -/

/-- Replaces the entry of `name` where it stands, or adds it at the end. -/
def put (name : String) (a : α) : List (String × α) → List (String × α)
  | [] => [(name, a)]
  | (n, b) :: rest => if n = name then (n, a) :: rest else (n, b) :: put name a rest

/-- The entry that is replaced, if there is one, and the entries with the new one. -/
def exchange (name : String) (a : α) : List (String × α) → Option α × List (String × α)
  | [] => (none, [(name, a)])
  | (n, b) :: rest =>
    if n = name then (some b, (n, a) :: rest)
    else
      let (replaced, rest) := exchange name a rest
      (replaced, (n, b) :: rest)

/-- The first entry of `name`. -/
def lookup (name : String) : List (String × α) → Option α
  | [] => none
  | (n, b) :: rest => if n = name then some b else lookup name rest

theorem map_fst_put (name : String) (a : α) : ∀ l : List (String × α),
    (put name a l).map Prod.fst =
      if name ∈ l.map Prod.fst then l.map Prod.fst else l.map Prod.fst ++ [name]
  | [] => by simp [put]
  | (n, b) :: rest => by
    by_cases h : n = name
    · simp [put, h]
    · have h' : name ≠ n := fun e => h e.symm
      by_cases hm : name ∈ rest.map Prod.fst <;>
        simp [put, h, h', map_fst_put name a rest, hm]

theorem nodup_put (name : String) (a : α) (l : List (String × α))
    (h : (l.map Prod.fst).Nodup) : ((put name a l).map Prod.fst).Nodup := by
  rw [map_fst_put]
  split
  · exact h
  · next hm =>
    rw [List.nodup_append]
    exact ⟨h, by simp, fun x hx y hy e => hm (by
      rw [List.mem_singleton] at hy
      exact hy ▸ e ▸ hx)⟩

theorem lookup_put (name other : String) (a : α) : ∀ l : List (String × α),
    lookup other (put name a l) = if name = other then some a else lookup other l
  | [] => by simp [put, lookup]
  | (n, b) :: rest => by
    by_cases h : n = name
    · subst h
      by_cases ho : n = other <;> simp [put, lookup, ho]
    · by_cases ho : n = other
      · subst ho
        simp [put, lookup, h, Ne.symm h]
      · simp [put, lookup, h, ho, lookup_put name other a rest]

theorem exchange_eq (name : String) (a : α) : ∀ l : List (String × α),
    exchange name a l = (lookup name l, put name a l)
  | [] => rfl
  | (n, b) :: rest => by
    rw [exchange, exchange_eq name a rest, lookup, put]
    split <;> rfl

/-! ### Operations -/

def empty : Table α := ⟨[], List.nodup_nil⟩

instance : EmptyCollection (Table α) := ⟨empty⟩
instance : Inhabited (Table α) := ⟨empty⟩

/-- Sets the entry of `name`. -/
def insert (t : Table α) (name : String) (a : α) : Table α :=
  ⟨put name a t.entries, nodup_put name a t.entries t.nodup⟩

/-- Sets the entry of `name` and gives the one that it replaces. -/
def replace (t : Table α) (name : String) (a : α) : Option α × Table α :=
  let r := exchange name a t.entries
  (r.1, ⟨r.2, by
    rw [show r = (lookup name t.entries, put name a t.entries) from exchange_eq name a t.entries]
    exact nodup_put name a t.entries t.nodup⟩)

/-- The entry of `name`. -/
def find? (t : Table α) (name : String) : Option α := lookup name t.entries

def contains (t : Table α) (name : String) : Bool := (t.find? name).isSome

/-- Drops the entry of `name`; the others keep their order. -/
def erase (t : Table α) (name : String) : Table α :=
  ⟨t.entries.filter (·.1 ≠ name),
    (List.Sublist.map Prod.fst List.filter_sublist).nodup t.nodup⟩

/-- Enters named values one after another. -/
def ofList (l : List (String × α)) : Table α :=
  l.foldl (fun t e => t.insert e.1 e.2) empty

/-- Names in order. -/
def names (t : Table α) : List String := t.entries.map Prod.fst

def size (t : Table α) : Nat := t.entries.length

/-- Changes every entry and no name. -/
def map (f : α → β) (t : Table α) : Table β :=
  ⟨t.entries.map fun e => (e.1, f e.2), by
    have h : (t.entries.map fun e => (e.1, f e.2)).map Prod.fst = t.entries.map Prod.fst := by
      simp [Function.comp_def]
    exact h ▸ t.nodup⟩

/-! ### What each operation does -/

theorem find?_insert (t : Table α) (name other : String) (a : α) :
    (t.insert name a).find? other = if name = other then some a else t.find? other :=
  lookup_put name other a t.entries

theorem replace_eq (t : Table α) (name : String) (a : α) :
    t.replace name a = (t.find? name, t.insert name a) := by
  simp only [replace, exchange_eq, find?, insert]

theorem names_insert (t : Table α) (name : String) (a : α) :
    (t.insert name a).names = if name ∈ t.names then t.names else t.names ++ [name] :=
  map_fst_put name a t.entries

end Table

end FieldRules
