import FieldRules.Table
/-!
Documents in TOML: tables of named values. What a table may still take in depends on how it came
about, since no table is defined twice.
-/

namespace FieldRules

/-- How a table came about. -/
inductive Toml.Origin where
  /-- By a header of its own, as an element of a list of tables, or as the whole document. -/
  | header
  /-- As a step of a longer header. -/
  | implied
  /-- As a step of a dotted name. -/
  | dotted
  /-- In braces. -/
  | inline
  deriving DecidableEq

/-- A value of a document. Numbers and moments are kept as they are written. -/
inductive Toml where
  | text (s : String)
  | boolean (b : Bool)
  | scalar (word : String)
  | list (items : List Toml)
  | table (origin : Toml.Origin) (entries : List (String × Toml))
  /-- Tables under one header, in order. -/
  | tables (elements : List (List (String × Toml)))

namespace Toml

/-- Named values. -/
abbrev Entries := List (String × Toml)

/-- Changes the table at the end of a path, which may lead through the last one of a list of tables.
Missing tables are made on the way. A dotted name leads through no table that has a header. -/
def updateAt? (dotted : Bool) (change : Origin → Entries → Option Entries) :
    List String → Origin → Entries → Option Entries
  | [], origin, entries => change origin entries
  | name :: path, _, entries =>
    match Table.lookup name entries with
    | none => do
      let origin := if dotted then Origin.dotted else .implied
      let inner ← updateAt? dotted change path origin []
      some (Table.put name (.table origin inner) entries)
    | some (.table origin inner) =>
      if origin = .inline ∨ (dotted ∧ origin = .header) then none
      else do
        let inner ← updateAt? dotted change path origin inner
        some (Table.put name (.table origin inner) entries)
    | some (.tables elements) => do
      let inner ← updateAt? dotted change path .header (elements.getLast?.getD [])
      some (Table.put name (.tables (elements.dropLast ++ [inner])) entries)
    | some _ => none

/-- Defines a dotted name in a table. The last table on its way has come about by dots too, unless
it is the first. -/
def define? (path : List String) (name : String) (value : Toml) (origin : Origin)
    (entries : Entries) : Option Entries :=
  updateAt? true (fun o es =>
    if (o = .dotted ↔ path ≠ []) ∧ (Table.lookup name es).isNone then
      some (Table.put name value es)
    else none) path origin entries

/-- Opens the table of a header. -/
def openTable? (path : List String) (name : String) (entries : Entries) : Option Entries :=
  updateAt? false (fun _ es =>
    match Table.lookup name es with
    | none => some (Table.put name (.table .header []) es)
    | some (.table .implied inner) => some (Table.put name (.table .header inner) es)
    | some _ => none) path .header entries

/-- Opens a further table of a header in double brackets. -/
def openElement? (path : List String) (name : String) (entries : Entries) : Option Entries :=
  updateAt? false (fun _ es =>
    match Table.lookup name es with
    | none => some (Table.put name (.tables [[]]) es)
    | some (.tables elements) => some (Table.put name (.tables (elements ++ [[]])) es)
    | some _ => none) path .header entries

end Toml

end FieldRules
