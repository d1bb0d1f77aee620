import FieldRules.Command.Run
/-!
The file that a configuration comes from. A file that is named and exists is the one that is found
for its path (`Files.locate?_of_isFile`), so `fileLayer` reads one file at most: the one that is
named, or else the nearest one of the default name (`fileLayer_cases`).
-/

namespace FieldRules.Command

variable {files : Files} {config : Option String} {path : String}

/-! ### Places -/

namespace Files

theorem isAbsolute_slash_append (s : String) : isAbsolute ("/" ++ s) = true := by
  simp [isAbsolute, String.toList_append]

theorem isAbsolute_append {folder : String} (h : isAbsolute folder = true) (s : String) :
    isAbsolute (folder ++ s) = true := by
  simp only [isAbsolute, decide_eq_true_eq, String.toList_append] at h ⊢
  rw [List.head?_append, h]
  rfl

theorem isAbsolute_pathIn {folder : String} (h : isAbsolute folder = true) (path : String) :
    isAbsolute (pathIn folder path) = true := by
  rw [pathIn]
  split
  · assumption
  · split
    · exact isAbsolute_append h path
    · exact isAbsolute_append (isAbsolute_append h "/") path

theorem isAbsolute_of_mem_foldersFrom {folder : String} :
    ∀ {names : List String}, folder ∈ foldersFrom names → isAbsolute folder = true
  | [], h => by
    rw [List.mem_singleton.mp h]
    exact isAbsolute_slash_append _
  | name :: names, h => by
    rcases List.mem_cons.mp h with rfl | h
    · exact isAbsolute_slash_append _
    · exact isAbsolute_of_mem_foldersFrom h

theorem isAbsolute_of_mem_folders {folder : String} (h : folder ∈ files.folders) :
    isAbsolute folder = true := by
  rw [folders] at h
  cases hworking : files.working with
  | none => simp [hworking] at h
  | some names =>
    rw [hworking] at h
    exact isAbsolute_of_mem_foldersFrom h

theorem find_of_isAbsolute (h : isAbsolute path = true) : files.find path = files.entry path := by
  have hne : path ≠ "" := by
    rintro rfl
    cases h
  rw [find, if_neg hne, if_pos h]

/-- A path at which there is a file is looked for at a place where the same file stands. -/
theorem locate?_of_isFile (h : files.isFile path = true) :
    ∃ place, files.locate? path = some place ∧ files.read place = files.read path := by
  by_cases habsolute : isAbsolute path = true
  · exact ⟨path, by rw [locate?, places, if_pos habsolute, List.find?_cons_of_pos h], rfl⟩
  · rw [isFile, find, if_neg habsolute] at h
    split at h
    · cases h
    · rename_i hne
      cases hfolders : files.folders with
      | nil =>
        rw [hfolders] at h
        cases h
      | cons folder above =>
        rw [hfolders] at h
        -- in the nearest folder the path means what it means by itself
        have hplace : files.find (pathIn folder path) = files.find path := by
          have hfolder := isAbsolute_of_mem_folders (hfolders ▸ List.mem_cons_self)
          rw [find_of_isAbsolute (isAbsolute_pathIn hfolder path), find, if_neg hne,
            if_neg habsolute, hfolders]
        refine ⟨pathIn folder path, ?_, congrArg Entry.text hplace⟩
        rw [locate?, places, if_neg habsolute, hfolders, List.map_cons, List.find?_cons_of_pos]
        rw [isFile, hplace, find, if_neg hne, if_neg habsolute, hfolders]
        exact h

end Files

/-! ### The file of a configuration -/

/-- The file that a configuration is read from: one that is named, if there is a file at this path,
or else the nearest one of the default name. -/
inductive ConfiguredAt (files : Files) (config : Option String) (path : String) : Prop
  | named : config = some path → files.isFile path = true → ConfiguredAt files config path
  | nearest : config = none → files.locate? defaultPath = some path → ConfiguredAt files config path

/-- The entries of the configuration file. There are none without a file, unless one is named. -/
inductive ConfiguredBy (files : Files) (config : Option String) : Toml.Entries → Prop
  | written {path text : String} {entries : Toml.Entries} : ConfiguredAt files config path →
    files.read path = .ok text → Toml.ofText? false text = some entries →
    ConfiguredBy files config entries
  | absent : config = none → files.locate? defaultPath = none → ConfiguredBy files config []

theorem fileLayer_of_configuredAt (h : ConfiguredAt files config path) :
    fileLayer files config = layerOf (files.read path) := by
  cases h with
  | named hconfig hfile =>
    obtain ⟨place, hplace, hread⟩ := Files.locate?_of_isFile hfile
    subst hconfig
    rw [fileLayer, if_pos hfile, layerAt, hplace, ← hread]
  | nearest hconfig hplace =>
    subst hconfig
    rw [fileLayer, layerAt, hplace]

/-- Either a file is named that is not there, or one file is read, or there is none to read. -/
theorem fileLayer_cases (files : Files) (config : Option String) :
    (∃ path, config = some path ∧ files.isFile path = false ∧
      fileLayer files config = .error (.noConfiguration path)) ∨
    (∃ path, ConfiguredAt files config path ∧
      fileLayer files config = layerOf (files.read path)) ∨
    config = none ∧ files.locate? defaultPath = none ∧ fileLayer files config = .ok .empty := by
  cases config with
  | some path =>
    cases hfile : files.isFile path with
    | false => exact .inl ⟨path, rfl, hfile, by rw [fileLayer, hfile]; rfl⟩
    | true =>
      have hat : ConfiguredAt files (some path) path := .named rfl hfile
      exact .inr (.inl ⟨path, hat, fileLayer_of_configuredAt hat⟩)
  | none =>
    cases hplace : files.locate? defaultPath with
    | none => exact .inr (.inr ⟨rfl, rfl, by rw [fileLayer, layerAt, hplace]⟩)
    | some place =>
      have hat : ConfiguredAt files none place := .nearest rfl hplace
      exact .inr (.inl ⟨place, hat, fileLayer_of_configuredAt hat⟩)

theorem layerOf_eq_ok_iff {result : Except ReadFault String} {layer : Layer} :
    layerOf result = .ok layer ↔ ∃ text entries, result = .ok text ∧
      Toml.ofText? false text = some entries ∧ layer = .ofToml entries := by
  cases result with
  | error fault => simp [layerOf]
  | ok text =>
    cases htext : Toml.ofText? false text with
    | none => simp [layerOf, htext]
    | some entries => simp [layerOf, htext, @eq_comm _ layer]

theorem fileLayer_eq_ok_iff {layer : Layer} : fileLayer files config = .ok layer ↔
    ∃ entries, ConfiguredBy files config entries ∧ layer = .ofToml entries := by
  constructor
  · intro h
    rcases fileLayer_cases files config with ⟨path, -, -, hlayer⟩ | ⟨path, hat, hlayer⟩ |
      ⟨hconfig, hplace, hlayer⟩
    · cases h.symm.trans hlayer
    · obtain ⟨text, entries, hread, htext, rfl⟩ := layerOf_eq_ok_iff.mp (hlayer.symm.trans h)
      exact ⟨entries, .written hat hread htext, rfl⟩
    · cases h.symm.trans hlayer
      exact ⟨[], .absent hconfig hplace, rfl⟩
  · rintro ⟨entries, ⟨hat, hread, htext⟩ | ⟨rfl, hplace⟩, rfl⟩
    · rw [fileLayer_of_configuredAt hat]
      exact layerOf_eq_ok_iff.mpr ⟨_, _, hread, htext, rfl⟩
    · rw [fileLayer, layerAt, hplace]
      rfl

theorem fileLayer_eq_error_iff : (∃ f, fileLayer files config = .error f) ↔
    (∃ path, config = some path ∧ files.isFile path = false) ∨
    ∃ path, ConfiguredAt files config path ∧
      ∀ text, files.read path = .ok text → Toml.ofText? false text = none := by
  constructor
  · rintro ⟨f, h⟩
    rcases fileLayer_cases files config with ⟨path, hconfig, hfile, -⟩ | ⟨path, hat, hlayer⟩ |
      ⟨-, -, hlayer⟩
    · exact .inl ⟨path, hconfig, hfile⟩
    · refine .inr ⟨path, hat, fun text hread => ?_⟩
      cases htext : Toml.ofText? false text with
      | none => rfl
      | some entries =>
        have hok := layerOf_eq_ok_iff.mpr ⟨text, entries, hread, htext, rfl⟩
        cases h.symm.trans (hlayer.trans hok)
    · cases h.symm.trans hlayer
  · rintro (⟨path, rfl, hfile⟩ | ⟨path, hat, htoml⟩)
    · exact ⟨.noConfiguration path, by rw [fileLayer, hfile]; rfl⟩
    · rw [fileLayer_of_configuredAt hat]
      cases hlayer : layerOf (files.read path) with
      | error f => exact ⟨f, rfl⟩
      | ok layer =>
        obtain ⟨text, entries, hread, htext, -⟩ := layerOf_eq_ok_iff.mp hlayer
        cases (htoml text hread).symm.trans htext

end FieldRules.Command
