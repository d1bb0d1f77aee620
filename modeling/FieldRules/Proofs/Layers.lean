import FieldRules.Proofs.Outcomes
import FieldRules.Proofs.Tables
/-!
Layers of a configuration. Each key takes what the highest layer says that sets it: an option of the
command line, a variable of the environment, the configuration file, and the default last. The keys
do not touch one another, and what stands below the highest layer of a key does no harm
(`configuration_takes_highest_layers`).
-/

namespace FieldRules

/-! ### Names of a document -/

namespace Toml

/-- No name stands twice. -/
def Distinct (entries : Entries) : Prop := (entries.map Prod.fst).Nodup

theorem Distinct.put {entries : Entries} (h : Distinct entries) (name : String) (x : Toml) :
    Distinct (Table.put name x entries) :=
  Table.nodup_put name x entries h

/-- The change leaves distinct names distinct. -/
def KeepsDistinct (change : Entries → Option Entries) : Prop :=
  ∀ entries changed, change entries = some changed → Distinct entries → Distinct changed

theorem keepsDistinct_updateAt? {dotted : Bool} {change : Origin → Entries → Option Entries}
    (hchange : ∀ origin, KeepsDistinct (change origin)) (path : List String) (origin : Origin) :
    KeepsDistinct (updateAt? dotted change path origin) := by
  intro entries changed h hentries
  cases path with
  | nil => exact hchange origin entries changed h hentries
  | cons name path =>
    rw [updateAt?] at h
    -- whatever stands under the first name, its successor stands in the same place
    split at h
    · obtain ⟨inner, -, h⟩ := Option.bind_eq_some_iff.mp h
      cases h
      exact hentries.put _ _
    · split at h
      · cases h
      · obtain ⟨inner, -, h⟩ := Option.bind_eq_some_iff.mp h
        cases h
        exact hentries.put _ _
    · obtain ⟨inner, -, h⟩ := Option.bind_eq_some_iff.mp h
      cases h
      exact hentries.put _ _
    · cases h

theorem keepsDistinct_define? (path : List String) (name : String) (x : Toml) (origin : Origin) :
    KeepsDistinct (define? path name x origin) := by
  refine keepsDistinct_updateAt? (fun _ entries changed h hentries => ?_) path origin
  split at h <;> cases h
  exact hentries.put _ _

theorem keepsDistinct_openTable? (path : List String) (name : String) :
    KeepsDistinct (openTable? path name) := by
  refine keepsDistinct_updateAt? (fun _ entries changed h hentries => ?_) path .header
  split at h <;> cases h <;> exact hentries.put _ _

theorem keepsDistinct_openElement? (path : List String) (name : String) :
    KeepsDistinct (openElement? path name) := by
  refine keepsDistinct_updateAt? (fun _ entries changed h hentries => ?_) path .header
  split at h <;> cases h <;> exact hentries.put _ _

theorem distinct_of_document? {extended : Bool} (fuel : Nat) :
    ∀ {current : List String} {entries document : Entries} {cs : List Char},
      document? extended fuel current entries cs = some document → Distinct entries →
        Distinct document := by
  induction fuel with
  | zero => exact fun h => nomatch h
  | succ fuel ih =>
    intro current entries document cs h hentries
    rw [document?] at h
    split at h
    · cases h
      exact hentries
    · split at h <;> cases h
      exact hentries
    · obtain ⟨⟨⟨path, name⟩, rest⟩, -, h⟩ := Option.bind_eq_some_iff.mp h
      dsimp only at h
      split at h
      · obtain ⟨opened, hopened, h⟩ := Option.bind_eq_some_iff.mp h
        obtain ⟨rest, -, h⟩ := Option.bind_eq_some_iff.mp h
        exact ih h (keepsDistinct_openElement? _ _ _ _ hopened hentries)
      · cases h
    · obtain ⟨⟨⟨path, name⟩, rest⟩, -, h⟩ := Option.bind_eq_some_iff.mp h
      obtain ⟨opened, hopened, h⟩ := Option.bind_eq_some_iff.mp h
      obtain ⟨rest, -, h⟩ := Option.bind_eq_some_iff.mp h
      exact ih h (keepsDistinct_openTable? _ _ _ _ hopened hentries)
    · obtain ⟨⟨⟨⟨path, name⟩, x⟩, rest⟩, -, h⟩ := Option.bind_eq_some_iff.mp h
      obtain ⟨defined, hdefined, h⟩ := Option.bind_eq_some_iff.mp h
      obtain ⟨rest, -, h⟩ := Option.bind_eq_some_iff.mp h
      have hkeeps := fun origin => keepsDistinct_define? path name x origin
      exact ih h (keepsDistinct_updateAt? hkeeps _ _ _ _ hdefined hentries)

theorem distinct_of_ofText? {extended : Bool} {text : String} {entries : Entries}
    (h : ofText? extended text = some entries) : Distinct entries :=
  distinct_of_document? _ h List.nodup_nil

end Toml

theorem PatternPolicy.ofText?_eq_some_iff {s : String} {policy : PatternPolicy} :
    ofText? s = some policy ↔ s = policy.text := by
  constructor
  · intro h
    unfold ofText? at h
    split at h <;> cases h <;> rfl
  · rintro rfl
    cases policy <;> rfl

namespace Command

/-! ### Keys -/

/-- The keys of a configuration. -/
inductive Key where
  | logLevel
  | strict
  | invalidPattern

namespace Key

def name : Key → String
  | logLevel => "log_level"
  | strict => "strict"
  | invalidPattern => "invalid_pattern"

/-- What a key is set to where no layer sets it. -/
def byDefault : Key → Setting
  | logLevel => .text "warn"
  | strict => .flag false
  | invalidPattern => .text "propagate"

/-- The setting has the type of the key, and its spelling is one that the key knows. -/
def Suits : Key → Setting → Prop
  | logLevel, s => ∃ level, s = .text level
  | strict, s => ∃ b, s = .flag b
  | invalidPattern, s => s = .text "propagate" ∨ s = .text "message"

theorem suits_byDefault : ∀ k : Key, k.Suits k.byDefault
  | logLevel => ⟨"warn", rfl⟩
  | strict => ⟨false, rfl⟩
  | invalidPattern => .inl rfl

end Key

/-- What a configuration sets a key to. -/
def Configuration.setting (c : Configuration) : Key → Setting
  | .logLevel => .text c.logLevel
  | .strict => .flag c.settings.strict
  | .invalidPattern => .text c.settings.invalidPattern.text

namespace Configuration

theorem suits_setting (c : Configuration) : ∀ k : Key, k.Suits (c.setting k)
  | .logLevel => ⟨c.logLevel, rfl⟩
  | .strict => ⟨c.settings.strict, rfl⟩
  | .invalidPattern => by
    rw [setting]
    cases c.settings.invalidPattern with
    | propagate => exact .inl rfl
    | message => exact .inr rfl

/-- Suitable settings of all keys make a configuration. -/
theorem exists_setting {chosen : Key → Setting} (h : ∀ k : Key, k.Suits (chosen k)) :
    ∃ c : Configuration, ∀ k, c.setting k = chosen k := by
  obtain ⟨level, hlevel⟩ := h .logLevel
  obtain ⟨strict, hstrict⟩ := h .strict
  obtain ⟨policy, hpolicy⟩ : ∃ policy : PatternPolicy,
      chosen .invalidPattern = .text policy.text := by
    rcases h .invalidPattern with hp | hp
    · exact ⟨.propagate, hp⟩
    · exact ⟨.message, hp⟩
  refine ⟨⟨level, strict, policy⟩, fun k => ?_⟩
  cases k with
  | logLevel => exact hlevel.symm
  | strict => exact hstrict.symm
  | invalidPattern => exact hpolicy.symm

/-! ### Choosing settings -/

/-- A key has the value that is written as its setting, or its default. -/
theorem option?_eq_some_iff {α : Type} {read : Setting → Option α} {write : α → Setting}
    (h : ∀ s a, read s = some a ↔ s = write a) (default_ a : α) (s : Option Setting) :
    option? read default_ s = some a ↔ write a = s.getD (write default_) := by
  have hwrite : ∀ b, read (write b) = some b := fun b => (h _ b).mpr rfl
  cases s with
  | none =>
    constructor
    · rintro ⟨⟩
      rfl
    · intro heq
      have hread : some a = some default_ := by rw [← hwrite a, heq]; exact hwrite default_
      exact hread.symm
  | some s => exact (h s a).trans eq_comm

theorem ofLayers?_eq_some_iff {layers : List Layer} {c : Configuration} :
    ofLayers? layers = some c ↔
      ∀ k : Key, c.setting k = (Layer.setting? layers k.name).getD k.byDefault := by
  have htext : ∀ s level, text? s = some level ↔ s = .text level := by
    rintro (b | s | _) level <;> simp [text?]
  have hflag : ∀ s b, flag? s = some b ↔ s = .flag b := by
    rintro (b | s | _) b' <;> simp [flag?]
  have hpolicy : ∀ s (policy : PatternPolicy),
      (text? s).bind PatternPolicy.ofText? = some policy ↔ s = .text policy.text := by
    rintro (b | s | _) policy <;> simp [text?, PatternPolicy.ofText?_eq_some_iff]
  have hkeys : (∀ k : Key, c.setting k = (Layer.setting? layers k.name).getD k.byDefault) ↔
      option? text? "warn" (Layer.setting? layers "log_level") = some c.logLevel ∧
      option? flag? false (Layer.setting? layers "strict") = some c.settings.strict ∧
      option? (fun s => (text? s).bind PatternPolicy.ofText?) .propagate
        (Layer.setting? layers "invalid_pattern") = some c.settings.invalidPattern := by
    rw [option?_eq_some_iff htext, option?_eq_some_iff hflag, option?_eq_some_iff hpolicy]
    constructor
    · exact fun h => ⟨h .logLevel, h .strict, h .invalidPattern⟩
    · rintro ⟨hlevel, hstrict, hinvalid⟩ (_ | _ | _)
      · exact hlevel
      · exact hstrict
      · exact hinvalid
  rw [hkeys, ofLayers?]
  simp only [Option.bind_eq_bind, Option.bind_eq_some_iff, Option.some.injEq]
  constructor
  · rintro ⟨level, hlevel, strict, hstrict, policy, hpolicy, rfl⟩
    exact ⟨hlevel, hstrict, hpolicy⟩
  · rintro ⟨hlevel, hstrict, hpolicy⟩
    exact ⟨_, hlevel, _, hstrict, _, hpolicy, rfl⟩

end Configuration

/-! ### Layers -/

namespace Key

/-- What the options of the command line set a key to. -/
def ofOptions? (i : Invocation) : Key → Option Setting
  | logLevel => i.logLevel.map .text
  | strict => if i.action.isStrict then some (.flag true) else none
  | invalidPattern => none

/-- What the environment sets a key to; of several variables for one key the last counts. -/
def ofVariables? (environment : List (String × String)) (k : Key) : Option Setting :=
  Table.lastOf k.name (environment.filterMap fun v => Layer.optionOf? v.1 v.2)

/-- What the entries of a file set a key to. -/
def ofEntries? (entries : Toml.Entries) (k : Key) : Option Setting :=
  (Table.lookup k.name entries).map Setting.ofToml

end Key

namespace Layer

theorem find?_ofOptions (i : Invocation) (k : Key) :
    (ofOptions i.logLevel i.action.isStrict).find? k.name = k.ofOptions? i := by
  cases k <;> cases hlevel : i.logLevel <;> cases hstrict : i.action.isStrict <;>
    simp [ofOptions, Key.ofOptions?, hlevel, hstrict, Key.name, Table.find?_ofList,
      Table.lastOf]

theorem find?_ofToml {entries : Toml.Entries} (h : Toml.Distinct entries) (k : Key) :
    (ofToml entries).find? k.name = k.ofEntries? entries := by
  have hnodup : ((entries.map fun e => (e.1, Setting.ofToml e.2)).map Prod.fst).Nodup := by
    rw [List.map_map]
    exact h
  rw [ofToml, Table.find?, Table.entries_ofList_of_nodup hnodup, Table.lookup_map, Key.ofEntries?]

theorem setting?_eq {entries : Toml.Entries} (h : Toml.Distinct entries)
    (environment : List (String × String)) (i : Invocation) (k : Key) :
    setting? [ofToml entries, ofVariables environment, ofOptions i.logLevel i.action.isStrict]
      k.name = (k.ofOptions? i <|> k.ofVariables? environment <|> k.ofEntries? entries) := by
  have hvariables : (ofVariables environment).find? k.name = k.ofVariables? environment :=
    Table.find?_ofList _ _
  rw [setting?, ← find?_ofOptions, ← hvariables, ← find?_ofToml h]
  simp only [List.reverse_cons, List.reverse_nil, List.nil_append, List.cons_append,
    List.findSome?_cons, List.findSome?_nil]
  cases (ofOptions i.logLevel i.action.isStrict).find? k.name <;>
    cases (ofVariables environment).find? k.name <;>
      cases (ofToml entries).find? k.name <;> rfl

end Layer

/-! ### Loading -/

section Loading

variable {around : Surroundings} {i : Invocation} {entries : Toml.Entries}

/-- What the highest layer says that sets a key. -/
def Key.highest? (around : Surroundings) (i : Invocation) (entries : Toml.Entries) (k : Key) :
    Option Setting :=
  k.ofOptions? i <|> k.ofVariables? around.environment <|> k.ofEntries? entries

theorem ConfiguredBy.distinct {files : Files} {config : Option String}
    (h : ConfiguredBy files config entries) : Toml.Distinct entries := by
  cases h with
  | written _ _ htext => exact Toml.distinct_of_ofText? htext
  | absent _ _ => exact List.nodup_nil

theorem loadConfiguration_eq_ok_iff (hfile : ConfiguredBy around.files i.config entries)
    {c : Configuration} : loadConfiguration around i = .ok c ↔
      ∀ k : Key, c.setting k = (k.highest? around i entries).getD k.byDefault := by
  have hlayer := fileLayer_eq_ok_iff.mpr ⟨entries, hfile, rfl⟩
  have hkeys : (∀ k : Key, c.setting k = (k.highest? around i entries).getD k.byDefault) ↔
      Configuration.ofLayers? [.ofToml entries, .ofVariables around.environment,
        .ofOptions i.logLevel i.action.isStrict] = some c := by
    rw [Configuration.ofLayers?_eq_some_iff]
    simp only [Layer.setting?_eq hfile.distinct, Key.highest?]
  rw [hkeys, loadConfiguration, hlayer]
  dsimp only [bind, Except.bind]
  split <;> simp [*]

theorem exists_loadConfiguration_iff (hfile : ConfiguredBy around.files i.config entries) :
    (∃ c, loadConfiguration around i = .ok c) ↔
      ∀ (k : Key) s, k.highest? around i entries = some s → k.Suits s := by
  simp only [loadConfiguration_eq_ok_iff hfile]
  constructor
  · rintro ⟨c, hc⟩ k s hs
    have hsuits := c.suits_setting k
    rwa [hc, hs] at hsuits
  · intro h
    refine Configuration.exists_setting fun k => ?_
    cases hs : k.highest? around i entries with
    | none => exact k.suits_byDefault
    | some s => exact h k s hs

theorem exists_configuredBy {c : Configuration} (h : loadConfiguration around i = .ok c) :
    ∃ entries, ConfiguredBy around.files i.config entries := by
  obtain ⟨layer, hlayer, -⟩ := exists_of_bind_eq_ok h
  obtain ⟨entries, hfile, -⟩ := fileLayer_eq_ok_iff.mp hlayer
  exact ⟨entries, hfile⟩

/-- A file that is named and missing, a file that does not hold TOML text, and an unsuitable setting
in the highest layer of a key are all that keeps a configuration from being loaded. -/
theorem exists_loadConfiguration_eq_error_iff :
    (∃ f, loadConfiguration around i = .error f) ↔
      (∃ path, i.config = some path ∧ around.files.isFile path = false) ∨
      (∃ path, ConfiguredAt around.files i.config path ∧
        ∀ text, around.files.read path = .ok text → Toml.ofText? false text = none) ∨
      ∃ entries, ConfiguredBy around.files i.config entries ∧
        ∃ (k : Key) (s : Setting), k.highest? around i entries = some s ∧ ¬ k.Suits s := by
  rw [← or_assoc, ← fileLayer_eq_error_iff]
  constructor
  · rintro ⟨f, hf⟩
    cases hlayer : fileLayer around.files i.config with
    | error f => exact .inl ⟨f, rfl⟩
    | ok layer =>
      obtain ⟨entries, hfile, -⟩ := fileLayer_eq_ok_iff.mp hlayer
      refine .inr ⟨entries, hfile, ?_⟩
      by_contra hsuits
      obtain ⟨c, hc⟩ := (exists_loadConfiguration_iff hfile).mpr fun k s hs =>
        by_contra fun h => hsuits ⟨k, s, hs, h⟩
      cases hf.symm.trans hc
  · rintro (⟨f, hf⟩ | ⟨entries, hfile, k, s, hs, hsuits⟩)
    · rw [loadConfiguration, hf]
      exact ⟨f, rfl⟩
    · cases hload : loadConfiguration around i with
      | error f => exact ⟨f, rfl⟩
      | ok c => exact absurd ((exists_loadConfiguration_iff hfile).mp ⟨c, hload⟩ k s hs) hsuits

/-- The strict switch changes the one key that it sets, and makes no configuration fail. -/
theorem loadConfiguration_of_isStrict {c : Configuration} {i' : Invocation}
    (h : loadConfiguration around i = .ok c) (hconfig : i'.config = i.config)
    (hlevel : i'.logLevel = i.logLevel) (hstrict : i'.action.isStrict = true) :
    loadConfiguration around i' = .ok ⟨c.logLevel, true, c.settings.invalidPattern⟩ := by
  obtain ⟨entries, hfile⟩ := exists_configuredBy h
  have hchosen := (loadConfiguration_eq_ok_iff hfile).mp h
  refine (loadConfiguration_eq_ok_iff (hconfig ▸ hfile)).mpr fun k => ?_
  cases k with
  | logLevel =>
    refine (hchosen .logLevel).trans ?_
    rw [Key.highest?, Key.highest?, Key.ofOptions?, Key.ofOptions?, hlevel]
  | strict =>
    rw [Key.highest?, Key.ofOptions?, if_pos hstrict]
    rfl
  | invalidPattern => exact hchosen .invalidPattern

/-- A check with a configuration evaluates with its settings. -/
theorem invoke_check {c : Configuration} {options : CheckOptions}
    (h : loadConfiguration around i = .ok c) (hfilter : readLogFilter around c = .ok ())
    (hcheck : i.action = .check options) : invoke around i =
      match options.field with
      | some field => (checkField around.files c.settings options.sources field).map fun message =>
          .checked message.isNone (fieldValue field message)
      | none => (checkAll around.files c.settings options.sources).map fun verdict =>
          .checked verdict.valid verdict.toValue := by
  have hinvoke : invoke around i = act around.files c (.check options) := by
    rw [invoke, h, hcheck]
    simp only [bind, Except.bind, hfilter]
  rw [hinvoke, act]
  cases options.field with
  | some field => exact bind_pure_comp _ _
  | none => exact bind_pure_comp _ _

end Loading

/-- A configuration from a file, the environment and the command line. Each key has the setting of
the highest layer that sets it, or its default, whatever else the layers hold; so two configurations
have the same setting for a key that their layers agree on. Loading fails when a file that is named
is missing, when the file does not hold TOML text, and when that setting of some key is unsuitable,
and for no other reason. The strict switch sets its key and no other. A check evaluates with exactly
the settings of its configuration. -/
theorem configuration_takes_highest_layers (around : Surroundings) (i : Invocation) :
    (∀ entries, ConfiguredBy around.files i.config entries → ∀ c,
      loadConfiguration around i = .ok c ↔ ∀ k : Key, c.setting k =
        (k.ofOptions? i <|> k.ofVariables? around.environment <|>
          k.ofEntries? entries).getD k.byDefault) ∧
    ((∃ f, loadConfiguration around i = .error f) ↔
      (∃ path, i.config = some path ∧ around.files.isFile path = false) ∨
      (∃ path, ConfiguredAt around.files i.config path ∧
        ∀ text, around.files.read path = .ok text → Toml.ofText? false text = none) ∨
      ∃ entries, ConfiguredBy around.files i.config entries ∧ ∃ (k : Key) (s : Setting),
        (k.ofOptions? i <|> k.ofVariables? around.environment <|> k.ofEntries? entries) = some s ∧
          ¬ k.Suits s) ∧
    (∀ around' i' entries entries' c c' (k : Key), ConfiguredBy around.files i.config entries →
      ConfiguredBy around'.files i'.config entries' → loadConfiguration around i = .ok c →
      loadConfiguration around' i' = .ok c' → k.ofOptions? i = k.ofOptions? i' →
      k.ofVariables? around.environment = k.ofVariables? around'.environment →
      k.ofEntries? entries = k.ofEntries? entries' → c.setting k = c'.setting k) ∧
    (∀ c, loadConfiguration around i = .ok c →
      (i.action.isStrict = true → c.settings.strict = true) ∧
      ∀ i', i'.config = i.config → i'.logLevel = i.logLevel → i'.action.isStrict = true →
        loadConfiguration around i' = .ok ⟨c.logLevel, true, c.settings.invalidPattern⟩) ∧
    ∀ c options, loadConfiguration around i = .ok c → readLogFilter around c = .ok () →
      i.action = .check options → invoke around i =
        let settings : Settings := ⟨c.settings.strict, c.settings.invalidPattern⟩
        match options.field with
        | some field => (checkField around.files settings options.sources field).map fun message =>
            .checked message.isNone (fieldValue field message)
        | none => (checkAll around.files settings options.sources).map fun verdict =>
            .checked verdict.valid verdict.toValue := by
  refine ⟨fun entries hfile c => loadConfiguration_eq_ok_iff hfile,
    exists_loadConfiguration_eq_error_iff, ?_, fun c hc => ⟨fun hstrict => ?_, ?_⟩,
    fun c options hc hfilter hcheck => invoke_check hc hfilter hcheck⟩
  · intro around' i' entries entries' c c' k hfile hfile' hc hc' hoption hvariable hentry
    rw [(loadConfiguration_eq_ok_iff hfile).mp hc k, (loadConfiguration_eq_ok_iff hfile').mp hc' k,
      Key.highest?, Key.highest?, hoption, hvariable, hentry]
  · have hsame := hc.symm.trans (loadConfiguration_of_isStrict hc rfl rfl hstrict)
    exact congrArg (·.settings.strict) (Except.ok.inj hsame)
  · exact fun i' hconfig hlevel hstrict => loadConfiguration_of_isStrict hc hconfig hlevel hstrict

/-- The nearest file is in the folder above. Its setting that is no flag does no harm under
`--strict`, and keeps a configuration from being loaded without it; a variable wins over the file,
and an unknown key does nothing. A file that is named by an absolute path is read in place of the
other, and one whose bytes are no text keeps a configuration from being loaded too. -/
theorem configuration_takes_highest_layers_of_check :
    let text := "strict = 5\ninvalid_pattern = \"message\"\nother = 1\n"
    let files : Files := .ofList [("../rulebook.toml", text), ("lax.toml", "strict = false\n")]
    let around : Surroundings := ⟨files, [("RULEBOOK_INVALID_PATTERN", "propagate")]⟩
    let garbled : Surroundings := ⟨⟨fun _ => ⟨true, .error .notText⟩, some ["work"]⟩, []⟩
    let entries : Toml.Entries :=
      [("strict", .scalar "5"), ("invalid_pattern", .text "message"), ("other", .scalar "1")]
    let lax : Invocation := ⟨none, none, .check ⟨"r.json", "s.json", none, none, false⟩⟩
    let strict : Invocation := ⟨none, none, .check ⟨"r.json", "s.json", none, none, true⟩⟩
    let named : Invocation := ⟨some "/work/lax.toml", none, lax.action⟩
    ConfiguredAt files none "/rulebook.toml" ∧ ConfiguredBy files none entries ∧
      Key.ofEntries? entries .strict = some .other ∧
      (∃ f, loadConfiguration around lax = .error f) ∧
      loadConfiguration around strict = .ok ⟨"warn", true, .propagate⟩ ∧
      ConfiguredBy files named.config [("strict", .boolean false)] ∧
      loadConfiguration around named = .ok ⟨"warn", false, .propagate⟩ ∧
      ∃ f, loadConfiguration garbled lax = .error f := by
  intro text files around garbled entries lax strict named
  have hat : ConfiguredAt files none "/rulebook.toml" := .nearest rfl (by decide +kernel)
  have hread : files.read "/rulebook.toml" = .ok text := eq_ok_of_toOption (by decide +kernel)
  have htext : Toml.ofText? false text = some entries := by
    unfold text entries
    rfl
  have hfile : ConfiguredBy files none entries := .written hat hread htext
  have hread' : files.read "/work/lax.toml" = .ok "strict = false\n" :=
    eq_ok_of_toOption (by decide +kernel)
  have hfile' : ConfiguredBy files named.config [("strict", .boolean false)] :=
    .written (.named rfl (by decide +kernel)) hread' rfl
  have hgarbled : ConfiguredAt garbled.files lax.config "/work/rulebook.toml" :=
    .nearest rfl (by decide +kernel)
  obtain ⟨-, hfails, -⟩ := configuration_takes_highest_layers around lax
  obtain ⟨hloads, -⟩ := configuration_takes_highest_layers around strict
  obtain ⟨hloads', -⟩ := configuration_takes_highest_layers around named
  obtain ⟨-, hfails', -⟩ := configuration_takes_highest_layers garbled lax
  refine ⟨hat, hfile, by decide +kernel,
    hfails.mpr (.inr (.inr ⟨entries, hfile, .strict, .other, ?_⟩)),
    (hloads entries hfile _).mpr fun k => ?_, hfile', (hloads' _ hfile' _).mpr fun k => ?_,
    hfails'.mpr (.inr (.inl ⟨_, hgarbled, nofun⟩))⟩
  · exact ⟨by decide +kernel, fun ⟨_, h⟩ => nomatch h⟩
  · cases k <;> decide +kernel
  · cases k <;> decide +kernel

end Command

end FieldRules
