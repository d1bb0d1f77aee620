import FieldRules.Proofs.ConfigurationFiles
import FieldRules.Proofs.Evaluation
import FieldRules.Proofs.JsonText
import FieldRules.Proofs.LogFilters
import FieldRules.Proofs.SingleField
/-!
How checks end. `Obstacle` says what stands in the way of a check, of all that it is given. A check
with an obstacle prints nothing at all; any other prints one document, and its status says whether
the document holds a message (`check_all_or_nothing`). This is said of log filters that can be cut
into their parts (`HasWholeFilter`), as all plain ones can (`hasWholeFilter_of_isPlain`).
-/

namespace FieldRules

/-- The document of one field: its name, and its message or `null`. -/
def Json.ofField (field : String) (message : Option String) : Json :=
  .object [(some "field", .string (some field)), (some "message", ofMessage message)]

theorem Json.writes_field (field : String) (message : Option String) :
    Writes (ofField field message) (Command.fieldValue field message).pretty.toList :=
  writes_prettyAt_object spaces_empty
    (.cons ⟨rfl, .string field⟩ (.cons ⟨rfl, writes_valueOf _ message⟩ .nil))

namespace Command

/-- What a check prints is read back as the one document that it stands for. -/
theorem Outcome.ofText?_output_checked {x : Json} {v : Value} (h : Json.Writes x v.pretty.toList)
    (passes : Bool) : Json.ofText? (checked passes v).output = some x := by
  refine Json.ofText?_of_writes h Json.spaces_nil Json.spaces_newline ?_
  rw [checked, printed, String.toList_append]
  rfl

theorem Outcome.status_checked_or (passes : Bool) (v : Value) :
    (checked passes v).status = 0 ∨ (checked passes v).status = 1 := by
  cases passes with
  | true => exact .inl rfl
  | false => exact .inr rfl

/-! ### Obstacles -/

/-- What keeps a configuration from being loaded. -/
inductive Misconfigured (around : Surroundings) (i : Invocation) : Prop
  /-- There is no file at the path that is named. -/
  | missing {path : String} : i.config = some path → around.files.isFile path = false →
    Misconfigured around i
  /-- The file at that path, or else the nearest one of the default name, cannot be read. -/
  | unreadable {path : String} {fault : ReadFault} : ConfiguredAt around.files i.config path →
    around.files.read path = .error fault → Misconfigured around i
  /-- That file is not written in TOML. -/
  | notToml {path text : String} : ConfiguredAt around.files i.config path →
    around.files.read path = .ok text → Toml.ofText? false text = none → Misconfigured around i
  /-- The highest layer that sets an option gives it an unsuitable value. -/
  | unsuitable {file : Layer} : fileLayer around.files i.config = .ok file →
    Configuration.ofLayers? [file, .ofVariables around.environment,
      .ofOptions i.logLevel i.action.isStrict] = none → Misconfigured around i

/-- The log filter of a run can be cut into its parts, so the run is not broken off there. -/
def HasWholeFilter (around : Surroundings) (i : Invocation) : Prop :=
  ∀ c, loadConfiguration around i = .ok c → readLogFilter around c ≠ .error .broken

/-- The rules that a text holds, in the language that the path of its file names. -/
def sheetOf? (path text : String) : Option Sheet :=
  if isTomlPath path then Sheet.ofTomlText? text else Sheet.ofText? text

/-- What stands in the way of a check. Each obstacle is enough, whatever else the check is given. -/
inductive Obstacle (around : Surroundings) (i : Invocation) (options : CheckOptions) : Prop
  | configuration : Misconfigured around i → Obstacle around i options
  | logFilter {c : Configuration} : loadConfiguration around i = .ok c →
    (∀ s, around.environment.lookup filterVariable = some s →
      LogFilter.read s = .error .invalid) →
    LogFilter.read c.logLevel = .error .invalid → Obstacle around i options
  | unreadable {path : String} {fault : ReadFault} :
    path ∈ options.record :: options.rules :: options.remote.toList →
    around.files.read path = .error fault → Obstacle around i options
  | notJson {path text : String} : path ∈ options.record :: options.remote.toList →
    around.files.read path = .ok text → Value.ofText? text = none → Obstacle around i options
  | notObject {text : String} {v : Value} : around.files.read options.record = .ok text →
    Value.ofText? text = some v → (∀ members, v ≠ .object members) → Obstacle around i options
  | notRules {text : String} : around.files.read options.rules = .ok text →
    sheetOf? options.rules text = none → Obstacle around i options
  /-- Rules of the field that is checked, or of any field in a check of the record. -/
  | unbuildable {c : Configuration} {text field : String} {sheet : Sheet} {spec : FieldSpec}
    {e : SpecError} : loadConfiguration around i = .ok c →
    around.files.read options.rules = .ok text → sheetOf? options.rules text = some sheet →
    (field, spec) ∈ sheet.entries → (∀ name, options.field = some name → name = field) →
    ((engineOf c.settings).build field spec).result = .error e → Obstacle around i options

/-! ### Reading what is given -/

variable {around : Surroundings} {i : Invocation} {options : CheckOptions}

theorem loadConfiguration_eq_error_iff :
    (∃ f, loadConfiguration around i = .error f) ↔ Misconfigured around i := by
  cases hfile : fileLayer around.files i.config with
  | error f =>
    have herror : ∃ f, loadConfiguration around i = .error f := by
      rw [loadConfiguration, hfile]
      exact ⟨f, rfl⟩
    refine iff_of_true herror ?_
    rcases fileLayer_eq_error_iff.mp ⟨f, hfile⟩ with ⟨path, hpath, hnone⟩ | ⟨path, hat, htoml⟩
    · exact .missing hpath hnone
    · cases hread : around.files.read path with
      | error fault => exact .unreadable hat hread
      | ok text => exact .notToml hat hread (htoml text hread)
  | ok file =>
    have hok : ¬ ∃ f, fileLayer around.files i.config = .error f := by simp [hfile]
    rw [fileLayer_eq_error_iff] at hok
    cases hlayers : Configuration.ofLayers? [file, .ofVariables around.environment,
        .ofOptions i.logLevel i.action.isStrict] with
    | none =>
      refine iff_of_true ⟨.badConfiguration, ?_⟩ (.unsuitable hfile hlayers)
      simp [loadConfiguration, hfile, hlayers, bind, Except.bind]
    | some c =>
      refine iff_of_false ?_ ?_
      · simp [loadConfiguration, hfile, hlayers, bind, Except.bind]
      · rintro (⟨hpath, hnone⟩ | ⟨hat, hread⟩ | ⟨hat, hread, htext⟩ | ⟨hfile', hlayers'⟩)
        · exact hok (.inl ⟨_, hpath, hnone⟩)
        · exact hok (.inr ⟨_, hat, fun text htext => nomatch hread.symm.trans htext⟩)
        · refine hok (.inr ⟨_, hat, fun text' hread' => ?_⟩)
          cases hread.symm.trans hread'
          exact htext
        · cases hfile.symm.trans hfile'
          cases hlayers.symm.trans hlayers'

theorem readLogFilter_eq_invalid_iff {c : Configuration} :
    readLogFilter around c = .error .invalid ↔
      (∀ s, around.environment.lookup filterVariable = some s →
        LogFilter.read s = .error .invalid) ∧ LogFilter.read c.logLevel = .error .invalid := by
  rw [readLogFilter]
  cases around.environment.lookup filterVariable with
  | none => simp
  | some s => rcases h : LogFilter.read s with (_ | _) | _ <;> simp [h]

/-- The log filter of a run can be cut into its parts if the variable and the configuration give
plain ones. -/
theorem hasWholeFilter_of_isPlain
    (hvariable : ∀ s, around.environment.lookup filterVariable = some s → LogFilter.IsPlain s)
    (hlevel : ∀ c, loadConfiguration around i = .ok c → LogFilter.IsPlain c.logLevel) :
    HasWholeFilter around i := by
  intro c hc
  have hwarn := (hlevel c hc).read_ne_broken
  rw [readLogFilter]
  cases h : around.environment.lookup filterVariable with
  | none => exact hwarn
  | some s =>
    have hs := (hvariable s h).read_ne_broken
    rw [Option.map_some]
    rcases hread : LogFilter.read s with (_ | _) | _
    · exact hwarn
    · exact absurd hread hs
    · nofun

variable {files : Files} {path : String}

theorem readValue_eq_ok_iff {v : Value} : readValue files path = .ok v ↔
    ∃ text, files.read path = .ok text ∧ Value.ofText? text = some v := by
  simp only [readValue, readFile, bind_eq_ok_iff, mapError_eq_ok_iff]
  refine exists_congr fun text => and_congr_right fun _ => ?_
  cases Value.ofText? text <;> simp

theorem readRecord_eq_ok_iff {record : Record} : readRecord files path = .ok record ↔
    ∃ members, readValue files path = .ok (.object members) ∧ record = Table.ofList members := by
  rw [readRecord]
  cases readValue files path with
  | error f => simp [bind, Except.bind]
  | ok v => cases v <;> simp [bind, Except.bind, Record.ofValue?, eq_comm]

theorem readSheet_eq_ok_iff {sheet : Sheet} : readSheet files path = .ok sheet ↔
    ∃ text, files.read path = .ok text ∧ sheetOf? path text = some sheet := by
  simp only [readSheet, readFile, bind_eq_ok_iff, mapError_eq_ok_iff, sheetOf?]
  refine exists_congr fun text => and_congr_right fun _ => ?_
  split
  · cases Sheet.ofTomlText? text <;> simp
  · cases Sheet.ofText? text <;> simp

theorem exists_readRemoteOf_iff {remote : Option String} :
    (∃ errors, readRemoteOf files remote = .ok errors) ↔
      ∀ path ∈ remote, ∃ v, readValue files path = .ok v := by
  cases remote with
  | none => simp [readRemoteOf]
  | some path =>
    cases h : readValue files path <;>
      simp [readRemoteOf, readRemote, h, bind, Except.bind, pure, Except.pure]

/-! ### Evaluation -/

/-- A field of a sheet can be evaluated when its specification, if it has one, can be built. -/
theorem exists_evaluateField_iff {e : Engine} {field : String} {v : Value} {r : Record}
    {specs : Sheet} :
    (∃ message, (e.evaluateField field v r (specs.find? field)).result = .ok message) ↔
      ∀ entry ∈ specs.entries, field = entry.1 →
        ∃ built, (e.build entry.1 entry.2).result = .ok built := by
  constructor
  · rintro ⟨message, h⟩ ⟨_, spec⟩ hentry rfl
    rw [Table.find?_eq_some_iff.mpr hentry, Engine.result_evaluateField] at h
    cases hbuild : (e.build field spec).result with
    | error err =>
      rw [hbuild] at h
      cases h
    | ok built => exact ⟨built, rfl⟩
  · intro h
    cases hspec : specs.find? field with
    | none => exact ⟨none, rfl⟩
    | some spec =>
      obtain ⟨built, hbuilt⟩ := h (field, spec) (Table.find?_eq_some_iff.mp hspec) rfl
      exact ⟨built.evaluate v r, by rw [Engine.result_evaluateField, hbuilt, Except.map]⟩

theorem exists_evaluateAll_iff {e : Engine} {r : Record} {specs : Sheet} :
    (∃ v, (e.evaluateAll r specs).result = .ok v) ↔
      ∀ entry ∈ specs.entries, ∃ built, (e.build entry.1 entry.2).result = .ok built := by
  refine ⟨fun ⟨v, hv⟩ entry hentry => ?_, Engine.exists_evaluateAll r⟩
  have hfind := Table.find?_eq_some_iff.mpr hentry
  obtain ⟨built, hbuilt, -⟩ := (Engine.upToDate_of_evaluateAll hv).find_eq hfind
  exact ⟨built, hbuilt⟩

/-! ### Preparation -/

/-- What a check needs: a configuration and a log filter, a record, rules that can be built as far
as they are evaluated, and a remote file if one is named. -/
structure Prepared (around : Surroundings) (i : Invocation) (options : CheckOptions)
    (c : Configuration) (sheet : Sheet) : Prop where
  configuration : loadConfiguration around i = .ok c
  logFilter : readLogFilter around c = .ok ()
  record : ∃ record, readRecord around.files options.record = .ok record
  rules : readSheet around.files options.rules = .ok sheet
  builds : ∀ entry ∈ sheet.entries, (∀ name, options.field = some name → name = entry.1) →
    ∃ built, ((engineOf c.settings).build entry.1 entry.2).result = .ok built
  remote : ∀ path ∈ options.remote, ∃ v, readValue around.files path = .ok v

theorem exists_act_iff {c : Configuration} : (∃ o, act files c (.check options) = .ok o) ↔
    (∃ record, readRecord files options.record = .ok record) ∧
    ∃ sheet, readSheet files options.rules = .ok sheet ∧
      (∀ entry ∈ sheet.entries, (∀ name, options.field = some name → name = entry.1) →
        ∃ built, ((engineOf c.settings).build entry.1 entry.2).result = .ok built) ∧
      ∀ path ∈ options.remote, ∃ v, readValue files path = .ok v := by
  obtain ⟨record, rules, field, remote, strict⟩ := options
  cases field with
  | none =>
    simp only [act, checkAll, exists_bind_eq_ok_iff, mapError_eq_ok_iff, exists_pure_eq_ok,
      and_true, exists_readRemoteOf_iff, exists_and_right, exists_evaluateAll_iff, reduceCtorEq,
      false_implies, implies_true, true_implies]
  | some field =>
    simp only [act, checkField, exists_bind_eq_ok_iff, mapError_eq_ok_iff, exists_pure_eq_ok,
      and_true, exists_readRemoteOf_iff, exists_and_right, exists_evaluateField_iff,
      Option.some.injEq, forall_eq']

theorem invoke_eq_ok_iff (hfilter : HasWholeFilter around i) {o : Outcome} :
    invoke around i = .ok o ↔ ∃ c, loadConfiguration around i = .ok c ∧
      readLogFilter around c = .ok () ∧ act around.files c i.action = .ok o := by
  rw [invoke, bind_eq_ok_iff]
  refine exists_congr fun c => and_congr_right fun hc => ?_
  rcases h : readLogFilter around c with (_ | _) | _
  · simp
  · exact absurd h (hfilter c hc)
  · simp

theorem exists_invoke_iff (hcheck : i.action = .check options) (hfilter : HasWholeFilter around i) :
    (∃ o, invoke around i = .ok o) ↔ ∃ c sheet, Prepared around i options c sheet := by
  simp only [invoke_eq_ok_iff hfilter, hcheck]
  constructor
  · rintro ⟨o, c, hc, hread, hact⟩
    obtain ⟨hrecord, sheet, hsheet, hbuilds, hremote⟩ := exists_act_iff.mp ⟨o, hact⟩
    exact ⟨c, sheet, hc, hread, hrecord, hsheet, hbuilds, hremote⟩
  · rintro ⟨c, sheet, hc, hread, hrecord, hsheet, hbuilds, hremote⟩
    obtain ⟨o, hact⟩ := exists_act_iff.mpr ⟨hrecord, sheet, hsheet, hbuilds, hremote⟩
    exact ⟨o, c, hc, hread, hact⟩

section Clear

variable (h : ¬ Obstacle around i options)
include h

theorem exists_text_of_clear
    (hpath : path ∈ options.record :: options.rules :: options.remote.toList) :
    ∃ text, around.files.read path = .ok text := by
  cases hfile : around.files.read path with
  | error fault => exact absurd (.unreadable hpath hfile) h
  | ok text => exact ⟨text, rfl⟩

theorem exists_value_of_clear (hpath : path ∈ options.record :: options.remote.toList) :
    ∃ v, readValue around.files path = .ok v := by
  obtain ⟨text, hfile⟩ := exists_text_of_clear h
    (List.mem_cons.mpr ((List.mem_cons.mp hpath).imp_right (List.mem_cons_of_mem _)))
  cases htext : Value.ofText? text with
  | none => exact absurd (.notJson hpath hfile htext) h
  | some v => exact ⟨v, readValue_eq_ok_iff.mpr ⟨text, hfile, htext⟩⟩

theorem exists_record_of_clear : ∃ record, readRecord around.files options.record = .ok record := by
  obtain ⟨v, hv⟩ := exists_value_of_clear h List.mem_cons_self
  obtain ⟨text, hfile, htext⟩ := readValue_eq_ok_iff.mp hv
  by_cases hobject : ∃ members, v = .object members
  · obtain ⟨members, rfl⟩ := hobject
    exact ⟨_, readRecord_eq_ok_iff.mpr ⟨members, hv, rfl⟩⟩
  · exact absurd (.notObject hfile htext (not_exists.mp hobject)) h

theorem exists_rules_of_clear : ∃ text sheet, around.files.read options.rules = .ok text ∧
    sheetOf? options.rules text = some sheet := by
  obtain ⟨text, hfile⟩ := exists_text_of_clear h (List.mem_cons_of_mem _ List.mem_cons_self)
  cases hsheet : sheetOf? options.rules text with
  | none => exact absurd (.notRules hfile hsheet) h
  | some sheet => exact ⟨text, sheet, hfile, hsheet⟩

theorem exists_configuration_of_clear (hfilter : HasWholeFilter around i) :
    ∃ c, loadConfiguration around i = .ok c ∧ readLogFilter around c = .ok () := by
  cases hc : loadConfiguration around i with
  | error f => exact absurd (.configuration (loadConfiguration_eq_error_iff.mp ⟨f, hc⟩)) h
  | ok c =>
    rcases hread : readLogFilter around c with (_ | _) | _
    · obtain ⟨hvariable, hlevel⟩ := readLogFilter_eq_invalid_iff.mp hread
      exact absurd (.logFilter hc hvariable hlevel) h
    · exact absurd hread (hfilter c hc)
    · exact ⟨c, rfl, hread⟩

/-- Without an obstacle everything that a check needs is there. -/
theorem exists_prepared (hwhole : HasWholeFilter around i) :
    ∃ c sheet, Prepared around i options c sheet := by
  obtain ⟨c, hc, hfilter⟩ := exists_configuration_of_clear h hwhole
  obtain ⟨text, sheet, hfile, hsheet⟩ := exists_rules_of_clear h
  refine ⟨c, sheet, hc, hfilter, exists_record_of_clear h,
    readSheet_eq_ok_iff.mpr ⟨text, hfile, hsheet⟩, ?_, ?_⟩
  · intro entry hentry hfield
    cases hbuild : ((engineOf c.settings).build entry.1 entry.2).result with
    | error e => exact absurd (.unbuildable hc hfile hsheet hentry hfield hbuild) h
    | ok built => exact ⟨built, rfl⟩
  · exact fun path hpath => exists_value_of_clear h (by simp [Option.mem_def.mp hpath])

end Clear

namespace Prepared

variable {c : Configuration} {sheet : Sheet} (h : Prepared around i options c sheet)
include h

theorem exists_value (hpath : path ∈ options.record :: options.remote.toList) :
    ∃ text v, around.files.read path = .ok text ∧ Value.ofText? text = some v := by
  rcases List.mem_cons.mp hpath with rfl | hpath
  · obtain ⟨record, hrecord⟩ := h.record
    obtain ⟨members, hobject, -⟩ := readRecord_eq_ok_iff.mp hrecord
    obtain ⟨text, hfile, htext⟩ := readValue_eq_ok_iff.mp hobject
    exact ⟨text, _, hfile, htext⟩
  · obtain ⟨v, hv⟩ := h.remote path (by simpa using hpath)
    obtain ⟨text, hfile, htext⟩ := readValue_eq_ok_iff.mp hv
    exact ⟨text, v, hfile, htext⟩

/-- Where everything is there that a check needs, there is no obstacle. -/
theorem not_obstacle : ¬ Obstacle around i options := by
  obtain ⟨text, hfile, htext⟩ := readSheet_eq_ok_iff.mp h.rules
  intro obstacle
  -- what an obstacle says of a file or of the configuration is not what has been read
  cases obstacle with
  | configuration hmis =>
    obtain ⟨f, hf⟩ := loadConfiguration_eq_error_iff.mpr hmis
    cases h.configuration.symm.trans hf
  | logFilter hc hvariable hlevel =>
    cases h.configuration.symm.trans hc
    cases h.logFilter.symm.trans (readLogFilter_eq_invalid_iff.mpr ⟨hvariable, hlevel⟩)
  | @unreadable path fault hpath hread =>
    by_cases hrules : path = options.rules
    · subst hrules
      cases hfile.symm.trans hread
    · have hother : path ∈ options.record :: options.remote.toList := by
        simpa [hrules] using hpath
      obtain ⟨text, v, hok, -⟩ := h.exists_value hother
      cases hok.symm.trans hread
  | notJson hpath hread hnone =>
    obtain ⟨text, v, hok, hv⟩ := h.exists_value hpath
    cases hok.symm.trans hread
    cases hv.symm.trans hnone
  | notObject hread hv hkind =>
    obtain ⟨record, hrecord⟩ := h.record
    obtain ⟨members, hobject, -⟩ := readRecord_eq_ok_iff.mp hrecord
    obtain ⟨text, hok, hv'⟩ := readValue_eq_ok_iff.mp hobject
    cases hok.symm.trans hread
    cases hv.symm.trans hv'
    exact hkind members rfl
  | notRules hread hnone =>
    cases hfile.symm.trans hread
    cases htext.symm.trans hnone
  | unbuildable hc hread hsheet hentry hfield herror =>
    cases h.configuration.symm.trans hc
    cases hfile.symm.trans hread
    cases htext.symm.trans hsheet
    obtain ⟨built, hbuilt⟩ := h.builds _ hentry hfield
    cases hbuilt.symm.trans herror

end Prepared

/-! ### Documents -/

/-- The paths that the options of a check name. -/
def CheckOptions.sources (options : CheckOptions) : Sources :=
  ⟨options.record, options.rules, options.remote⟩

/-- The outcome of a check of one field holds its message. -/
theorem outcome_of_field {c : Configuration} {o : Outcome} {field : String}
    (hfield : options.field = some field) (h : act files c (.check options) = .ok o) :
    ∃ message, checkField files c.settings options.sources field = .ok message ∧
      o = .checked message.isNone (fieldValue field message) := by
  rw [act, hfield] at h
  obtain ⟨message, hcheck, h⟩ := exists_of_bind_eq_ok h
  cases h
  exact ⟨message, hcheck, rfl⟩

/-- The outcome of a check of a record is a verdict that is valid when no field has a message. -/
theorem outcome_of_record {c : Configuration} {o : Outcome} (hfield : options.field = none)
    (h : act files c (.check options) = .ok o) :
    ∃ verdict, checkAll files c.settings options.sources = .ok verdict ∧
      (verdict.valid = true ↔ ∀ e ∈ verdict.errors.entries, e.2 = none) ∧
      o = .checked verdict.valid verdict.toValue := by
  rw [act, hfield] at h
  obtain ⟨verdict, hcheck, h⟩ := exists_of_bind_eq_ok h
  cases h
  obtain ⟨record, sheet, own, remote, -, -, -, -, rfl⟩ := checkAll_eq_ok hcheck
  exact ⟨_, hcheck, Verdict.allPass_iff, rfl⟩

end Command

end FieldRules
