import FieldRules.Proofs.Evaluation
import FieldRules.Proofs.Warnings
/-!
What the log tells of an evaluation beside the warnings of its builds. Each built field tells of its
own result and of nothing else (`told_evaluateField`), so the log of a whole record reads like its
verdict, field by field (`log_tells_verdict`).
-/

namespace FieldRules

/-- The failure that an event reports. -/
def Event.failure? : Event → Option (String × String)
  | failed field _ message => some (field, message)
  | unknownRule .. | ruleDropped .. | badPattern .. | skipped .. | evaluated .. => none

/-! ### Events beside warnings -/

namespace Traced

variable {α β : Type}

/-- The events that are not warnings of builds. -/
def told (x : Traced α) : List Event := x.log.filter fun event => !event.isWarning

theorem mem_told {x : Traced α} {event : Event} :
    event ∈ x.told ↔ event ∈ x.log ∧ event.isWarning = false := by
  simp [told]

theorem told_bind (x : Traced α) (f : α → Traced β) :
    (x >>= f).told = x.told ++ match x.result with
      | .ok a => (f a).told
      | .error _ => [] := by
  rw [told, log_bind, List.filter_append, told]
  cases x.result <;> rfl

theorem told_bind_pure (x : Traced α) (f : α → β) :
    (x >>= fun a => pure (f a)).told = x.told := by
  rw [told, log_bind_pure, told]

end Traced

/-- What a built field tells of a value: that its rules are skipped, or its first failure. -/
def BuiltField.events (b : BuiltField) (field : String) (v : Value) (r : Record) : List Event :=
  if b.skips v then [.skipped field]
  else ((b.firstFailure v r).map fun failure => .failed field failure.1.name failure.2).toList

/-- The predicate is the first that fails the value, with its message. -/
def BuiltField.FailsFirst (b : BuiltField) (v : Value) (r : Record) (p : Predicate)
    (message : String) : Prop :=
  ∃ before after, b.predicates = before ++ p :: after ∧ p.check v r = some message ∧
    ∀ q ∈ before, q.check v r = none

namespace BuiltField

variable {b : BuiltField} {v : Value} {r : Record}

theorem failsFirst_of_firstFailure {p : Predicate} {message : String}
    (h : b.firstFailure v r = some (p, message)) : b.FailsFirst v r p message := by
  obtain ⟨before, q, after, hpredicates, hq, hbefore⟩ := List.findSome?_eq_some_iff.mp h
  obtain ⟨m, hm, heq⟩ := Option.map_eq_some_iff.mp hq
  cases heq
  exact ⟨before, after, hpredicates, hm, fun q hq => Option.map_eq_none_iff.mp (hbefore q hq)⟩

/-- The reported failure of a field is its result. -/
theorem filterMap_failure?_events (field : String) :
    (b.events field v r).filterMap Event.failure? = ((b.evaluate v r).map (field, ·)).toList := by
  rw [events, evaluate]
  cases b.skips v with
  | true => rfl
  | false => cases b.firstFailure v r <;> rfl

theorem skips_of_skipped_mem_events {field name : String}
    (h : .skipped name ∈ b.events field v r) : name = field ∧ b.skips v = true := by
  rw [events] at h
  split at h
  · next hskips => exact ⟨by simpa using h, hskips⟩
  · cases hf : b.firstFailure v r <;> simp [hf] at h

theorem skips_of_failed_mem_events {field name rule message : String}
    (h : .failed name rule message ∈ b.events field v r) : name = field ∧ b.skips v = false := by
  rw [events] at h
  split at h
  · simp at h
  · next hskips =>
    obtain ⟨failure, -, heq⟩ := Option.map_eq_some_iff.mp (Option.mem_toList.mp h)
    cases heq
    exact ⟨rfl, Bool.eq_false_iff.mpr hskips⟩

theorem events_are_of_field {field : String} {event : Event} (h : event ∈ b.events field v r) :
    event = .skipped field ∨ ∃ rule message, event = .failed field rule message := by
  rw [events] at h
  split at h
  · exact Or.inl (List.mem_singleton.mp h)
  · obtain ⟨failure, -, rfl⟩ := Option.map_eq_some_iff.mp (Option.mem_toList.mp h)
    exact Or.inr ⟨_, _, rfl⟩

end BuiltField

/-! ### Fields in order -/

namespace Engine

variable {e : Engine}

theorem told_build (field : String) (spec : FieldSpec) : (e.build field spec).told = [] := by
  rw [Traced.told, List.filter_eq_nil_iff]
  intro event hevent
  rw [Registry.isWarning_of_mem_log_build hevent]
  exact Bool.false_ne_true

/-- A field that builds tells of its result; one that does not tells nothing. -/
theorem told_evaluateField (field : String) (v : Value) (r : Record) (spec : FieldSpec) :
    (e.evaluateField field v r (some spec)).told =
      match (e.build field spec).result with
      | .ok built => built.events field v r
      | .error _ => [] := by
  rw [evaluateField, Traced.told_bind, told_build, List.nil_append]
  cases (e.build field spec).result with
  | error err => rfl
  | ok built =>
    simp only [BuiltField.events]
    split
    · rfl
    · cases built.firstFailure v r <;> rfl

/-- The events of a built field in a record. -/
def eventsOf (r : Record) (f : String × BuiltField) : List Event :=
  f.2.events f.1 (r.read f.1) r

theorem told_evaluateEntries_cons (r : Record) (field : String) (spec : FieldSpec)
    (rest : List (String × FieldSpec)) :
    (e.evaluateEntries r ((field, spec) :: rest)).told =
      match (e.build field spec).result with
      | .ok built => eventsOf r (field, built) ++ (e.evaluateEntries r rest).told
      | .error _ => [] := by
  rw [evaluateEntries, Traced.told_bind, told_evaluateField, result_evaluateField]
  cases (e.build field spec).result with
  | error err => rfl
  | ok built => simp only [Except.map, Traced.told_bind_pure, eventsOf]

theorem told_of_buildEntries {r : Record} : ∀ {entries : List (String × FieldSpec)}
    {fields : List (String × BuiltField)}, e.buildEntries entries = .ok fields →
    (e.evaluateEntries r entries).told = fields.flatMap (eventsOf r)
  | [], _, h => by
    cases h
    rfl
  | (field, spec) :: rest, _, h => by
    obtain ⟨built, tail, hb, ht, rfl⟩ := buildEntries_cons_eq_ok.mp h
    rw [told_evaluateEntries_cons, hb, List.flatMap_cons, ← told_of_buildEntries ht]

/-- Entries that fail tell of those in front of the first that does not build. -/
theorem told_of_buildEntries_eq_error {r : Record} {err : SpecError} :
    ∀ {entries : List (String × FieldSpec)}, e.buildEntries entries = .error err →
    ∃ before entry after fields, entries = before ++ entry :: after ∧
      e.Fails entry (entry.1, err) ∧ e.buildEntries before = .ok fields ∧
      (e.evaluateEntries r entries).told = fields.flatMap (eventsOf r)
  | (field, spec) :: rest, h => by
    rw [told_evaluateEntries_cons]
    rw [buildEntries] at h
    cases hb : (e.build field spec).result with
    | error err' =>
      rw [hb] at h
      cases h
      exact ⟨[], (field, spec), rest, [], rfl, ⟨rfl, hb⟩, rfl, rfl⟩
    | ok built =>
      rw [hb] at h
      have hrest : e.buildEntries rest = .error err := by
        cases hr : e.buildEntries rest <;> rw [hr] at h <;> cases h
        rfl
      obtain ⟨before, entry, after, fields, rfl, hfails, hbefore, htold⟩ :=
        told_of_buildEntries_eq_error hrest
      exact ⟨(field, spec) :: before, entry, after, (field, built) :: fields, rfl, hfails,
        buildEntries_cons_eq_ok.mpr ⟨built, fields, hb, hbefore, rfl⟩,
        congrArg (eventsOf r (field, built) ++ ·) htold⟩

theorem exists_build_of_buildEntries : ∀ {entries : List (String × FieldSpec)}
    {fields : List (String × BuiltField)}, e.buildEntries entries = .ok fields →
    ∀ entry ∈ entries, ∃ built, (e.build entry.1 entry.2).result = .ok built
  | (field, spec) :: rest, _, h, entry, hentry => by
    obtain ⟨built, tail, hb, ht, -⟩ := buildEntries_cons_eq_ok.mp h
    rcases List.mem_cons.mp hentry with rfl | hrest
    · exact ⟨built, hb⟩
    · exact exists_build_of_buildEntries ht entry hrest

/-- What the log tells of a field of a record, given the message that is held for the field: that its
rules are skipped, or its message and the first predicate that fails, or nothing. -/
inductive Tells (e : Engine) (r : Record) :
    String × FieldSpec → Option String → List Event → Prop
  | skipped {field : String} {spec : FieldSpec} :
      spec.isNullable = true ∧ (r.read field).isEmpty = true →
      Tells e r (field, spec) none [.skipped field]
  | passed {field : String} {spec : FieldSpec} :
      ¬ (spec.isNullable = true ∧ (r.read field).isEmpty = true) →
      Tells e r (field, spec) none []
  | failed {field : String} {spec : FieldSpec} {built : BuiltField} {p : Predicate}
      {message : String} :
      ¬ (spec.isNullable = true ∧ (r.read field).isEmpty = true) →
      (e.build field spec).result = .ok built →
      built.FailsFirst (r.read field) r p message →
      Tells e r (field, spec) (some message) [.failed field p.name message]

theorem tells_of_build {r : Record} {field : String} {spec : FieldSpec} {built : BuiltField}
    (h : (e.build field spec).result = .ok built) :
    e.Tells r (field, spec) (built.evaluate (r.read field) r) (eventsOf r (field, built)) := by
  have hnullable : built.nullable = spec.isNullable := by
    rw [(Registry.build_eq_ok_iff.mp h).2]
  have hskips : built.skips (r.read field) = true ↔
      spec.isNullable = true ∧ (r.read field).isEmpty = true := by
    rw [BuiltField.skips, hnullable, Bool.and_eq_true]
  simp only [eventsOf, BuiltField.events, BuiltField.evaluate]
  split
  · next hs => exact .skipped (hskips.mp hs)
  · next hs =>
    rw [hskips] at hs
    cases hf : built.firstFailure (r.read field) r with
    | none => exact .passed hs
    | some failure => exact .failed hs h (BuiltField.failsFirst_of_firstFailure hf)

theorem forall₂_tells {r : Record} {v : Verdict} : ∀ {entries : List (String × FieldSpec)}
    {fields : List (String × BuiltField)}, e.buildEntries entries = .ok fields →
    (∀ f ∈ fields, v.error? f.1 = f.2.evaluate (r.read f.1) r) →
    List.Forall₂ (fun entry events => e.Tells r entry (v.error? entry.1) events)
      entries (fields.map (eventsOf r))
  | [], _, h, _ => by
    cases h
    exact .nil
  | (field, spec) :: rest, _, h, herror => by
    obtain ⟨built, tail, hb, ht, rfl⟩ := buildEntries_cons_eq_ok.mp h
    have hhead : v.error? field = built.evaluate (r.read field) r :=
      herror (field, built) List.mem_cons_self
    refine .cons ?_ (forall₂_tells ht fun f hf => herror f (List.mem_cons_of_mem _ hf))
    rw [hhead]
    exact tells_of_build hb

/-- Fields of different names never tell both that rules are skipped and that one failed. -/
theorem not_skipped_and_failed {r : Record} {fields : List (String × BuiltField)}
    (hnames : (fields.map Prod.fst).Nodup) {field rule message : String}
    (hskipped : .skipped field ∈ fields.flatMap (eventsOf r)) :
    .failed field rule message ∉ fields.flatMap (eventsOf r) := by
  intro hfailed
  obtain ⟨⟨name, b⟩, hb, hskips⟩ := List.mem_flatMap.mp hskipped
  obtain ⟨⟨name', b'⟩, hb', hfails⟩ := List.mem_flatMap.mp hfailed
  obtain ⟨rfl, hskips⟩ := BuiltField.skips_of_skipped_mem_events hskips
  obtain ⟨rfl, hfails⟩ := BuiltField.skips_of_failed_mem_events hfails
  -- the two events are of one field, which either skips its rules or does not
  have hsame : some b = some b' :=
    (Table.lookup_of_mem hnames hb).symm.trans (Table.lookup_of_mem hnames hb')
  cases hsame
  exact absurd hskips (Bool.eq_false_iff.mp hfails)

/-- The results of built fields are entries of the verdict, one for each. -/
theorem entries_of_evaluateAll {r : Record} {specs : Sheet} {v : Verdict}
    (h : (e.evaluateAll r specs).result = .ok v) :
    ∃ fields, e.buildEntries specs.entries = .ok fields ∧
      v.errors.entries = fields.map (answer r) :=
  forall₂_answers_iff.mp (evaluateAll_eq_ok_iff.mp h).1

theorem error?_of_mem {r : Record} {v : Verdict} {fields : List (String × BuiltField)}
    (h : v.errors.entries = fields.map (answer r)) {f : String × BuiltField} (hf : f ∈ fields) :
    v.error? f.1 = f.2.evaluate (r.read f.1) r := by
  have hentry : answer r f ∈ v.errors.entries := h ▸ List.mem_map_of_mem hf
  rw [Verdict.error?, Table.find?_eq_some_iff.mpr hentry, Option.join_some]

/-- What the fields tell, read for failures, is what the verdict reads for failures. -/
theorem filterMap_failure?_eventsOf (r : Record) (fields : List (String × BuiltField)) :
    (fields.flatMap (eventsOf r)).filterMap Event.failure? =
      (fields.map (answer r)).filterMap fun e => e.2.map (e.1, ·) := by
  rw [List.filterMap_flatMap, List.filterMap_map, List.filterMap_eq_flatMap_toList]
  exact List.flatMap_congr fun f _ => BuiltField.filterMap_failure?_events f.1

/-- An evaluation that succeeds tells of its fields and then of the whole record. -/
theorem told_evaluateAll {r : Record} {specs : Sheet} {v : Verdict}
    {fields : List (String × BuiltField)} (h : (e.evaluateAll r specs).result = .ok v)
    (hfields : e.buildEntries specs.entries = .ok fields) :
    (e.evaluateAll r specs).told =
      fields.flatMap (eventsOf r) ++ [.evaluated specs.size v.valid] := by
  rw [result_evaluateAll, hfields] at h
  cases h
  rw [evaluateAll, Traced.told_bind, told_of_buildEntries hfields, result_evaluateEntries, hfields]
  rfl

/-- An evaluation that fails tells of the fields in front of the first that does not build. -/
theorem told_evaluateAll_eq_error {r : Record} {specs : Sheet} {err : SpecError}
    (h : (e.evaluateAll r specs).result = .error err) :
    ∃ before entry after fields, specs.entries = before ++ entry :: after ∧
      e.Fails entry (entry.1, err) ∧ e.buildEntries before = .ok fields ∧
      (e.evaluateAll r specs).told = fields.flatMap (eventsOf r) := by
  have hfails : e.buildEntries specs.entries = .error err := by
    rw [result_evaluateAll] at h
    cases hb : e.buildEntries specs.entries <;> rw [hb] at h <;> cases h
    rfl
  obtain ⟨before, entry, after, fields, hentries, hentry, hbefore, htold⟩ :=
    told_of_buildEntries_eq_error (r := r) hfails
  refine ⟨before, entry, after, fields, hentries, hentry, hbefore, ?_⟩
  rw [evaluateAll, Traced.told_bind, htold, result_evaluateEntries, hfails]
  exact List.append_nil _

/-- Beside the warnings of builds, an evaluation that succeeds tells of each field in order what the
verdict holds for it, and at last of the whole record. So the failures it tells are those of the
verdict, and of no field does it tell both that its rules are skipped and that it failed. An
evaluation that fails tells of no whole record, and only of fields in front of the one that fails. -/
theorem log_tells_verdict (e : Engine) (r : Record) (specs : Sheet) :
    let evaluation := e.evaluateAll r specs
    (∀ v, evaluation.result = .ok v →
      (∃ told : List (List Event),
        List.Forall₂ (fun entry events => e.Tells r entry (v.error? entry.1) events)
          specs.entries told ∧
        evaluation.told = told.flatten ++ [.evaluated specs.size v.valid]) ∧
      evaluation.told.filterMap Event.failure? = v.failures ∧
      ∀ field rule message,
        .skipped field ∈ evaluation.log → .failed field rule message ∉ evaluation.log) ∧
    (∀ err, evaluation.result = .error err →
      (∀ n valid, .evaluated n valid ∉ evaluation.log) ∧
      ∃ before entry after, specs.entries = before ++ entry :: after ∧
        e.Fails entry (entry.1, err) ∧
        (∀ x ∈ before, ∃ built, (e.build x.1 x.2).result = .ok built) ∧
        ∀ event ∈ evaluation.told, ∃ x ∈ before,
          event = .skipped x.1 ∨ ∃ rule message, event = .failed x.1 rule message) := by
  intro evaluation
  constructor
  · intro v hv
    obtain ⟨fields, hfields, hentries⟩ := entries_of_evaluateAll hv
    have htold : evaluation.told = _ := told_evaluateAll hv hfields
    refine ⟨⟨fields.map (eventsOf r), ?_, ?_⟩, ?_, ?_⟩
    · exact forall₂_tells hfields fun f hf => error?_of_mem hentries hf
    · rw [htold, List.flatMap_def]
    · rw [htold, List.filterMap_append, filterMap_failure?_eventsOf, Verdict.failures, hentries]
      exact List.append_nil _
    · intro field rule message hskipped hfailed
      have hnames : (fields.map Prod.fst).Nodup := by
        rw [map_fst_of_buildEntries hfields]
        exact specs.nodup
      have hin : ∀ {event : Event}, event ∈ evaluation.log → event.isWarning = false →
          (∀ n valid, event ≠ .evaluated n valid) → event ∈ fields.flatMap (eventsOf r) := by
        intro event hevent hwarning hlast
        have hmem : event ∈ evaluation.told := Traced.mem_told.mpr ⟨hevent, hwarning⟩
        rw [htold, List.mem_append, List.mem_singleton] at hmem
        exact hmem.resolve_right (hlast _ _)
      exact not_skipped_and_failed hnames (hin hskipped rfl nofun) (hin hfailed rfl nofun)
  · intro err herr
    obtain ⟨before, entry, after, fields, hentries, hentry, hbefore, htold⟩ :=
      told_evaluateAll_eq_error herr
    have hof : ∀ event ∈ evaluation.told, ∃ x ∈ before,
        event = .skipped x.1 ∨ ∃ rule message, event = .failed x.1 rule message := by
      intro event hevent
      rw [htold] at hevent
      obtain ⟨f, hf, hevent⟩ := List.mem_flatMap.mp hevent
      obtain ⟨spec, hspec, -⟩ := mem_of_buildEntries hbefore f hf
      exact ⟨_, hspec, BuiltField.events_are_of_field hevent⟩
    refine ⟨?_, before, entry, after, hentries, hentry, exists_build_of_buildEntries hbefore, hof⟩
    intro n valid hmem
    obtain ⟨x, -, hx⟩ := hof _ (Traced.mem_told.mpr ⟨hmem, rfl⟩)
    rcases hx with hx | ⟨rule, message, hx⟩ <;> cases hx

/-- An empty nickname is skipped, an age fails its second rule and a name passes without an event. With
a pattern that cannot be read in front of the age, only the nickname is told of. -/
theorem log_tells_of_application :
    let e : Engine := ⟨.builtin, {}⟩
    let specs : Sheet := .ofList [("nick", .rules "nullable|min:3"),
      ("age", .rules "numeric|min:18|max:16"), ("name", .rules "required|nick")]
    let broken : Sheet := .ofList [("nick", .rules "nullable|min:3"), ("code", .rules "regex:("),
      ("age", .rules "numeric|min:18")]
    let r : Record :=
      .ofList [("nick", .text " "), ("age", .text "17"), ("name", .text "Ada")]
    let v : Verdict := ⟨false,
      .ofList [("nick", none), ("age", some "Must be at least 18."), ("name", none)]⟩
    let err : SpecError := .invalidPattern "code" "("
    ((e.evaluateAll r specs).result = .ok v ∧
      (e.evaluateAll r specs).told = [.skipped "nick",
        .failed "age" "min" "Must be at least 18.", .evaluated 3 false] ∧
      (∃ told : List (List Event),
        List.Forall₂ (fun entry events => e.Tells r entry (v.error? entry.1) events)
          specs.entries told ∧
        (e.evaluateAll r specs).told = told.flatten ++ [.evaluated specs.size v.valid]) ∧
      (e.evaluateAll r specs).told.filterMap Event.failure? = v.failures ∧
      .skipped "nick" ∈ (e.evaluateAll r specs).log ∧
      .failed "nick" "min" "Must be at least 3 characters." ∉ (e.evaluateAll r specs).log) ∧
    (e.evaluateAll r broken).result = .error err ∧
      (e.evaluateAll r broken).told = [.skipped "nick"] ∧
      .evaluated 3 false ∉ (e.evaluateAll r broken).log ∧
      ∃ before entry after, broken.entries = before ++ entry :: after ∧
        e.Fails entry (entry.1, err) := by
  intro e specs broken r v err
  have hv : (e.evaluateAll r specs).result = .ok v := by decide +kernel
  have herr : (e.evaluateAll r broken).result = .error err := by decide +kernel
  have hskipped : .skipped "nick" ∈ (e.evaluateAll r specs).log := by decide +kernel
  obtain ⟨htells, hfailures, hboth⟩ := (log_tells_verdict e r specs).1 v hv
  obtain ⟨hwhole, before, entry, after, hentries, hfails, -, -⟩ :=
    (log_tells_verdict e r broken).2 err herr
  exact ⟨⟨hv, by decide +kernel, htells, hfailures, hskipped, hboth _ _ _ hskipped⟩,
    herr, by decide +kernel, hwhole _ _, before, entry, after, hentries, hfails⟩

end Engine

end FieldRules
