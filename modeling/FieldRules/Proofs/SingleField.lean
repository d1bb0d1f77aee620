import FieldRules.Command.Run
import FieldRules.Proofs.Overlays
import FieldRules.Proofs.Revalidation
/-!
Checking one field of a record. Wherever the whole record can be checked, each of its fields can be
checked alone, has the message that the verdict holds for it, and the record is valid when its fields
are (`field_agrees_with_record`).
-/

namespace FieldRules

/-! ### Messages of single fields -/

namespace Verdict

/-- A verdict whose mark is right is valid when no field has a message. -/
theorem allPass_iff_error? {v : Verdict} :
    allPass v.errors = true ↔ ∀ field, v.error? field = none := by
  rw [allPass_iff]
  constructor
  · intro h field
    rw [error?]
    cases hfind : v.errors.find? field with
    | none => rfl
    | some message =>
      have hnone : message = none := h _ (Table.find?_eq_some_iff.mp hfind)
      rw [hnone]
      rfl
  · rintro h ⟨field, message⟩ he
    have hfield := h field
    rwa [error?, Table.find?_eq_some_iff.mpr he, Option.join_some] at hfield

/-- An overlay shows the remote message of a field, or else the field's own. -/
theorem error?_overlay (v : Verdict) (r : RemoteErrors) (field : String) :
    (v.overlay r).error? field = (r.message? field <|> v.error? field) := by
  have hfind := Table.find?_insertAll field r.messages v.errors
  rw [Table.lastOf, ← List.getLast?_map, RemoteErrors.messages_of_field] at hfind
  rw [overlay_eq, error?, errors_ofResults, hfind, error?]
  cases r.message? field <;> rfl

end Verdict

/-- Where a whole record can be evaluated, so can each field, with or without rules, and its message
is that of the verdict. -/
theorem Engine.result_evaluateField_of_evaluateAll {e : Engine} {r : Record} {specs : Sheet}
    {v : Verdict} (h : (e.evaluateAll r specs).result = .ok v) (field : String) :
    (e.evaluateField field (r.read field) r (specs.find? field)).result =
      .ok (v.error? field) := by
  have hup := upToDate_of_evaluateAll h
  cases hspec : specs.find? field with
  | none =>
    have hname : field ∉ v.errors.names := by
      rw [hup.names_eq, Table.mem_names_iff, hspec]
      simp
    rw [Verdict.error?, Table.find?_eq_none_of_not_mem hname]
    rfl
  | some spec =>
    obtain ⟨built, hbuilt, hfind⟩ := hup.find_eq hspec
    rw [result_evaluateField, hbuilt, Verdict.error?, hfind]
    rfl

/-! ### Checks -/

namespace Command

variable {files : Files} {settings : Settings} {s : Sources}

/-- A check of a whole record reads all its files, evaluates and lays the remote messages over. -/
theorem checkAll_eq_ok {verdict : Verdict} (h : checkAll files settings s = .ok verdict) :
    ∃ record sheet own remote, readRecord files s.record = .ok record ∧
      readSheet files s.rules = .ok sheet ∧
      ((engineOf settings).evaluateAll record sheet).result = .ok own ∧
      readRemoteOf files s.remote = .ok remote ∧ verdict = own.overlay remote := by
  obtain ⟨record, hrecord, h⟩ := exists_of_bind_eq_ok h
  obtain ⟨sheet, hsheet, h⟩ := exists_of_bind_eq_ok h
  obtain ⟨own, hown, h⟩ := exists_of_bind_eq_ok h
  obtain ⟨remote, hremote, h⟩ := exists_of_bind_eq_ok h
  cases h
  exact ⟨record, sheet, own, remote, hrecord, hsheet, mapError_eq_ok_iff.mp hown, hremote, rfl⟩

theorem checkField_of_evaluateAll {record : Record} {sheet : Sheet} {own : Verdict}
    {remote : RemoteErrors} (hrecord : readRecord files s.record = .ok record)
    (hsheet : readSheet files s.rules = .ok sheet)
    (hown : ((engineOf settings).evaluateAll record sheet).result = .ok own)
    (hremote : readRemoteOf files s.remote = .ok remote) (field : String) :
    checkField files settings s field = .ok ((own.overlay remote).error? field) := by
  rw [checkField, hrecord, hsheet, hremote, Verdict.error?_overlay]
  simp only [bind, Except.bind, Engine.result_evaluateField_of_evaluateAll hown]
  rfl

/-- The same check of another field, or of the whole record. -/
def CheckOptions.of (options : CheckOptions) (field : Option String) : CheckOptions :=
  ⟨options.record, options.rules, field, options.remote, options.strict⟩

/-- The outcome that a check of a field ends with, as that of the whole record holds its message. -/
def Outcome.ofField (verdict : Verdict) (field : String) : Outcome :=
  .checked (verdict.error? field).isNone (fieldValue field (verdict.error? field))

theorem Outcome.status_checked (passes : Bool) (v : Value) :
    (checked passes v).status = 0 ↔ passes = true := by
  cases passes <;> simp [checked, printed]

/-- When the check of a whole record prints a verdict, the check of any one field succeeds too, prints
the message that the verdict holds for it, and passes when there is none. So the record is valid when
the checks of all specified fields and of all fields with a remote message pass. -/
theorem field_agrees_with_record (files : Files) (c : Configuration) (options : CheckOptions)
    (whole : Outcome) (h : act files c (.check (options.of none)) = .ok whole) :
    ∃ (sheet : Sheet) (remote : RemoteErrors) (verdict : Verdict),
      readSheet files options.rules = .ok sheet ∧
      readRemoteOf files options.remote = .ok remote ∧
      checkAll files c.settings ⟨options.record, options.rules, options.remote⟩ = .ok verdict ∧
      whole = .checked verdict.valid verdict.toValue ∧
      (∀ field, ∃ single, act files c (.check (options.of (some field))) = .ok single ∧
        single.output = (fieldValue field (verdict.error? field)).pretty ++ "\n" ∧
        (single.status = 0 ↔ verdict.error? field = none)) ∧
      (whole.status = 0 ↔ ∀ field, field ∈ sheet.names ∨ remote.message? field ≠ none →
        ∀ single, act files c (.check (options.of (some field))) = .ok single →
          single.status = 0) := by
  obtain ⟨verdict, hcheck, hwhole⟩ := exists_of_bind_eq_ok h
  cases hwhole
  obtain ⟨record, sheet, own, remote, hrecord, hsheet, hown, hremote, rfl⟩ := checkAll_eq_ok hcheck
  have hsingle : ∀ field, act files c (.check (options.of (some field))) =
      .ok (.ofField (own.overlay remote) field) := by
    intro field
    have hfield := checkField_of_evaluateAll hrecord hsheet hown hremote field
    exact congrArg (· >>= _) hfield
  have hstatus : ∀ field, (Outcome.ofField (own.overlay remote) field).status = 0 ↔
      (own.overlay remote).error? field = none := by
    intro field
    rw [Outcome.ofField, Outcome.status_checked, Option.isNone_iff_eq_none]
  refine ⟨sheet, remote, own.overlay remote, hsheet, hremote, hcheck, rfl, ?_, ?_⟩
  · exact fun field => ⟨_, hsingle field, rfl, hstatus field⟩
  · rw [Outcome.status_checked]
    change Verdict.allPass (own.overlay remote).errors = true ↔ _
    rw [Verdict.allPass_iff_error?]
    constructor
    · intro hall field _ single hact
      cases (hsingle field).symm.trans hact
      exact (hstatus field).mpr (hall field)
    · intro hall field
      by_cases hf : field ∈ sheet.names ∨ remote.message? field ≠ none
      · exact (hstatus field).mp (hall field hf _ (hsingle field))
      · -- a field without rules and without a remote message has no entry at all
        rw [not_or, not_not] at hf
        have hup := Engine.upToDate_of_evaluateAll hown
        have hname : field ∉ own.errors.names := hup.names_eq ▸ hf.1
        rw [Verdict.error?_overlay, hf.2, Verdict.error?, Table.find?_eq_none_of_not_mem hname]
        rfl

/-- The age breaks its rule, the server refuses the name and the mail address, of which the second
has no rules, and nothing is known of the nickname. -/
theorem field_agrees_with_record_of_signup :
    let files : Files := .ofList [
      ("signup.json", "\x7b\"age\": \"nine\", \"name\": \"Ann\", \"note\": \"hi\"\x7d"),
      ("rules.json", "\x7b\"age\": \"integer\", \"name\": \"required\", \"note\": \"\"\x7d"),
      ("answer.json", "\x7b\"errors\": \x7b\"mail\": \"Taken.\", \"name\": \"Taken.\"\x7d\x7d")]
    let options : CheckOptions := ⟨"signup.json", "rules.json", none, some "answer.json", false⟩
    let verdict : Verdict := ⟨false, .ofList [("age", some "The field must be an integer."),
      ("name", some "Taken."), ("note", none), ("mail", some "Taken.")]⟩
    let whole : Outcome := .checked verdict.valid verdict.toValue
    act files {} (.check (options.of none)) = .ok whole ∧
      (∀ field, ∃ single, act files {} (.check (options.of (some field))) = .ok single ∧
        single.output = (fieldValue field (verdict.error? field)).pretty ++ "\n" ∧
        (single.status = 0 ↔ verdict.error? field = none)) ∧
      ["age", "name", "note", "mail", "nick"].map verdict.error? =
        [some "The field must be an integer.", some "Taken.", none, some "Taken.", none] ∧
      ∃ (sheet : Sheet) (remote : RemoteErrors), readSheet files options.rules = .ok sheet ∧
        readRemoteOf files options.remote = .ok remote ∧
        ¬ ∀ field, field ∈ sheet.names ∨ remote.message? field ≠ none →
          ∀ single, act files {} (.check (options.of (some field))) = .ok single →
            single.status = 0 := by
  intro files options verdict whole
  have hcheck : checkAll files {} ⟨"signup.json", "rules.json", some "answer.json"⟩ =
      .ok verdict := by
    have hsome : (checkAll files {} ⟨"signup.json", "rules.json", some "answer.json"⟩).toOption =
        some verdict := by decide +kernel
    generalize checkAll files {} _ = result at hsome
    cases result with
    | ok v => exact congrArg Except.ok (Option.some.inj hsome)
    | error f => cases hsome
  have hwhole : act files {} (.check (options.of none)) = .ok whole := by
    change checkAll files {} ⟨"signup.json", "rules.json", some "answer.json"⟩ >>= _ = _
    rw [hcheck]
    rfl
  obtain ⟨sheet, remote, v, hsheet, hremote, hv, -, hsingle, hall⟩ :=
    field_agrees_with_record files {} options whole hwhole
  cases hcheck.symm.trans hv
  refine ⟨hwhole, hsingle, by decide +kernel, sheet, remote, hsheet, hremote,
    fun h => ?_⟩
  have hstatus : whole.status = 0 := hall.mpr h
  rw [Outcome.status_checked] at hstatus
  exact Bool.false_ne_true hstatus

end Command

end FieldRules
