import FieldRules.Value.Text
/-!
Verdicts: the result of each field of a record, and whether all fields passed. Remote errors are
messages of the same shape from somewhere else, laid over the results of a verdict.
-/

namespace FieldRules

/-- The result of every field, in order; no message means that the field passed. -/
structure Verdict where
  valid : Bool
  errors : Table (Option String)
  deriving DecidableEq

namespace Verdict

/-- No field has a message. -/
def allPass (errors : Table (Option String)) : Bool := errors.entries.all fun e => e.2.isNone

/-- The verdict of the results of single fields. -/
def ofResults (errors : Table (Option String)) : Verdict := ⟨allPass errors, errors⟩

theorem allPass_iff {errors : Table (Option String)} :
    allPass errors = true ↔ ∀ e ∈ errors.entries, e.2 = none := by
  simp [allPass]

@[simp] theorem errors_ofResults (errors : Table (Option String)) :
    (ofResults errors).errors = errors := rfl

/-- The message of a field, if it failed. -/
def error? (v : Verdict) (field : String) : Option String := (v.errors.find? field).join

/-- The failed fields and their messages. -/
def failures (v : Verdict) : List (String × String) :=
  v.errors.entries.filterMap fun e => e.2.map (e.1, ·)

end Verdict

/-- The message that was reported for each field, if one was. -/
abbrev RemoteErrors := Table (Option String)

namespace RemoteErrors

/-- The message in a value: that of a list is its first item. -/
def messageOf (v : Value) : Option String :=
  let one : Value → Option String
    | .null => none
    | v => some v.toText
  match v with
  | .list [] => none
  | .list (first :: _) => one first
  | v => one v

/-- Messages by field; what is not an object has none. -/
def ofValue : Value → RemoteErrors
  | .object members => Table.ofList (members.map fun m => (m.1, messageOf m.2))
  | _ => .empty

/-- The messages in the member `errors` of a response. -/
def ofEnvelope (body : Value) : RemoteErrors :=
  match body.member? "errors" with
  | some errors => ofValue errors
  | none => .empty

/-- The message of a field, if it has one. -/
def message? (r : RemoteErrors) (field : String) : Option String := (r.find? field).join

end RemoteErrors

/-- Lays remote messages over a verdict: each replaces the result of its field, and fields that the
verdict lacks come last. Entries without a message change nothing. -/
def Verdict.overlay (v : Verdict) (remote : RemoteErrors) : Verdict :=
  .ofResults (remote.entries.foldl
    (fun t e => match e.2 with
      | some message => t.insert e.1 (some message)
      | none => t) v.errors)

end FieldRules
