import FieldRules.Engine.Verdict
import FieldRules.Proofs.Tables
/-!
Remote messages laid over a verdict. One overlay enters the messages of a report among the results
(`overlay_eq`), so a sequence of overlays enters all messages in turn; where the fields stand and
what they show then follows from the laws of tables (`overlay_sequence`).
-/

namespace FieldRules

namespace RemoteErrors

/-- The entries that hold a message, in order. -/
def messages (r : RemoteErrors) : List (String × Option String) := r.entries.filter (·.2.isSome)

/-- The messages of several reports, entered one after another. -/
def gather (rs : List RemoteErrors) : RemoteErrors := .ofList (rs.flatMap messages)

/-- A report has at most one message of a field. -/
theorem messages_of_field (r : RemoteErrors) (field : String) :
    (r.messages.filter (·.1 = field)).map Prod.snd = (r.message? field).toList.map some := by
  rw [messages, List.filter_comm, Table.filter_entries, message?]
  cases r.find? field with
  | none => rfl
  | some message => cases message <;> rfl

/-- The messages of a field in several reports are those of the reports in turn. -/
theorem flatMap_messages_of_field (field : String) : ∀ rs : List RemoteErrors,
    ((rs.flatMap messages).filter (·.1 = field)).map Prod.snd =
      (rs.filterMap (·.message? field)).map some
  | [] => rfl
  | r :: rs => by
    rw [List.flatMap_cons, List.filter_append, List.map_append, messages_of_field,
      flatMap_messages_of_field field rs, List.filterMap_cons]
    cases r.message? field <;> rfl

/-- What is gathered holds nothing but messages. -/
theorem messages_gather (rs : List RemoteErrors) : (gather rs).messages = (gather rs).entries := by
  rw [messages, List.filter_eq_self]
  rintro ⟨field, message⟩ he
  have hfind := Table.find?_eq_some_iff.mpr he
  have hname : field ∈ (rs.flatMap messages).map Prod.fst :=
    Table.mem_names_ofList.mp (Table.mem_names_iff.mpr ⟨message, hfind⟩)
  obtain ⟨m, hm, hlast⟩ := Table.find?_insertAll_of_mem _ .empty hname
  cases hfind.symm.trans hlast
  obtain ⟨r, -, hr⟩ := List.mem_flatMap.mp hm
  exact (List.mem_filter.mp hr).2

end RemoteErrors

namespace Verdict

/-! ### Overlays -/

theorem foldl_overlay_entries : ∀ (l : List (String × Option String)) (t : Table (Option String)),
    l.foldl (fun t e => match e.2 with
      | some message => t.insert e.1 (some message)
      | none => t) t = t.insertAll (l.filter (·.2.isSome))
  | [], _ => rfl
  | (_, none) :: rest, t => foldl_overlay_entries rest t
  | (field, some message) :: rest, t => foldl_overlay_entries rest (t.insert field (some message))

/-- An overlay enters the messages and judges anew. -/
theorem overlay_eq (v : Verdict) (r : RemoteErrors) :
    v.overlay r = ofResults (v.errors.insertAll r.messages) :=
  congrArg ofResults (foldl_overlay_entries r.entries v.errors)

/-- Overlays in turn enter all messages in turn. -/
theorem foldl_overlay : ∀ {rs : List RemoteErrors}, rs ≠ [] → ∀ v : Verdict,
    rs.foldl overlay v = ofResults (v.errors.insertAll (rs.flatMap RemoteErrors.messages))
  | [], h, _ => absurd rfl h
  | [r], _, v => by simp [overlay_eq]
  | r :: s :: rs, _, v => by
    rw [List.foldl_cons, foldl_overlay (List.cons_ne_nil s rs), overlay_eq, errors_ofResults,
      ← Table.insertAll_append, ← List.flatMap_cons]

/-- Whatever is laid over a verdict in turn, its fields come first and keep their places, and new
fields follow in the order of their first messages. A field shows its last message, or its own
result where none came, and the verdict is valid when no message is left. The same follows from one
overlay of all messages gathered, so laying everything over once more changes nothing. -/
theorem overlay_sequence (v : Verdict) (rs : List RemoteErrors) (h : rs ≠ []) :
    let w := rs.foldl overlay v
    let reported := (rs.flatMap RemoteErrors.messages).map Prod.fst
    w.errors.names = v.errors.names ++ (reported.filter (· ∉ v.errors.names)).eraseDups ∧
    w.errors.names.Nodup ∧
    (∀ field, w.errors.find? field =
      match (rs.filterMap (·.message? field)).getLast? with
      | some message => some (some message)
      | none => v.errors.find? field) ∧
    (w.valid = true ↔ ∀ e ∈ w.errors.entries, e.2 = none) ∧
    w = v.overlay (RemoteErrors.gather rs) ∧
    rs.foldl overlay w = w := by
  intro w reported
  have hw : w = ofResults (v.errors.insertAll (rs.flatMap RemoteErrors.messages)) :=
    foldl_overlay h v
  have hgather : w = v.overlay (RemoteErrors.gather rs) := by
    rw [hw, overlay_eq, RemoteErrors.messages_gather, RemoteErrors.gather, Table.insertAll_ofList]
  refine ⟨?_, w.errors.nodup, ?_, ?_, hgather, ?_⟩
  · rw [hw]
    exact Table.names_insertAll _ _
  · intro field
    have hfind := Table.find?_insertAll field (rs.flatMap RemoteErrors.messages) v.errors
    rw [Table.lastOf, ← List.getLast?_map, RemoteErrors.flatMap_messages_of_field,
      List.getLast?_map] at hfind
    rw [hw, errors_ofResults, hfind]
    cases (rs.filterMap (·.message? field)).getLast? <;> rfl
  · rw [hw]
    exact allPass_iff
  · rw [foldl_overlay h w, hw, errors_ofResults, Table.insertAll_insertAll_self]

/-- Two reports over a verdict that is called valid though a field failed. The second report takes
nothing back with its empty entries, and `plan` stands where its first message came. -/
theorem overlay_of_two_reports :
    let v : Verdict := ⟨true, .ofList [("name", some "Too short."), ("email", none)]⟩
    let first : RemoteErrors :=
      .ofList [("plan", none), ("captcha", some "Try again."), ("email", some "Taken.")]
    let second : RemoteErrors :=
      .ofList [("plan", some "Sold out."), ("email", none), ("captcha", some "Expired.")]
    let w := [first, second].foldl overlay v
    [first, second] ≠ [] ∧
    w.errors.names = ["name", "email", "captcha", "plan"] ∧
    w.errors.find? "name" = some (some "Too short.") ∧
    w.errors.find? "email" = some (some "Taken.") ∧
    w.errors.find? "captcha" = some (some "Expired.") ∧
    w.valid = false ∧
    w = v.overlay (RemoteErrors.gather [first, second]) ∧
    [first, second].foldl overlay w = w := by
  intro v first second w
  have hne : [first, second] ≠ [] := by simp
  obtain ⟨hnames, -, hfind, -, hgather, hagain⟩ := overlay_sequence v [first, second] hne
  refine ⟨hne, hnames.trans (by decide), ?_, ?_, ?_, by decide, hgather, hagain⟩
  · exact (hfind "name").trans rfl
  · exact (hfind "email").trans rfl
  · exact (hfind "captcha").trans rfl

end Verdict

end FieldRules
