import FieldRules.Proofs.JsonText
import FieldRules.Proofs.Tables
/-!
Results that are written and read back. Compact text is JSON text with no space between its parts,
so the reader takes it to the value that was written; and the readers of remote errors and of verdicts
undo what the writers make of one, the order of the fields and fields without a message included
(`results_read_back`).
-/

namespace FieldRules

namespace Json

/-! ### Compact text -/

/-- A member of an object stands for a named value when both are written without space. -/
def StandsCompactly (m : String × Value) (j : Option String × Json) : Prop :=
  j.1 = some m.1 ∧ Writes j.2 m.2.compact.toList

theorem forall₂_writesPart_compact {members : List (String × Value)}
    {js : List (Option String × Json)} (h : List.Forall₂ StandsCompactly members js) :
    List.Forall₂ WritesPart (Value.compactMembers members) js := by
  induction h with
  | nil => exact .nil
  | @cons m j members js hm _ ih =>
    obtain ⟨n, v⟩ := m
    obtain ⟨_, x⟩ := j
    obtain ⟨rfl, hx⟩ := hm
    exact .cons (writesPart_of_writes (by simp) spaces_nil hx) ih

/-- The compact text of an object stands for the object of what its members stand for. -/
theorem writes_compact_object {members : List (String × Value)} {js : List (Option String × Json)}
    (h : List.Forall₂ StandsCompactly members js) :
    Writes (.object js) (Value.object members).compact.toList := by
  have hparts := forall₂_writesPart_compact h
  cases h with
  | nil => exact .empty spaces_nil
  | cons hm hrest =>
    have hcomma : ",".toList = [','] := by simp
    have hmembers := writesMembers_joined hcomma spaces_nil spaces_nil hparts spaces_nil
      (List.cons_ne_nil _ _)
    simpa [Value.compact] using Writes.object hmembers

theorem writes_compact_valueOf (message : Option String) :
    Writes (ofMessage message) (RemoteErrors.valueOf message).compact.toList := by
  cases message with
  | none => exact .null
  | some m => exact .string m

theorem writes_compact_errors (errors : RemoteErrors) :
    Writes (ofErrors errors) (RemoteErrors.text errors).toList := by
  refine writes_compact_object ?_
  rw [List.forall₂_map_left_iff, List.forall₂_map_right_iff, List.forall₂_same]
  exact fun e _ => ⟨rfl, writes_compact_valueOf e.2⟩

theorem writes_compact_verdict (v : Verdict) : Writes (ofVerdict v) v.text.toList := by
  have hvalid : Writes (.bool v.valid) (Value.bool v.valid).compact.toList := by
    cases v.valid with
    | true => exact .yes
    | false => exact .no
  exact writes_compact_object
    (.cons ⟨rfl, hvalid⟩ (.cons ⟨rfl, writes_compact_errors v.errors⟩ .nil))

/-! ### Readers of results -/

theorem optionalText?_ofMessage (message : Option String) :
    optionalText? (ofMessage message) = some message := by
  cases message <;> rfl

/-- Members are read one by one, so what a reader makes of each text is what it makes of all. -/
theorem mapMembers?_map {α β : Type} {read : Json → Option β} {write : α → Json} {f : α → β}
    (h : ∀ a, read (write a) = some (f a)) : ∀ l : List (String × α),
    mapMembers? read (l.map fun e => (some e.1, write e.2)) = some (l.map fun e => (e.1, f e.2))
  | [] => rfl
  | (n, a) :: rest => by
    rw [List.map_cons, mapMembers?, h, mapMembers?_map h rest]
    rfl

end Json

/-- No two fields have one name, so none is replaced by a later one. -/
theorem RemoteErrors.ofJson?_ofErrors (r : RemoteErrors) : ofJson? (Json.ofErrors r) = some r := by
  have hentries := Json.mapMembers?_map Json.optionalText?_ofMessage r.entries
  have hsame : (r.entries.map fun e => (e.1, e.2)) = r.entries := List.map_id _
  rw [Json.ofErrors, ofJson?, hentries, hsame, Option.map_some, Table.ofList_entries]

theorem Verdict.ofJson?_ofVerdict (v : Verdict) : ofJson? (Json.ofVerdict v) = some v := by
  have herrors := RemoteErrors.ofJson?_ofErrors v.errors
  simp [Json.ofVerdict, ofJson?, Json.named?, Json.once?, Json.bool?, herrors]

/-! ### There and back -/

theorem Json.ofText?_of_writes_toList {x : Json} {s : String} (h : Writes x s.toList) :
    ofText? s = some x :=
  ofText?_of_writes h spaces_nil spaces_nil (List.append_nil _).symm

theorem RemoteErrors.ofText?_of_writes {r : RemoteErrors} {s : String}
    (h : Json.Writes (Json.ofErrors r) s.toList) : ofText? s = some r := by
  rw [ofText?, Json.ofText?_of_writes_toList h]
  exact ofJson?_ofErrors r

/-- Whatever text stands for a verdict is read as the verdict, with any space between its parts. -/
theorem Verdict.ofText?_of_writes {v : Verdict} {s : String}
    (h : Json.Writes (Json.ofVerdict v) s.toList) : ofText? s = some v := by
  rw [ofText?, Json.ofText?_of_writes_toList h]
  exact ofJson?_ofVerdict v

/-- The compact text of a verdict or of remote errors is JSON text for it and is read back as it was,
whatever characters its names and messages have; a field without a message stays one, in its place.
So the text of a verdict determines it. -/
theorem results_read_back :
    (∀ v : Verdict, Json.Writes (Json.ofVerdict v) v.text.toList ∧
      Verdict.ofText? v.text = some v) ∧
    (∀ r : RemoteErrors, Json.Writes (Json.ofErrors r) (RemoteErrors.text r).toList ∧
      RemoteErrors.ofText? (RemoteErrors.text r) = some r) ∧
    Function.Injective Verdict.text := by
  have hverdict : ∀ v : Verdict, Verdict.ofText? v.text = some v := fun v =>
    Verdict.ofText?_of_writes (Json.writes_compact_verdict v)
  refine ⟨fun v => ⟨Json.writes_compact_verdict v, hverdict v⟩, fun r => ?_, fun v w htext => ?_⟩
  · have hwrites := Json.writes_compact_errors r
    exact ⟨hwrites, RemoteErrors.ofText?_of_writes hwrites⟩
  · have hread : some v = some w := by rw [← hverdict v, htext, hverdict w]
    exact Option.some.inj hread

example : RemoteErrors.text (.ofList [("b\n\x01", some "\"𝄞\""), ("a", none)]) =
    "\x7b\"b\\n\\u0001\":\"\\\"𝄞\\\"\",\"a\":null\x7d" := by decide

end FieldRules
