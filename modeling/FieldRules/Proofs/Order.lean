import Mathlib.Data.List.Perm.Basic
import FieldRules.Check.Catalog
import FieldRules.Proofs.Evaluation
/-!
Order and repetition. Whether a field passes depends only on which declarations its specification
holds, not on where and how often they stand; a second copy after the first does not even change the
message, and the order of the fields does not change their results (`validity_ignores_order`).
-/

namespace FieldRules

/-! ### Marks of a specification -/

namespace FieldSpec

/-- The specifications hold the same declarations, in any order and number. -/
def SameParts (s t : FieldSpec) : Prop := ∀ part, part ∈ s.parts ↔ part ∈ t.parts

variable {s t : FieldSpec}

theorem SameParts.mem_tokens (h : s.SameParts t) (token : Token) :
    token ∈ s.tokens ↔ token ∈ t.tokens := by
  rw [mem_tokens_iff, mem_tokens_iff, h]

theorem SameParts.isNumeric_eq (h : s.SameParts t) : s.isNumeric = t.isNumeric := by
  rw [Bool.eq_iff_iff]
  simp only [isNumeric, List.any_eq_true, List.mem_filterMap, h.mem_tokens]

theorem SameParts.isNullable_eq (h : s.SameParts t) : s.isNullable = t.isNullable := by
  rw [Bool.eq_iff_iff]
  simp only [isNullable, declares, List.any_eq_true, h.mem_tokens]

end FieldSpec

/-! ### Fields -/

/-- A field fails when its value is not skipped and some predicate fails. -/
theorem BuiltField.isSome_evaluate_iff {b : BuiltField} {v : Value} {record : Record} :
    (b.evaluate v record).isSome = true ↔
      b.skips v = false ∧ ∃ p ∈ b.predicates, (p.check v record).isSome = true := by
  rw [evaluate]
  cases b.skips v with
  | true => simp
  | false => simp [firstFailure, List.findSome?_isSome_iff]

namespace Registry

variable {r : Registry} {settings : Settings} {field : String}

theorem exists_build_iff {spec : FieldSpec} :
    (∃ built, (r.build settings field spec).result = .ok built) ↔
      ∀ t ∈ spec.tokens, (r.resolve settings field spec.isNumeric t).fault? = none := by
  simp only [build_eq_ok_iff, exists_and_left, exists_eq, and_true]

/-- Which declarations a specification holds decides whether it builds and which values pass. -/
theorem validity_of_sameParts {s t : FieldSpec} (h : s.SameParts t) :
    ((∃ built, (r.build settings field s).result = .ok built) ↔
      ∃ built, (r.build settings field t).result = .ok built) ∧
    ∀ b c, (r.build settings field s).result = .ok b → (r.build settings field t).result = .ok c →
      ∀ v record, (b.evaluate v record).isSome = (c.evaluate v record).isSome := by
  constructor
  · simp only [exists_build_iff, h.mem_tokens, h.isNumeric_eq]
  · intro b c hb hc v record
    obtain ⟨-, rfl⟩ := build_eq_ok_iff.mp hb
    obtain ⟨-, rfl⟩ := build_eq_ok_iff.mp hc
    have hpart : ∀ part, part ∈ s.parts ↔ part ∈ t.parts := h
    rw [Bool.eq_iff_iff, BuiltField.isSome_evaluate_iff, BuiltField.isSome_evaluate_iff]
    simp only [BuiltField.skips, List.mem_filterMap, hpart, h.isNumeric_eq, h.isNullable_eq]

end Registry

/-! ### Copies -/

/-- A search finds nothing first in what it has already searched. -/
theorem findSome?_append_copy {α β : Type} {f : α → Option β} {before copy after : List α}
    (h : ∀ x ∈ copy, x ∈ before) :
    (before ++ (copy ++ after)).findSome? f = (before ++ after).findSome? f := by
  rw [List.findSome?_append, List.findSome?_append, List.findSome?_append]
  cases hbefore : before.findSome? f with
  | some b => rfl
  | none =>
    have hcopy : copy.findSome? f = none := by
      rw [List.findSome?_eq_none_iff] at hbefore ⊢
      exact fun x hx => hbefore x (h x hx)
    rw [hcopy]
    rfl

/-- Declarations that stand again after they stood before change neither the error of a build nor
any result. -/
theorem Registry.result_evaluate_copy {r : Registry} {settings : Settings} {field : String}
    {s t : FieldSpec} {before copy after : List Part} (hs : s.parts = before ++ after)
    (ht : t.parts = before ++ (copy ++ after)) (h : ∀ part ∈ copy, part ∈ before) (v : Value)
    (record : Record) :
    (r.build settings field t).result.map (·.evaluate v record) =
      (r.build settings field s).result.map (·.evaluate v record) := by
  have hsame : t.SameParts s := by
    intro part
    simp only [hs, ht, List.mem_append]
    constructor
    · rintro (hb | hc | ha)
      · exact Or.inl hb
      · exact Or.inl (h part hc)
      · exact Or.inr ha
    · rintro (hb | ha)
      · exact Or.inl hb
      · exact Or.inr (Or.inr ha)
  have hmap : ∀ {β : Type} (f : Part → Option β),
      ∀ b ∈ copy.filterMap f, b ∈ before.filterMap f := by
    intro β f b hb
    obtain ⟨part, hpart, hfb⟩ := List.mem_filterMap.mp hb
    exact List.mem_filterMap.mpr ⟨part, h part hpart, hfb⟩
  have hfault : firstFault? (r.resolve settings field s.isNumeric) t.tokens =
      firstFault? (r.resolve settings field s.isNumeric) s.tokens := by
    rw [FieldSpec.tokens_eq_parts, FieldSpec.tokens_eq_parts, hs, ht, List.filterMap_append,
      List.filterMap_append, List.filterMap_append]
    exact findSome?_append_copy (hmap _)
  rw [result_build_parts, result_build_parts, hsame.isNumeric_eq, hsame.isNullable_eq, hfault]
  cases firstFault? (r.resolve settings field s.isNumeric) s.tokens with
  | some e => rfl
  | none =>
    have hfail : BuiltField.firstFailure ⟨t.parts.filterMap
          (Part.predicate? (r.resolve settings field s.isNumeric)), s.isNullable⟩ v record =
        BuiltField.firstFailure ⟨s.parts.filterMap
          (Part.predicate? (r.resolve settings field s.isNumeric)), s.isNullable⟩ v record := by
      rw [hs, ht, List.filterMap_append, List.filterMap_append, List.filterMap_append]
      exact findSome?_append_copy (hmap _)
    simp only [orFault, Except.map, BuiltField.evaluate, hfail]
    rfl

/-! ### Records -/

/-- Reordering the fields reorders the results. -/
theorem Engine.evaluateAll_perm {e : Engine} {specs specs' : Sheet} {record : Record} {v : Verdict}
    (h : specs.entries.Perm specs'.entries) (hv : (e.evaluateAll record specs).result = .ok v) :
    ∃ w, (e.evaluateAll record specs').result = .ok w ∧ v.valid = w.valid ∧
      v.errors.entries.Perm w.errors.entries := by
  obtain ⟨hanswers, hvalid⟩ := evaluateAll_eq_ok_iff.mp hv
  -- a result belongs to its field wherever that stands, so the results follow their fields
  obtain ⟨results, hresults, hperm⟩ := List.perm_comp_forall₂ h.symm hanswers
  have hnodup : (results.map Prod.fst).Nodup :=
    (hperm.map Prod.fst).nodup_iff.mpr v.errors.nodup
  refine ⟨.ofResults ⟨results, hnodup⟩, evaluateAll_eq_ok_iff.mpr ⟨hresults, rfl⟩, ?_, hperm.symm⟩
  rw [hvalid]
  exact (hperm.all_eq).symm

/-- With any registry and settings, reordering the items of a field changes neither whether it
builds nor which values fail. A copy of an item after the item changes nothing of a build or its
results, messages included. Reordering the fields of a record changes neither whether it can be
evaluated nor whether it is valid nor the message of any field. -/
theorem validity_ignores_order (r : Registry) (settings : Settings) (field : String) :
    let build := fun items : List SpecItem => (r.build settings field (.list items)).result
    let evaluate := fun (record : Record) (specs : Sheet) =>
      ((Engine.mk r settings).evaluateAll record specs).result
    (∀ items items', items.Perm items' →
      ((∃ built, build items = .ok built) ↔ ∃ built, build items' = .ok built) ∧
      ∀ b c, build items = .ok b → build items' = .ok c →
        ∀ v record, (b.evaluate v record).isSome = (c.evaluate v record).isSome) ∧
    (∀ before item between after v record,
      (build (before ++ item :: between ++ item :: after)).map (·.evaluate v record) =
        (build (before ++ item :: between ++ after)).map (·.evaluate v record)) ∧
    (∀ specs specs' : Sheet, specs.entries.Perm specs'.entries → ∀ record,
      ((∃ v, evaluate record specs = .ok v) ↔ ∃ v, evaluate record specs' = .ok v) ∧
      ∀ v w, evaluate record specs = .ok v → evaluate record specs' = .ok w →
        v.valid = w.valid ∧ ∀ name, v.errors.find? name = w.errors.find? name) := by
  intro build evaluate
  refine ⟨?_, ?_, ?_⟩
  · intro items items' h
    refine Registry.validity_of_sameParts fun part => ?_
    exact (h.flatMap_right SpecItem.parts).mem_iff
  · intro before item between after v record
    have hcopy : ∀ part ∈ item.parts, part ∈ (before ++ item :: between).flatMap SpecItem.parts :=
      fun part hpart => List.mem_flatMap.mpr ⟨item, by simp, hpart⟩
    have honce : (FieldSpec.list (before ++ item :: between ++ after)).parts =
        (before ++ item :: between).flatMap SpecItem.parts ++ after.flatMap SpecItem.parts :=
      List.flatMap_append
    have htwice : (FieldSpec.list (before ++ item :: between ++ item :: after)).parts =
        (before ++ item :: between).flatMap SpecItem.parts ++
          (item.parts ++ after.flatMap SpecItem.parts) :=
      List.flatMap_append
    exact Registry.result_evaluate_copy honce htwice hcopy v record
  · intro specs specs' h record
    have hsucceeds : ∀ {s t : Sheet}, s.entries.Perm t.entries →
        (∃ v, evaluate record s = .ok v) → ∃ v, evaluate record t = .ok v := by
      rintro s t hst ⟨v, hv⟩
      obtain ⟨w, hw, -, -⟩ := Engine.evaluateAll_perm hst hv
      exact ⟨w, hw⟩
    refine ⟨⟨hsucceeds h, hsucceeds h.symm⟩, fun v w hv hw => ?_⟩
    obtain ⟨w', hw', hvalid, hperm⟩ := Engine.evaluateAll_perm h hv
    cases hw'.symm.trans hw
    exact ⟨hvalid, Table.find?_eq_of_perm hperm⟩

/-- The mark `numeric` stands before or after the bound that it bears on, and the two fields of the
record change places. -/
theorem validity_of_reordered_age :
    let r := Registry.builtin
    let build := fun items : List SpecItem => (r.build {} "age" (.list items)).result
    let evaluate := fun (record : Record) (specs : Sheet) =>
      ((Engine.mk r {}).evaluateAll record specs).result
    let items : List SpecItem := [.rules "min:18", .predicate (.pass "seen"), .rules "numeric"]
    let items' : List SpecItem := [.rules "numeric", .predicate (.pass "seen"), .rules "min:18"]
    let specs : Sheet := .ofList [("age", .rules "min:18|numeric"), ("name", .rules "required")]
    let specs' : Sheet := .ofList [("name", .rules "required"), ("age", .rules "min:18|numeric")]
    let record : Record := .ofList [("age", .text "17"), ("name", .text "Ada")]
    let errors : Table (Option String) :=
      .ofList [("age", some "Must be at least 18."), ("name", none)]
    (items.Perm items' ∧ ∃ b c, build items = .ok b ∧ build items' = .ok c ∧
      (b.evaluate (.text "17") record).isSome = true ∧
      (b.evaluate (.text "17") record).isSome = (c.evaluate (.text "17") record).isSome) ∧
    (specs.entries.Perm specs'.entries ∧
      evaluate record specs = .ok ⟨false, errors⟩ ∧ ∃ w, evaluate record specs' = .ok w ∧
        false = w.valid ∧ errors.find? "age" = w.errors.find? "age") := by
  intro r build evaluate items items' specs specs' record errors
  have hitems : items.Perm items' := List.reverse_perm items'
  have hspecs : specs.entries.Perm specs'.entries := .swap _ _ _
  obtain ⟨hvalidity, -, hrecords⟩ := validity_ignores_order r {} "age"
  have hbuilt : build items = .ok _ := Registry.build_eq_ok_iff.mpr ⟨by decide +kernel, rfl⟩
  obtain ⟨hbuilds, hsame⟩ := hvalidity items items' hitems
  obtain ⟨c, hc⟩ := hbuilds.mp ⟨_, hbuilt⟩
  obtain ⟨hevaluates, hresults⟩ := hrecords specs specs' hspecs record
  have hv : evaluate record specs = .ok ⟨false, errors⟩ := by decide +kernel
  obtain ⟨w, hw⟩ := hevaluates.mp ⟨_, hv⟩
  obtain ⟨hvalid, herrors⟩ := hresults _ w hv hw
  exact ⟨⟨hitems, _, c, hbuilt, hc, by decide +kernel, hsame _ c hbuilt hc _ record⟩,
    hspecs, hv, w, hw, hvalid, herrors "age"⟩

end FieldRules
