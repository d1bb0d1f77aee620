import FieldRules.Proofs.Agreement
import FieldRules.Proofs.BoundRules
import FieldRules.Proofs.Dependents
import FieldRules.Proofs.EmptyValues
/-!
What `confirmed` stands for. A token that names it can be replaced by `same` with the name of the
confirmation field: no result, no reference and no dependent of a field changes
(`confirmed_means_same`).
-/

namespace FieldRules

/-! ### Writing the confirmation out -/

/-- The rule that names the confirmation of a field. -/
def Token.sameConfirmation (field : String) : Token :=
  ⟨Rule.same.text, [Check.confirmationOf field]⟩

/-- A segment, in which the confirmation is written out if it is chosen and names `confirmed`. -/
def Token.segmentWithSame (field : String) (chosen : Bool) (segment : List Char) : String :=
  if chosen && (ofChars segment).any (fun t => t.name == Rule.confirmed.text) then
    (sameConfirmation field).render
  else String.ofList segment

/-- A rule string in which the confirmation is written out in the chosen segments. -/
def Token.withSame (field : String) (chosen : Nat → Bool) (text : String) : String :=
  Text.joined "|" ((Text.split '|' text.toList).mapIdx fun i segment =>
    segmentWithSame field (chosen i) segment)

def SpecItem.withSame (field : String) (chosen : Nat → Bool) : SpecItem → SpecItem
  | rules text => .rules (Token.withSame field chosen text)
  | predicate p => .predicate p

/-- A specification in which the confirmation is written out in the chosen tokens. A token is chosen
by its place in the list and the place of its segment in the rule string. -/
def FieldSpec.withSame (field : String) (chosen : Nat → Nat → Bool) : FieldSpec → FieldSpec
  | rules text => .rules (Token.withSame field (chosen 0) text)
  | list items => .list (items.mapIdx fun i item => item.withSame field (chosen i))

/-- The same declaration, or the confirmation written out. -/
inductive Part.WrittenOut (field : String) : Part → Part → Prop
  | kept (part : Part) : WrittenOut field part part
  | named (args : List String) :
    WrittenOut field (.token ⟨Rule.confirmed.text, args⟩) (.token (Token.sameConfirmation field))

theorem forall₂_mapIdx {α β : Type} {R : α → β → Prop} : ∀ {l : List α} {f : Nat → α → β},
    (∀ i, ∀ a ∈ l, R a (f i a)) → List.Forall₂ R l (l.mapIdx f)
  | [], _, _ => .nil
  | a :: l, f, h => by
    rw [List.mapIdx_cons]
    exact .cons (h 0 a List.mem_cons_self)
      (forall₂_mapIdx fun i b hb => h (i + 1) b (List.mem_cons_of_mem _ hb))

section Reading

variable {field : String} (hfront : ∀ c, field.toList.head? = some c → Text.isBlank c = false)
  (hbar : '|' ∉ field.toList) (hcomma : ',' ∉ field.toList)

include hfront hbar hcomma

/-- The name of the confirmation field is an argument as it stands. -/
theorem Token.canonical_sameConfirmation : (sameConfirmation field).Canonical := by
  have hname : (Check.confirmationOf field).toList = field.toList ++ "_confirmation".toList := by
    rw [Check.confirmationOf, String.toList_append]
  have htrim : Text.trim (Check.confirmationOf field).toList = (Check.confirmationOf field).toList := by
    rw [hname, Text.trim_eq_self_iff]
    refine ⟨fun c hc => ?_, fun c hc => ?_⟩
    · rw [List.head?_append] at hc
      cases hhead : field.toList.head? with
      | none =>
        rw [hhead] at hc
        cases hc
        rfl
      | some d =>
        rw [hhead] at hc
        cases hc
        exact hfront c hhead
    · rw [List.getLast?_append] at hc
      cases hc
      rfl
  have hrule : Text.trimmed Rule.same.text = Rule.same.text := by decide
  have hplain : '|' ∉ Rule.same.text.toList ∧ ':' ∉ Rule.same.text.toList := by decide
  refine ⟨hrule, hplain, List.forall_mem_singleton.mpr (trim_toList.mpr htrim),
    List.forall_mem_singleton.mpr ?_, fun hempty => ?_⟩
  · simp [hname, hbar, hcomma]
  · have hnil := congrArg String.toList (List.singleton_inj.mp hempty)
    simp [hname] at hnil

/-- A segment that is replaced was one token that names `confirmed`. -/
theorem Token.forall₂_writtenOut_segment {segment : List Char} (hsegment : '|' ∉ segment)
    (chosen : Bool) :
    List.Forall₂ (Part.WrittenOut field) ((ofChars segment).map .token)
      ((ofText (segmentWithSame field chosen segment)).map .token) := by
  rw [segmentWithSame]
  split
  · next hnamed =>
    rw [Bool.and_eq_true] at hnamed
    rcases ofChars_of_not_mem_bar hsegment with hnil | ⟨t, ht⟩
    · rw [hnil] at hnamed
      cases hnamed.2
    · obtain ⟨name, args⟩ := t
      obtain rfl : name = Rule.confirmed.text := by simpa [ht] using hnamed.2
      rw [ht, ofText_render (canonical_sameConfirmation hfront hbar hcomma)]
      exact .cons (.named args) .nil
  · rw [ofText, String.toList_ofList]
    exact List.forall₂_same.mpr fun part _ => .kept part

theorem Token.forall₂_writtenOut (chosen : Nat → Bool) (text : String) :
    List.Forall₂ (Part.WrittenOut field) ((ofText text).map .token)
      ((ofText (withSame field chosen text)).map .token) := by
  have hsegments : List.Forall₂ (fun segment written => List.Forall₂ (Part.WrittenOut field)
      ((ofChars segment).map .token) ((ofText written).map .token)) (Text.split '|' text.toList)
        ((Text.split '|' text.toList).mapIdx fun i segment =>
          segmentWithSame field (chosen i) segment) :=
    forall₂_mapIdx fun i segment hsegment => forall₂_writtenOut_segment hfront hbar hcomma
      (Text.not_mem_of_mem_split segment hsegment) (chosen i)
  rw [withSame, ofText_joined, ofText, ofChars_eq_flatMap_split, List.map_flatMap, List.map_flatMap]
  exact List.rel_flatMap hsegments fun _ _ h => h

theorem FieldSpec.forall₂_writtenOut (chosen : Nat → Nat → Bool) (spec : FieldSpec) :
    List.Forall₂ (Part.WrittenOut field) spec.parts (spec.withSame field chosen).parts := by
  cases spec with
  | rules text => exact Token.forall₂_writtenOut hfront hbar hcomma (chosen 0) text
  | list items =>
    have hitems : List.Forall₂ (fun item item' : SpecItem =>
        List.Forall₂ (Part.WrittenOut field) item.parts item'.parts) items
          (items.mapIdx fun i item => item.withSame field (chosen i)) := by
      refine forall₂_mapIdx fun i item _ => ?_
      cases item with
      | rules text => exact Token.forall₂_writtenOut hfront hbar hcomma (chosen i) text
      | predicate p => exact .cons (.kept _) .nil
    exact List.rel_flatMap hitems fun _ _ h => h

end Reading

/-! ### What does not change -/

/-- The rule of the confirmation and the rule with its name make the same comparison. -/
theorem Registry.alike_sameConfirmation (settings : Settings) (field : String)
    (numericField : Bool) (args : List String) :
    (builtin.resolve settings field numericField ⟨Rule.confirmed.text, args⟩).Alike
      (fun p q => ∀ v, Predicate.AgreeAt v p q)
      (builtin.resolve settings field numericField (Token.sameConfirmation field)) := by
  have hne : Check.confirmationOf field ≠ "" := by simp [Check.confirmationOf]
  have hconfirmed : Rule.confirmed.factory (inputOf field numericField ⟨Rule.confirmed.text, args⟩) =
      .ok (Check.equals "confirmed" (Check.confirmationOf field)) := rfl
  have hsame : Rule.same.factory (inputOf field numericField (Token.sameConfirmation field)) =
      .ok (Check.equals "same" (Check.confirmationOf field)) := by
    rw [Rule.factory, Check.same, Token.sameConfirmation, text_inputOf rfl hne]
    rfl
  rw [resolve_eq_kept hconfirmed, Token.sameConfirmation, resolve_eq_kept hsame]
  exact .kept fun v record => rfl

section WrittenOut

variable {field : String} {spec written : FieldSpec}
  (h : List.Forall₂ (Part.WrittenOut field) spec.parts written.parts)
include h

theorem map_eq_of_writtenOut {β : Type} {f : Part → β} (hf : ∀ args,
    f (.token ⟨Rule.confirmed.text, args⟩) = f (.token (Token.sameConfirmation field))) :
    written.parts.map f = spec.parts.map f := by
  have hmap : List.Forall₂ Eq (spec.parts.map f) (written.parts.map f) := by
    refine List.rel_map (fun part part' hpart => ?_) h
    cases hpart with
    | kept => rfl
    | named args => exact hf args
  exact (List.forall₂_eq_eq_eq ▸ hmap).symm

theorem declares_of_writtenOut {rule : Rule} (hconfirmed : Rule.confirmed ≠ rule)
    (hsame : Rule.same ≠ rule) : written.declares rule = spec.declares rule := by
  have hnames : ∀ args, Part.names rule (.token ⟨Rule.confirmed.text, args⟩) =
      Part.names rule (.token (Token.sameConfirmation field)) := by
    intro args
    have hconfirmed' : Rule.confirmed.text ≠ rule.text := fun htext =>
      hconfirmed (Rule.text_injective htext)
    have hsame' : Rule.same.text ≠ rule.text := fun htext => hsame (Rule.text_injective htext)
    simp [Part.names, Token.sameConfirmation, hconfirmed', hsame']
  have hmap := congrArg (List.any · id) (map_eq_of_writtenOut h hnames)
  simpa only [List.any_map, Function.id_comp, ← FieldSpec.declares_eq_any_parts] using hmap

theorem references_of_writtenOut : written.references field = spec.references field := by
  let reads : Part → Option String := fun part => part.token?.bind (FieldSpec.reads? field)
  have hreads : ∀ args, reads (.token ⟨Rule.confirmed.text, args⟩) =
      reads (.token (Token.sameConfirmation field)) := by
    intro args
    have hne : Check.confirmationOf field ≠ "" := by simp [Check.confirmationOf]
    simp [reads, Part.token?, FieldSpec.reads?, Token.rule?, Token.sameConfirmation,
      Rule.ofText?_text, FieldSpec.firstText?, hne]
  have hmap := congrArg (List.filterMap id) (map_eq_of_writtenOut h hreads)
  rw [FieldSpec.references, FieldSpec.references, FieldSpec.tokens_eq_parts,
    FieldSpec.tokens_eq_parts, List.filterMap_filterMap, List.filterMap_filterMap]
  simpa only [List.filterMap_map, Function.id_comp] using congrArg List.eraseDups hmap

/-- The comparison is the same whichever of the two rules makes it. -/
theorem result_evaluateField_of_writtenOut (settings : Settings) (v : Value) (record : Record) :
    ((Engine.mk .builtin settings).evaluateField field v record (some written)).result =
      ((Engine.mk .builtin settings).evaluateField field v record (some spec)).result := by
  have hnullable : written.isNullable = spec.isNullable :=
    declares_of_writtenOut h (by decide) (by decide)
  have hnumeric : written.isNumeric = spec.isNumeric := by
    rw [FieldSpec.isNumeric_eq_declares, FieldSpec.isNumeric_eq_declares,
      declares_of_writtenOut h (by decide) (by decide),
      declares_of_writtenOut h (by decide) (by decide)]
  have hparts : List.Forall₂ (Part.Alike (fun p q => ∀ v, Predicate.AgreeAt v p q)
      (Registry.builtin.resolve settings field spec.isNumeric)
      (Registry.builtin.resolve settings field spec.isNumeric)) spec.parts written.parts := by
    refine h.imp fun part part' hpart => ?_
    cases hpart with
    | kept =>
      cases part with
      | token t => exact .token (.refl (fun p v record => rfl) _)
      | literal p => exact .literal fun v record => rfl
    | named args => exact .token (Registry.alike_sameConfirmation settings field _ args)
  rw [Engine.result_evaluateField, Engine.result_evaluateField, Engine.build, Engine.build,
    Registry.result_build_parts, Registry.result_build_parts, hnullable, hnumeric,
    FieldSpec.tokens_eq_parts, FieldSpec.tokens_eq_parts, ← Part.firstFault?_of_alike hparts]
  cases firstFault? (Registry.builtin.resolve settings field spec.isNumeric)
      (spec.parts.filterMap Part.token?) with
  | some e => rfl
  | none =>
    have hagree := (Part.forall₂_predicate?_of_alike hparts).imp fun p q hpq => hpq v
    have hresult := BuiltField.evaluate_of_forall₂ (b := ⟨_, spec.isNullable⟩)
      (c := ⟨_, spec.isNullable⟩) hagree record rfl
    exact congrArg Except.ok hresult.symm

end WrittenOut

/-! ### Sheets -/

/-- Replacing an entry changes nothing for those who cannot tell it from the one before. -/
theorem Table.map_put_of_lookup {α β : Type} {name : String} {a b : α} {f : String × α → β}
    (hf : f (name, a) = f (name, b)) : ∀ {l : List (String × α)}, lookup name l = some b →
      (put name a l).map f = l.map f
  | [], h => by cases h
  | (n, c) :: rest, h => by
    rw [lookup] at h
    rw [put]
    split at h
    · next hn =>
      cases h
      rw [if_pos hn, List.map_cons, List.map_cons, hn, hf]
    · next hn => rw [if_neg hn, List.map_cons, List.map_cons, map_put_of_lookup hf h]

/-- Dependents are a matter of references alone. -/
theorem Sheet.dependents_insert {specs : Sheet} {field : String} {spec spec' : FieldSpec}
    (hspec : specs.find? field = some spec) (hrefs : spec'.references field = spec.references field) :
    dependents (specs.insert field spec') = specs.dependents := by
  have hlinks : links (specs.insert field spec').entries = links specs.entries := by
    rw [links, links, List.flatMap_def, List.flatMap_def]
    refine congrArg List.flatten (Table.map_put_of_lookup ?_ hspec)
    simp only [hrefs]
  rw [dependents_eq_foldl, dependents_eq_foldl, hlinks]

/-- For a field whose name can stand in a rule string, `confirmed` means `same` with the name of the
confirmation field: with the catalog, writing this out in any of the tokens that name `confirmed`
changes neither the result of any value in any record nor the references of the field, and a sheet
that holds the specification keeps its dependents. -/
theorem confirmed_means_same (settings : Settings) {field : String}
    (hfront : ∀ c, field.toList.head? = some c → Text.isBlank c = false)
    (hbar : '|' ∉ field.toList) (hcomma : ',' ∉ field.toList) (spec : FieldSpec)
    (chosen : Nat → Nat → Bool) :
    let written := spec.withSame field chosen
    let evaluate := fun v record spec =>
      ((Engine.mk .builtin settings).evaluateField field v record (some spec)).result
    (∀ v record, evaluate v record written = evaluate v record spec) ∧
    written.references field = spec.references field ∧
    ∀ specs : Sheet, specs.find? field = some spec →
      Sheet.dependents (specs.insert field written) = specs.dependents := by
  intro written evaluate
  have hparts := FieldSpec.forall₂_writtenOut hfront hbar hcomma chosen spec
  have hrefs := references_of_writtenOut hparts
  exact ⟨result_evaluateField_of_writtenOut hparts settings, hrefs,
    fun specs hspec => Sheet.dependents_insert hspec hrefs⟩

/-- A field with a colon and a blank in its name, and two of its three tokens for the confirmation
written out, one of which has arguments. -/
theorem confirmed_means_same_of_pass_phrase :
    let field := "new:pass phrase"
    let spec : FieldSpec := .list [.rules "required| confirmed:twice,now |min:3",
      .predicate (.pass "seen"), .rules "confirmed|same:hint|confirmed"]
    let chosen := fun i j => i == 0 || j == 0
    let written := spec.withSame field chosen
    let specs : Sheet := .ofList [("hint", .rules "string"), (field, spec)]
    let record : Record := .ofList [(field ++ "_confirmation", .text "abd"), ("hint", .text "abc")]
    let evaluate := fun spec =>
      ((Engine.mk .builtin {}).evaluateField field (.text "abc") record (some spec)).result
    (∀ c, field.toList.head? = some c → Text.isBlank c = false) ∧ '|' ∉ field.toList ∧
      ',' ∉ field.toList ∧
      written.tokens = [⟨"required", []⟩, ⟨"same", [field ++ "_confirmation"]⟩, ⟨"min", ["3"]⟩,
        ⟨"same", [field ++ "_confirmation"]⟩, ⟨"same", ["hint"]⟩, ⟨"confirmed", []⟩] ∧
      evaluate spec = .ok (some "Fields do not match.") ∧ evaluate written = evaluate spec ∧
      written.references field = spec.references field ∧
      spec.references field = [field ++ "_confirmation", "hint"] ∧
      specs.find? field = some spec ∧
      Sheet.dependents (specs.insert field written) = specs.dependents := by
  intro field spec chosen written specs record evaluate
  have hfront : ∀ c, field.toList.head? = some c → Text.isBlank c = false := by
    have hhead : field.toList.head? = some 'n' := by decide
    rintro c hc
    cases hhead.symm.trans hc
    rfl
  have hbar : '|' ∉ field.toList := by decide
  have hcomma : ',' ∉ field.toList := by decide
  have hspec : specs.find? field = some spec := rfl
  obtain ⟨hresults, hrefs, hdependents⟩ :=
    confirmed_means_same {} hfront hbar hcomma spec chosen
  exact ⟨hfront, hbar, hcomma, by decide +kernel, by decide +kernel, hresults _ _, hrefs,
    by decide +kernel, hspec, hdependents specs hspec⟩

end FieldRules
