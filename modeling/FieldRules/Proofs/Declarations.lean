import FieldRules.Proofs.CompactText
import FieldRules.Proofs.JsonParts
import FieldRules.Proofs.Outcomes
/-!
Sheets from declarations. A field may be declared several times, and a sheet may be made by adding
its fields, by entering them, by collecting them or from JSON text. `declarations_make_one_sheet`
says that these are one sheet and which one: it has each field once, where it is first declared and
with the rules it is last declared with.
-/

namespace FieldRules

/-! ### Declarations -/

/-- What is declared for a field: a rule string or a list of rule strings. -/
inductive Declaration
  | rules (text : String)
  | list (texts : List String)

namespace Declaration

def spec : Declaration → FieldSpec
  | rules text => .rules text
  | list texts => .list (texts.map .rules)

/-- The JSON value that stands for a declaration. -/
def json : Declaration → Json
  | rules text => .string (some text)
  | list texts => .list (texts.map fun text => .string (some text))

/-- JSON text that stands for a declaration. -/
inductive Writes : Declaration → List Char → Prop
  | rules {text : String} {cs : List Char} : Json.Quotes text cs → Writes (rules text) cs
  | list {texts : List String} {cs : List Char} : Json.Brackets Json.Quotes texts cs →
    Writes (list texts) cs

theorem reads_writes : Json.Reads Writes json := by
  rintro n _ _ (hquotes | hbrackets) hn rest
  · exact Json.reads_quotes n _ _ hquotes hn rest
  · exact Json.reads_brackets Json.reads_quotes n _ _ hbrackets hn rest

theorem ofJson?_json : ∀ d : Declaration, FieldSpec.ofJson? d.json = some d.spec
  | rules _ => rfl
  | list texts => by
    have htexts : (texts.map fun text => Json.string (some text)).mapM Json.text? = some texts := by
      induction texts with
      | nil => rfl
      | cons text texts ih =>
        rw [List.map_cons, List.mapM_cons, ih]
        rfl
    rw [json, FieldSpec.ofJson?, htexts]
    rfl

end Declaration

/-! ### Sheets -/

namespace Sheet

/-- The text is a JSON object that has the declarations as its members, in their order. -/
def Declares (text : String) (declared : List (String × Declaration)) : Prop :=
  Json.Padded (Json.Braces Declaration.Writes) declared text.toList

/-- The fields with their rules, in the order of their declaration. -/
def specsOf (declared : List (String × Declaration)) : List (String × FieldSpec) :=
  declared.map fun d => (d.1, d.2.spec)

theorem ofText?_of_declares {text : String} {declared : List (String × Declaration)}
    (h : Declares text declared) :
    ofText? text = some (Table.ofList (specsOf declared)) := by
  have hread := Json.ofText?_of_padded (Json.reads_braces Declaration.reads_writes) h
  rw [ofText?, hread]
  simp only [Option.bind_eq_bind, Option.bind_some, ofJson?,
    Json.mapMembers?_map Declaration.ofJson?_json, Option.map_some]
  rfl

theorem foldl_field : ∀ (specs : List (String × FieldSpec)) (s : Sheet),
    specs.foldl (fun s d => s.field d.1 d.2) s = Table.insertAll s specs := by
  intro specs
  induction specs with
  | nil => exact fun _ => rfl
  | cons d specs ih =>
    intro s
    rw [List.foldl_cons, ih, Table.insertAll_cons, field, Table.replace_eq]

theorem map_fst_specsOf (declared : List (String × Declaration)) :
    (specsOf declared).map Prod.fst = declared.map Prod.fst := by
  rw [specsOf, List.map_map]
  rfl

end Sheet

/-- Adding declared fields one by one, entering them, collecting them and reading any JSON text that
has them as its members make one sheet. It has every field once, in the order in which they are
first declared, with the rules that are declared last; each entry gives back what the declarations
before it have left under its name. An evaluation takes those rules and reports the fields in that
order. -/
theorem declarations_make_one_sheet (declared : List (String × Declaration)) :
    let specs := Sheet.specsOf declared
    let fields := (declared.map Prod.fst).eraseDups
    let sheet : Sheet := Table.ofList specs
    (specs.foldl (fun s d => Sheet.field s d.1 d.2) .empty = sheet ∧
      (Table.empty.insertEach specs).2 = sheet ∧
      ∀ text, Sheet.Declares text declared → Sheet.ofText? text = some sheet) ∧
    (fields.Nodup ∧ sheet.names = fields ∧ sheet.size = fields.length ∧
      sheet.entries = fields.filterMap fun name => (Table.lastOf name specs).map (name, ·)) ∧
    (∀ name, sheet.find? name = Table.lastOf name specs ∧
      (sheet.contains name = true ↔ name ∈ declared.map Prod.fst)) ∧
    (∀ i : Nat, (Table.empty.insertEach specs).1[i]? =
      specs[i]?.map fun d => Table.lastOf d.1 (specs.take i)) ∧
    ∀ (e : Engine) (r : Record),
      ((∃ v, (e.evaluateAll r sheet).result = .ok v) ↔ ∀ name spec,
        Table.lastOf name specs = some spec → ∃ built, (e.build name spec).result = .ok built) ∧
      ∀ v, (e.evaluateAll r sheet).result = .ok v → v.errors.names = fields ∧ ∀ name spec,
        Table.lastOf name specs = some spec → ∃ built, (e.build name spec).result = .ok built ∧
          v.errors.find? name = some (built.evaluate (r.read name) r) := by
  intro specs fields sheet
  have hnames : sheet.names = fields := by
    rw [Table.names_ofList, Sheet.map_fst_specsOf]
  have hfind : ∀ name, sheet.find? name = Table.lastOf name specs := Table.find?_ofList specs
  refine ⟨⟨Sheet.foldl_field specs .empty, Table.snd_insertEach specs .empty,
      fun text => Sheet.ofText?_of_declares⟩,
    ⟨Table.nodup_eraseDups _, hnames, ?_, ?_⟩, fun name => ⟨hfind name, ?_⟩, fun i => ?_,
    fun e r => ⟨?_, fun v hv => ?_⟩⟩
  · rw [← hnames, Table.names, List.length_map, Table.size]
  · rw [Table.entries_eq_filterMap, hnames]
    simp only [hfind]
  · rw [← Sheet.map_fst_specsOf, ← Table.mem_names_ofList, Table.mem_names_iff, Table.contains,
      Option.isSome_iff_exists]
  · rw [Table.getElem?_insertEach]
    simp only [← Table.ofList_eq_insertAll, Table.find?_ofList]
  · rw [Command.exists_evaluateAll_iff]
    simp only [← hfind, Table.find?_eq_some_iff, Prod.forall]
  · have hup := Engine.upToDate_of_evaluateAll hv
    exact ⟨hup.names_eq.trans hnames, fun name spec hspec => hup.find_eq ((hfind name).trans hspec)⟩

/-- A field that is declared twice, the second time under an escaped name. -/
theorem declarations_make_one_sheet_of_repeated :
    let text := " \x7b\"b\" : \"string\",\n\"a\":[ \"nullable\",\"max:9\" ],\"\\u0062\":[ ]\x7d"
    let declared := [("b", Declaration.rules "string"), ("a", .list ["nullable", "max:9"]),
      ("b", .list [])]
    let sheet : Sheet := Table.ofList (Sheet.specsOf declared)
    let e : Engine := ⟨.builtin, {}⟩
    let verdict : Verdict := ⟨true, .ofList [("b", none), ("a", none)]⟩
    Sheet.Declares text declared ∧ Sheet.ofText? text = some sheet ∧ sheet.names = ["b", "a"] ∧
      sheet.find? "b" = some (.list []) ∧
      (Table.empty.insertEach (Sheet.specsOf declared)).1[2]? = some (some (.rules "string")) ∧
      (e.evaluateAll .empty sheet).result = .ok verdict ∧ verdict.errors.names = ["b", "a"] := by
  intro text declared sheet e verdict
  have hunit : Json.UnitText 'b'.toNat ['\\', 'u', '0', '0', '6', '2'] :=
    .mk (i := 0) (j := 0) (k := 6) (l := 2) (by decide) (by decide) (by decide) (by decide)
  have hescaped : Json.Quotes "b" _ := .mk (Json.Spelled.cons (.code hunit) .nil)
  have hlist : Json.Brackets Json.Quotes ["nullable", "max:9"] _ :=
    .items (.cons (.mk Json.spaces_blank Json.spaces_nil (Json.quotes_quoted "nullable"))
      (.last (.mk Json.spaces_nil Json.spaces_blank (Json.quotes_quoted "max:9"))))
  have hwritten : Json.Braces Declaration.Writes declared _ :=
    .members (.cons (.mk Json.spaces_nil (Json.quotes_quoted "b") Json.spaces_blank
      Json.spaces_blank (.rules (Json.quotes_quoted "string")) Json.spaces_nil)
      (.cons (.mk Json.spaces_newline (Json.quotes_quoted "a") Json.spaces_nil Json.spaces_nil
        (.list hlist) Json.spaces_nil)
      (.last (.mk Json.spaces_nil hescaped Json.spaces_nil Json.spaces_nil
        (.list (.empty Json.spaces_blank)) Json.spaces_nil))))
  have hdeclares : Sheet.Declares text declared := by
    have hpadded := Json.Padded.mk Json.spaces_blank Json.spaces_nil hwritten
    rw [Sheet.Declares]
    convert hpadded using 1
    decide
  obtain ⟨⟨-, -, hread⟩, ⟨-, hnames, -⟩, hfind, hreplaced, hevaluated⟩ :=
    declarations_make_one_sheet declared
  have hverdict : (e.evaluateAll .empty sheet).result = .ok verdict :=
    eq_ok_of_toOption (by decide +kernel)
  exact ⟨hdeclares, hread text hdeclares, hnames.trans (by decide), (hfind "b").1.trans rfl,
    (hreplaced 2).trans rfl, hverdict,
    ((hevaluated e .empty).2 verdict hverdict).1.trans (by decide)⟩

end FieldRules
