import FieldRules.Proofs.Splitting
import FieldRules.Rule.Token
/-!
The grammar of rule strings, as a relation beside the reader. `Writes` says how tokens may be written:
blank characters around segments, names and arguments, blank segments anywhere, the colon of a token
without arguments there or not. Reading undoes exactly these ways on canonical tokens, and canonical
tokens are all it gives (`reading_inverts_writing`).
-/

namespace FieldRules.Token

open Text

/-! ### Ways of writing -/

/-- Text with blank characters around it. -/
def Padded (x cs : List Char) : Prop :=
  ∃ l r, allBlank l = true ∧ allBlank r = true ∧ cs = l ++ x ++ r

/-- Arguments with a comma between neighbours. -/
inductive WritesArgs : List String → List Char → Prop
  | one {a : String} {cs : List Char} : Padded a.toList cs → WritesArgs [a] cs
  | cons {a b : String} {rest : List String} {cs ds : List Char} :
    Padded a.toList cs → WritesArgs (b :: rest) ds → WritesArgs (a :: b :: rest) (cs ++ ',' :: ds)

/-- One token as a segment. Only an empty name needs the colon when there are no arguments. -/
inductive WritesToken : Token → List Char → Prop
  | bare {name : String} {cs : List Char} :
    name ≠ "" → Padded name.toList cs → WritesToken ⟨name, []⟩ cs
  | colon {name : String} {cs ds : List Char} :
    Padded name.toList cs → allBlank ds = true → WritesToken ⟨name, []⟩ (cs ++ ':' :: ds)
  | args {name : String} {args : List String} {cs ds : List Char} :
    Padded name.toList cs → WritesArgs args ds → WritesToken ⟨name, args⟩ (cs ++ ':' :: ds)

/-- Tokens and any number of blank segments, with a bar between neighbours. -/
inductive Writes : List Token → List Char → Prop
  | blank {cs : List Char} : allBlank cs = true → Writes [] cs
  | one {t : Token} {cs : List Char} : WritesToken t cs → Writes [t] cs
  | skip {ts : List Token} {cs ds : List Char} :
    allBlank cs = true → Writes ts ds → Writes ts (cs ++ '|' :: ds)
  | cons {t : Token} {ts : List Token} {cs ds : List Char} :
    WritesToken t cs → Writes ts ds → Writes (t :: ts) (cs ++ '|' :: ds)

/-- Tokens that the grammar can tell from others. A single empty argument cannot be told from
none. -/
structure Canonical (t : Token) : Prop where
  name_trimmed : trimmed t.name = t.name
  name_plain : '|' ∉ t.name.toList ∧ ':' ∉ t.name.toList
  args_trimmed : ∀ a ∈ t.args, trimmed a = a
  args_plain : ∀ a ∈ t.args, '|' ∉ a.toList ∧ ',' ∉ a.toList
  args_ne : t.args ≠ [""]

theorem trim_toList {s : String} : trimmed s = s ↔ trim s.toList = s.toList := by
  rw [trimmed, ← String.toList_inj, String.toList_ofList]

theorem padded_trim (cs : List Char) : Padded (trim cs) cs := exists_padding cs

theorem padded_self (x : List Char) : Padded x x := ⟨[], [], rfl, rfl, by simp⟩

theorem Padded.trim_eq {x cs : List Char} (h : Padded x cs) : trim cs = trim x := by
  obtain ⟨l, r, hl, hr, rfl⟩ := h
  exact trim_padding hl hr x

theorem Padded.not_mem {x cs : List Char} (h : Padded x cs) {c : Char} (hc : isBlank c = false)
    (hx : c ∉ x) : c ∉ cs := by
  obtain ⟨l, r, hl, hr, rfl⟩ := h
  simp [not_mem_of_allBlank hc hl, not_mem_of_allBlank hc hr, hx]

/-! ### Reading segments -/

/-- The tokens of two texts with a bar between them are the tokens of both. -/
theorem ofChars_append_bar (a b : List Char) : ofChars (a ++ '|' :: b) = ofChars a ++ ofChars b := by
  simp only [ofChars, split_append_sep, List.map_append, List.filter_append]

theorem ofChars_of_allBlank {cs : List Char} (h : allBlank cs = true) : ofChars cs = [] := by
  have hbar : '|' ∉ cs := not_mem_of_allBlank rfl h
  simp [ofChars, split_of_not_mem hbar, trim_eq_nil_iff.mpr h]

theorem ofChars_segment {cs : List Char} (hbar : '|' ∉ cs) (h : trim cs ≠ []) :
    ofChars cs = [ofSegment (trim cs)] := by
  simp [ofChars, split_of_not_mem hbar, h]

theorem ofSegment_of_not_mem {cs : List Char} (h : ':' ∉ cs) :
    ofSegment cs = ⟨String.ofList cs, []⟩ := by
  rw [ofSegment, splitOnce_of_not_mem h]

theorem argsOf_append {r : List Char} (hr : allBlank r = true) (cs : List Char) :
    argsOf (cs ++ r) = argsOf cs := by
  have htrim : trim (cs ++ r) = trim cs := trim_padding (l := []) rfl hr cs
  rw [argsOf, argsOf, htrim, map_trim_split_append rfl hr]

/-- The first colon ends the name, and padding of the segment is padding of its parts. -/
theorem ofSegment_trim_append_colon {a : List Char} (ha : ':' ∉ a) (b : List Char) :
    ofSegment (trim (a ++ ':' :: b)) =
      ⟨String.ofList (trim a), (argsOf b).map String.ofList⟩ := by
  obtain ⟨l, x, y, r, hl, hr, hcut, rfl, rfl⟩ := splitOnce_trim rfl (splitOnce_append_sep ha b)
  have hname : trim (l ++ x) = trim x := by simpa using trim_padding hl (r := []) rfl x
  rw [ofSegment, hcut, hname, argsOf_append hr]

/-- One segment with a colon is one token. -/
theorem ofChars_append_colon {a b : List Char} (hcolon : ':' ∉ a) (ha : '|' ∉ a) (hb : '|' ∉ b) :
    ofChars (a ++ ':' :: b) = [⟨String.ofList (trim a), (argsOf b).map String.ofList⟩] := by
  have hbar : '|' ∉ a ++ ':' :: b := by simp [ha, hb]
  have hne : trim (a ++ ':' :: b) ≠ [] := by
    intro hnil
    have hblank := trim_eq_nil_iff.mp hnil
    exact not_mem_of_allBlank (c := ':') rfl hblank (by simp)
  rw [ofChars_segment hbar hne, ofSegment_trim_append_colon hcolon b]

/-! ### Reading what was written -/

theorem map_trim_split_of_writesArgs {args : List String} {ds : List Char} (h : WritesArgs args ds)
    (htrim : ∀ a ∈ args, trimmed a = a) (hplain : ∀ a ∈ args, ',' ∉ a.toList) :
    (split ',' ds).map trim = args.map String.toList := by
  have hpiece : ∀ a ∈ args, ∀ cs, Padded a.toList cs →
      (split ',' cs).map trim = [a.toList] := by
    intro a ha cs hcs
    rw [split_of_not_mem (hcs.not_mem rfl (hplain a ha)), List.map_singleton, hcs.trim_eq,
      trim_toList.mp (htrim a ha)]
  induction h with
  | one hcs => exact hpiece _ List.mem_cons_self _ hcs
  | cons hcs hrest ih =>
    rw [split_append_sep, List.map_append, hpiece _ List.mem_cons_self _ hcs,
      ih (fun a ha => htrim a (List.mem_cons_of_mem _ ha))
        (fun a ha => hplain a (List.mem_cons_of_mem _ ha))
        (fun a ha => hpiece a (List.mem_cons_of_mem _ ha))]
    rfl

theorem WritesArgs.not_mem_bar {args : List String} {ds : List Char} (h : WritesArgs args ds)
    (hplain : ∀ a ∈ args, '|' ∉ a.toList) : '|' ∉ ds := by
  induction h with
  | one hcs => exact hcs.not_mem rfl (hplain _ List.mem_cons_self)
  | cons hcs _ ih =>
    have hfirst := hcs.not_mem (c := '|') rfl (hplain _ List.mem_cons_self)
    have hrest := ih fun a ha => hplain a (List.mem_cons_of_mem _ ha)
    simp [hfirst, hrest]

theorem argsOf_of_writesArgs {args : List String} {ds : List Char} (h : WritesArgs args ds)
    (htrim : ∀ a ∈ args, trimmed a = a) (hplain : ∀ a ∈ args, ',' ∉ a.toList)
    (hne : args ≠ [""]) : argsOf ds = args.map String.toList := by
  have hmap := map_trim_split_of_writesArgs h htrim hplain
  rw [argsOf, if_neg, hmap]
  intro hblank
  -- blank text has no comma, so it could only write the single empty argument
  have hcomma : ',' ∉ ds := not_mem_of_allBlank rfl (trim_eq_nil_iff.mp hblank)
  rw [split_of_not_mem hcomma, List.map_singleton, hblank] at hmap
  obtain ⟨a, rfl, ha⟩ := List.map_eq_singleton_iff.mp hmap.symm
  exact hne (by rw [String.toList_eq_nil_iff.mp ha])

/-- A written canonical token is one segment and is read as itself. -/
theorem ofChars_of_writesToken {t : Token} {cs : List Char} (h : WritesToken t cs)
    (ht : t.Canonical) : ofChars cs = [t] := by
  have hcut : ∀ (args : List String) (as ds : List Char), Padded t.name.toList as →
      '|' ∉ ds → argsOf ds = args.map String.toList →
      ofChars (as ++ ':' :: ds) = [⟨t.name, args⟩] := by
    intro args as ds has hds hargs
    have hcolon := has.not_mem rfl ht.name_plain.2
    have hbar := has.not_mem rfl ht.name_plain.1
    rw [ofChars_append_colon hcolon hbar hds, has.trim_eq, trim_toList.mp ht.name_trimmed, hargs]
    simp
  cases h with
  | bare hname hcs =>
    have hne : trim cs ≠ [] := by
      rw [hcs.trim_eq, trim_toList.mp ht.name_trimmed]
      simpa using hname
    have hcolon : ':' ∉ trim cs := fun hc => hcs.not_mem rfl ht.name_plain.2 (mem_of_mem_trim hc)
    rw [ofChars_segment (hcs.not_mem rfl ht.name_plain.1) hne, ofSegment_of_not_mem hcolon,
      hcs.trim_eq, trim_toList.mp ht.name_trimmed, String.ofList_toList]
  | colon hcs hds =>
    refine hcut [] _ _ hcs (not_mem_of_allBlank rfl hds) ?_
    rw [argsOf, if_pos (trim_eq_nil_iff.mpr hds)]
    rfl
  | args hcs hds =>
    refine hcut _ _ _ hcs (hds.not_mem_bar fun a ha => (ht.args_plain a ha).1) ?_
    exact argsOf_of_writesArgs hds ht.args_trimmed (fun a ha => (ht.args_plain a ha).2) ht.args_ne

theorem ofChars_of_writes {ts : List Token} {cs : List Char} (h : Writes ts cs)
    (hts : ∀ t ∈ ts, t.Canonical) : ofChars cs = ts := by
  induction h with
  | blank hcs => exact ofChars_of_allBlank hcs
  | one ht => exact ofChars_of_writesToken ht (hts _ List.mem_cons_self)
  | skip hcs _ ih => rw [ofChars_append_bar, ofChars_of_allBlank hcs, ih hts, List.nil_append]
  | cons ht _ ih =>
    rw [ofChars_append_bar, ofChars_of_writesToken ht (hts _ List.mem_cons_self),
      ih fun t ht => hts t (List.mem_cons_of_mem _ ht), List.singleton_append]

/-! ### Every text is a way of writing what is read from it -/

theorem writesArgs_split (ds : List Char) :
    WritesArgs (((split ',' ds).map trim).map String.ofList) ds := by
  have hpad : ∀ cs : List Char, Padded (String.ofList (trim cs)).toList cs := by
    intro cs
    rw [String.toList_ofList]
    exact padded_trim cs
  induction ds using sepInduction ',' with
  | last a ha =>
    rw [split_of_not_mem ha]
    exact .one (hpad a)
  | cut a b ha ih =>
    rw [split_append_sep, split_of_not_mem ha]
    rw [split] at ih ⊢
    exact .cons (hpad a) ih

theorem writesToken_ofSegment {cs : List Char} (h : trim cs ≠ []) :
    WritesToken (ofSegment (trim cs)) cs := by
  cases hcut : splitOnce ':' cs with
  | none =>
    have hcolon : ':' ∉ trim cs :=
      fun hc => not_mem_of_splitOnce_eq_none hcut (mem_of_mem_trim hc)
    rw [ofSegment_of_not_mem hcolon]
    refine .bare ?_ ?_
    · simpa using h
    · rw [String.toList_ofList]
      exact padded_trim cs
  | some ab =>
    obtain ⟨a, b⟩ := ab
    obtain ⟨rfl, ha⟩ := eq_append_of_splitOnce_eq_some hcut
    have hpad : Padded (String.ofList (trim a)).toList a := by
      rw [String.toList_ofList]
      exact padded_trim a
    rw [ofSegment_trim_append_colon ha, argsOf]
    split
    · next hb => exact .colon hpad (trim_eq_nil_iff.mp hb)
    · exact .args hpad (writesArgs_split b)

theorem writes_ofChars (cs : List Char) : Writes (ofChars cs) cs := by
  induction cs using sepInduction '|' with
  | last a ha =>
    by_cases hblank : trim a = []
    · rw [ofChars_of_allBlank (trim_eq_nil_iff.mp hblank)]
      exact .blank (trim_eq_nil_iff.mp hblank)
    · rw [ofChars_segment ha hblank]
      exact .one (writesToken_ofSegment hblank)
  | cut a b ha ih =>
    rw [ofChars_append_bar]
    by_cases hblank : trim a = []
    · rw [ofChars_of_allBlank (trim_eq_nil_iff.mp hblank)]
      exact .skip (trim_eq_nil_iff.mp hblank) ih
    · rw [ofChars_segment ha hblank]
      exact .cons (writesToken_ofSegment hblank) ih

/-! ### What is read is canonical -/

theorem canonical_ofSegment {cs : List Char} (hbar : '|' ∉ cs) :
    (ofSegment (trim cs)).Canonical := by
  have htrim : ∀ xs : List Char, trimmed (String.ofList (trim xs)) = String.ofList (trim xs) := by
    intro xs
    rw [trim_toList, String.toList_ofList, trim_trim]
  have hmem : ∀ {c : Char} {xs : List Char}, c ∉ xs → c ∉ (String.ofList (trim xs)).toList := by
    intro c xs h hc
    rw [String.toList_ofList] at hc
    exact h (mem_of_mem_trim hc)
  cases hcut : splitOnce ':' cs with
  | none =>
    have hcolon := not_mem_of_splitOnce_eq_none hcut
    rw [ofSegment_of_not_mem fun hc => hcolon (mem_of_mem_trim hc)]
    exact ⟨htrim cs, ⟨hmem hbar, hmem hcolon⟩, by simp, by simp, by simp⟩
  | some ab =>
    obtain ⟨a, b⟩ := ab
    obtain ⟨rfl, ha⟩ := eq_append_of_splitOnce_eq_some hcut
    simp only [List.mem_append, List.mem_cons, not_or] at hbar
    rw [ofSegment_trim_append_colon ha, argsOf]
    split
    · exact ⟨htrim a, ⟨hmem hbar.1, hmem ha⟩, by simp, by simp, by simp⟩
    · next hb =>
      refine ⟨htrim a, ⟨hmem hbar.1, hmem ha⟩, ?_, ?_, ?_⟩
      · intro s hs
        obtain ⟨p, -, rfl⟩ := List.mem_map.mp (List.map_map ▸ hs)
        exact htrim p
      · intro s hs
        obtain ⟨p, hp, rfl⟩ := List.mem_map.mp (List.map_map ▸ hs)
        exact ⟨hmem fun hc => hbar.2.2 (mem_of_mem_split hp hc), hmem (not_mem_of_mem_split p hp)⟩
      · intro hone
        obtain ⟨x, hx, hempty⟩ := List.map_eq_singleton_iff.mp hone
        obtain ⟨p, hp, rfl⟩ := List.map_eq_singleton_iff.mp hx
        rw [eq_of_split_eq_singleton hp] at hb
        exact hb (String.ofList_eq_empty_iff.mp hempty)

theorem canonical_of_mem_ofChars (cs : List Char) : ∀ t ∈ ofChars cs, t.Canonical := by
  have hsegment : ∀ a, '|' ∉ a → ∀ t ∈ ofChars a, t.Canonical := by
    intro a ha t ht
    by_cases hblank : trim a = []
    · rw [ofChars_of_allBlank (trim_eq_nil_iff.mp hblank)] at ht
      cases ht
    · rw [ofChars_segment ha hblank, List.mem_singleton] at ht
      exact ht ▸ canonical_ofSegment ha
  induction cs using sepInduction '|' with
  | last a ha => exact hsegment a ha
  | cut a b ha ih =>
    intro t ht
    rw [ofChars_append_bar, List.mem_append] at ht
    rcases ht with ht | ht
    · exact hsegment a ha t ht
    · exact ih t ht

/-! ### Rendering -/

theorem writesArgs_joined : ∀ {args : List String}, args ≠ [] →
    WritesArgs args (joined "," args).toList
  | [], h => absurd rfl h
  | [a], _ => .one (padded_self a.toList)
  | a :: b :: rest, _ => by
    rw [toList_joined_cons]
    exact .cons (padded_self a.toList) (writesArgs_joined (List.cons_ne_nil b rest))

theorem writesToken_render (t : Token) : WritesToken t t.render.toList := by
  obtain ⟨name, args⟩ := t
  have hlist : (render ⟨name, args⟩).toList = name.toList ++ ':' :: (joined "," args).toList := by
    rw [render, String.toList_append, String.toList_append, List.append_assoc]
    rfl
  rw [hlist]
  cases args with
  | nil => exact .colon (padded_self name.toList) rfl
  | cons a rest =>
    exact .args (padded_self name.toList) (writesArgs_joined (List.cons_ne_nil a rest))

/-- A rendered canonical token is read as itself. -/
theorem ofText_render {t : Token} (h : t.Canonical) : ofText t.render = [t] :=
  ofChars_of_writesToken (writesToken_render t) h

theorem writes_joined_render : ∀ ts : List Token, Writes ts (joined "|" (ts.map render)).toList
  | [] => .blank rfl
  | [t] => .one (writesToken_render t)
  | t :: u :: rest => by
    rw [List.map_cons, List.map_cons, toList_joined_cons]
    exact .cons (writesToken_render t) (writes_joined_render (u :: rest))

/-- Reading gives canonical tokens, and gives back every list of these from all its written forms.
Every text is such a form of what is read from it, so rendering and reading again changes nothing. -/
theorem reading_inverts_writing :
    (∀ s : String, ∀ t ∈ ofText s, t.Canonical) ∧
    (∀ (ts : List Token) (s : String), (∀ t ∈ ts, t.Canonical) → Writes ts s.toList →
      ofText s = ts) ∧
    (∀ s w : String, Writes (ofText s) w.toList → ofText w = ofText s) ∧
    (∀ s : String, Writes (ofText s) s.toList) ∧
    (∀ s : String, ofText (joined "|" ((ofText s).map render)) = ofText s) := by
  have hread : ∀ (ts : List Token) (s : String), (∀ t ∈ ts, t.Canonical) → Writes ts s.toList →
      ofText s = ts := fun ts s hts h => ofChars_of_writes h hts
  have hcanonical : ∀ s : String, ∀ t ∈ ofText s, t.Canonical :=
    fun s => canonical_of_mem_ofChars s.toList
  refine ⟨hcanonical, hread, ?_, fun s => writes_ofChars s.toList, ?_⟩
  · intro s w h
    exact hread _ w (hcanonical s) h
  · intro s
    exact hread _ _ (hcanonical s) (writes_joined_render (ofText s))

/-- Two empty arguments, a token without a name and one without a colon, among blank segments; then
the same tokens rendered. -/
theorem reading_inverts_writing_of_padded :
    let ts : List Token := [⟨"in", ["", ""]⟩, ⟨"", []⟩, ⟨"a b", ["x:y"]⟩, ⟨"min", []⟩]
    let s := "| |in : , |:|a b:\u00A0x:y|min\t|"
    let w := "in:,|:|a b:x:y|min:"
    (∀ t ∈ ts, t.Canonical) ∧ Writes ts s.toList ∧ ofText s = ts ∧
      Writes (ofText s) w.toList ∧ ofText w = ofText s := by
  intro ts s w
  have hcanonical : ∀ t ∈ ts, t.Canonical := by
    intro t ht
    simp only [ts, List.mem_cons, List.not_mem_nil, or_false] at ht
    rcases ht with rfl | rfl | rfl | rfl <;>
      exact ⟨by decide, by decide, by decide, by decide, by decide⟩
  have hwrites : Writes ts s.toList := by
    have hs : s.toList = [] ++ '|' :: ([' '] ++ '|' ::
        ((['i', 'n', ' '] ++ ':' :: ([' '] ++ ',' :: [' '])) ++ '|' :: (([] ++ ':' :: []) ++ '|' ::
          ((['a', ' ', 'b'] ++ ':' :: ['\u00A0', 'x', ':', 'y']) ++ '|' ::
            (['m', 'i', 'n', '\t'] ++ '|' :: []))))) := by decide
    rw [hs]
    refine .skip rfl (.skip rfl (.cons (.args ?_ (.cons ?_ (.one ?_)))
      (.cons (.colon ?_ rfl) (.cons (.args ?_ (.one ?_)) (.cons (.bare (by decide) ?_)
        (.blank rfl))))))
    · exact ⟨[], [' '], rfl, rfl, rfl⟩
    · exact ⟨[' '], [], rfl, rfl, rfl⟩
    · exact ⟨[' '], [], rfl, rfl, rfl⟩
    · exact ⟨[], [], rfl, rfl, rfl⟩
    · exact ⟨[], [], rfl, rfl, rfl⟩
    · exact ⟨['\u00A0'], [], rfl, rfl, rfl⟩
    · exact ⟨[], ['\t'], rfl, rfl, rfl⟩
  have hread := reading_inverts_writing.2.1 ts s hcanonical hwrites
  have hrendered : Writes (ofText s) w.toList := by
    rw [hread]
    exact writes_joined_render ts
  exact ⟨hcanonical, hwrites, hread, hrendered, reading_inverts_writing.2.2.1 s w hrendered⟩

end FieldRules.Token
