import FieldRules.Engine.Written
import FieldRules.Proofs.Splitting
import Mathlib.Data.List.DropRight
import Mathlib.Data.List.Forall2
/-!
JSON text that is read as it was meant. `Json.Writes` says which text stands for a value, with any
space between its parts; the reader takes all such text back to the value (`ofText?_of_writes`), and
the writer over several lines makes such text (`writes_prettyAt_object`). Numbers and lists are left
out, since no result of an evaluation holds any. A string is read from every way in which its
characters can be spelled (`string?_of_spelled`), of which the writer takes one.
-/

namespace FieldRules.Json

/-! ### Text of values -/

/-- Nothing but space. -/
def Spaces (cs : List Char) : Prop := ∀ c ∈ cs, isSpace c = true

mutual

/-- The text stands for the value. -/
inductive Writes : Json → List Char → Prop
  | null : Writes .null "null".toList
  | yes : Writes (.bool true) "true".toList
  | no : Writes (.bool false) "false".toList
  | string (s : String) : Writes (.string (some s)) (Value.quoted s).toList
  | empty {sp : List Char} : Spaces sp → Writes (.object []) ('{' :: (sp ++ ['}']))
  | object {ms : List (Option String × Json)} {cs : List Char} : WritesMembers ms cs →
    Writes (.object ms) ('{' :: cs)

/-- A name in quotes, a colon, and text that stands for the value, with space around each. -/
inductive WritesMember : Option String × Json → List Char → Prop
  | mk {name : String} {x : Json} {a b c d cs : List Char} : Spaces a → Spaces b → Spaces c →
    Spaces d → Writes x cs →
    WritesMember (some name, x)
      (a ++ ((Value.quoted name).toList ++ (b ++ ':' :: (c ++ (cs ++ d)))))

/-- Members with commas between them and a brace after the last. -/
inductive WritesMembers : List (Option String × Json) → List Char → Prop
  | last {m : Option String × Json} {cs : List Char} : WritesMember m cs →
    WritesMembers [m] (cs ++ ['}'])
  | cons {m : Option String × Json} {ms : List (Option String × Json)} {cs ds : List Char} :
    WritesMember m cs → WritesMembers ms ds → WritesMembers (m :: ms) (cs ++ ',' :: ds)

end

/-! ### Spellings of strings -/

/-- Four hexadecimal digits that stand for a number. -/
inductive UnitText : Nat → List Char → Prop
  | mk {a b c d : Char} {i j k l : Nat} : Text.hexDigit? a = some i → Text.hexDigit? b = some j →
    Text.hexDigit? c = some k → Text.hexDigit? d = some l →
    UnitText (((i * 16 + j) * 16 + k) * 16 + l) ['\\', 'u', a, b, c, d]

/-- How a character may stand in a string. -/
inductive Spelling : Char → List Char → Prop
  | plain {c : Char} : ¬ c.toNat < 0x20 → c ≠ '"' → c ≠ '\\' → Spelling c [c]
  | short {e c : Char} : escaped? e = some c → Spelling c ['\\', e]
  | code {c : Char} {cs : List Char} : UnitText c.toNat cs → Spelling c cs
  | pair {c : Char} {high low : Nat} {cs ds : List Char} : UnitText high cs → UnitText low ds →
    isHigh high = true → isLow low = true →
    c.toNat = 0x10000 + (high - 0xD800) * 0x400 + (low - 0xDC00) → Spelling c (cs ++ ds)

/-- The text stands for the characters one after another. -/
inductive Spelled : List Char → List Char → Prop
  | nil : Spelled [] []
  | cons {c : Char} {s cs ds : List Char} : Spelling c cs → Spelled s ds →
    Spelled (c :: s) (cs ++ ds)

theorem hexDigit?_hexDigit : ∀ n < 16, Text.hexDigit? (Text.hexDigit n) = some n := by decide

theorem spelling_escape (c : Char) : Spelling c (Value.escape c) := by
  fun_cases Value.escape c with
  | case8 c _ _ _ _ _ _ _ hc =>
    have hhigh := hexDigit?_hexDigit (c.toNat / 16) (by omega)
    have hlow := hexDigit?_hexDigit (c.toNat % 16) (by omega)
    have hzero : Text.hexDigit? '0' = some 0 := by decide
    have hcode : ((0 * 16 + 0) * 16 + c.toNat / 16) * 16 + c.toNat % 16 = c.toNat := by omega
    have hunit := UnitText.mk hzero hzero hhigh hlow
    rw [hcode] at hunit
    exact .code hunit
  | case9 c hquote hslash _ _ _ _ _ hc => exact .plain hc hquote hslash
  | _ => exact .short rfl

theorem spelled_escape : ∀ s : List Char, Spelled s (s.flatMap Value.escape)
  | [] => .nil
  | c :: s => .cons (spelling_escape c) (spelled_escape s)

theorem toList_quoted (s : String) :
    (Value.quoted s).toList = '"' :: (s.toList.flatMap Value.escape ++ ['"']) := by
  simp [Value.quoted]

/-! ### Reading strings -/

theorem units?_backslash {e c : Char} (he : escaped? e = some c) (cs : List Char) :
    units? ('\\' :: e :: cs) = (units? cs).map fun r => (c.toNat :: r.1, r.2) := by
  rw [units?]
  · rw [he]
    cases units? cs <;> rfl
  · rintro a b c d rest rfl
    cases he

theorem units?_plain {c : Char} (hc : ¬ c.toNat < 0x20) (hquote : c ≠ '"') (hslash : c ≠ '\\')
    (cs : List Char) : units? (c :: cs) = (units? cs).map fun r => (c.toNat :: r.1, r.2) := by
  rw [units?]
  · rw [if_neg (by simp [hc, hslash])]
    cases units? cs <;> rfl
  · exact fun _ _ _ _ _ h _ => hslash h
  · exact fun _ _ h _ => hslash h
  · exact hquote

theorem units?_unitText {u : Nat} {cs : List Char} (h : UnitText u cs) (rest : List Char) :
    units? (cs ++ rest) = (units? rest).map fun r => (u :: r.1, r.2) := by
  obtain ⟨ha, hb, hc, hd⟩ := h
  simp only [List.cons_append, List.nil_append, units?, ha, hb, hc, hd, Option.bind_eq_bind,
    Option.bind_some]
  cases units? rest <;> rfl

/-- No character is half of a surrogate pair. -/
theorem not_surrogate (c : Char) : isHigh c.toNat = false ∧ isLow c.toNat = false := by
  have h : c.toNat < 0xD800 ∨ 0xDFFF < c.toNat ∧ c.toNat < 0x110000 := c.valid
  simp only [isHigh, isLow, Bool.and_eq_false_iff, decide_eq_false_iff_not]
  omega

theorem decode?_cons (c : Char) (us : List Nat) :
    decode? (c.toNat :: us) = (decode? us).map (c :: ·) := by
  obtain ⟨hhigh, hlow⟩ := not_surrogate c
  cases us with
  | nil => simp [decode?, hhigh, hlow]
  | cons u us => simp [decode?, hhigh, hlow]

/-- Units are read in place of the character, and decoded as the character. -/
structure StandsFor (us : List Nat) (c : Char) (cs : List Char) : Prop where
  read (rest : List Char) : units? (cs ++ rest) = (units? rest).map fun r => (us ++ r.1, r.2)
  decoded (vs : List Nat) : decode? (us ++ vs) = (decode? vs).map (c :: ·)

theorem exists_standsFor {c : Char} {cs : List Char} (h : Spelling c cs) :
    ∃ us, StandsFor us c cs := by
  cases h with
  | plain hlow hquote hslash =>
    exact ⟨[c.toNat], units?_plain hlow hquote hslash, decode?_cons c⟩
  | short he => exact ⟨[c.toNat], units?_backslash he, decode?_cons c⟩
  | code hunit => exact ⟨[c.toNat], units?_unitText hunit, decode?_cons c⟩
  | @pair _ high low cs ds hcs hds hhigh hlow hcode =>
    refine ⟨[high, low], fun rest => ?_, fun vs => ?_⟩
    · rw [List.append_assoc, units?_unitText hcs, units?_unitText hds]
      cases units? rest <;> rfl
    · simp [decode?, hhigh, hlow, ← hcode]

theorem exists_units_of_spelled {s cs : List Char} (h : Spelled s cs) (rest : List Char) :
    ∃ us, units? (cs ++ '"' :: rest) = some (us, rest) ∧ decode? us = some s := by
  induction h with
  | nil => exact ⟨[], by simp [units?], rfl⟩
  | cons hc _ ih =>
    obtain ⟨us, hread, hdecoded⟩ := exists_standsFor hc
    obtain ⟨vs, hvs, hs⟩ := ih
    refine ⟨us ++ vs, ?_, ?_⟩
    · rw [List.append_assoc, hread, hvs]
      rfl
    · rw [hdecoded, hs]
      rfl

/-- A string is read from any spelling, whatever follows it. -/
theorem string?_of_spelled {s : String} {cs : List Char} (h : Spelled s.toList cs)
    (rest : List Char) : string? (cs ++ '"' :: rest) = some (some s, rest) := by
  obtain ⟨us, hunits, hs⟩ := exists_units_of_spelled h rest
  rw [string?, hunits]
  simp [hs]

theorem string?_quoted (s : String) (rest : List Char) :
    string? (s.toList.flatMap Value.escape ++ '"' :: rest) = some (some s, rest) :=
  string?_of_spelled (spelled_escape s.toList) rest

/-! ### Reading values -/

theorem skipSpace_append {sp : List Char} (h : Spaces sp) (cs : List Char) :
    skipSpace (sp ++ cs) = skipSpace cs :=
  List.dropWhile_append_of_pos h

theorem skipSpace_cons {c : Char} (h : isSpace c = false) (cs : List Char) :
    skipSpace (c :: cs) = c :: cs := by
  rw [skipSpace, List.dropWhile_cons, h, if_neg Bool.false_ne_true]

theorem skipSpace_skipSpace (cs : List Char) : skipSpace (skipSpace cs) = skipSpace cs :=
  List.dropWhile_idempotent _ _

/-- Space in front of a value is not read. -/
theorem value?_skipSpace (n : Nat) (cs : List Char) : value? n (skipSpace cs) = value? n cs := by
  cases n with
  | zero => rfl
  | succ n => rw [value?, value?, skipSpace_skipSpace]

theorem value?_append_of_spaces {sp : List Char} (h : Spaces sp) (n : Nat) (cs : List Char) :
    value? n (sp ++ cs) = value? n cs := by
  rw [← value?_skipSpace, skipSpace_append h, value?_skipSpace]

/-- Space in front of members is not read. -/
theorem members?_skipSpace (n : Nat) (cs : List Char) :
    members? n (skipSpace cs) = members? n cs := by
  cases n with
  | zero => rfl
  | succ n => rw [members?, members?, skipSpace_skipSpace]

/-- No member begins with a closing brace. -/
theorem members?_brace (n : Nat) (cs : List Char) : members? n ('}' :: cs) = none := by
  cases n with
  | zero => rfl
  | succ n =>
    rw [members?, skipSpace_cons (by decide)]
    rfl

theorem value?_string {s : Option String} {cs rest : List Char} (h : string? cs = some (s, rest))
    (n : Nat) : value? (n + 1) ('"' :: cs) = some (.string s, rest) := by
  rw [value?, skipSpace_cons (by decide)]
  simp only [h, Option.bind_eq_bind, Option.bind_some]

theorem value?_empty {sp : List Char} (h : Spaces sp) (n : Nat) (rest : List Char) :
    value? (n + 1) ('{' :: (sp ++ '}' :: rest)) = some (.object [], rest) := by
  have hbrace : isSpace '}' = false := by decide
  rw [value?, skipSpace_cons (by decide)]
  simp only [skipSpace_append h, skipSpace_cons hbrace]

theorem value?_members {n : Nat} {ms : List (Option String × Json)} {cs rest : List Char}
    (h : members? n cs = some (ms, rest)) :
    value? (n + 1) ('{' :: cs) = some (.object ms, rest) := by
  rw [← members?_skipSpace] at h
  rw [value?, skipSpace_cons (by decide)]
  simp only
  -- the reader skips space to see whether the object ends, which it does not where members are read
  split
  · next heq =>
    rw [heq, members?_brace] at h
    cases h
  · rw [h]
    rfl

/-- One member is read up to the brace or the comma behind it. -/
theorem members?_member {n : Nat} {name : String} {x : Json} {a b c d cs ns : List Char}
    (hname : ∀ rest, string? (ns ++ '"' :: rest) = some (some name, rest)) (ha : Spaces a)
    (hb : Spaces b) (hc : Spaces c) (hd : Spaces d)
    (hx : ∀ rest, value? n (cs ++ rest) = some (x, rest)) (rest : List Char) :
    let member := a ++ ('"' :: (ns ++ ['"']) ++ (b ++ ':' :: (c ++ (cs ++ d))))
    members? (n + 1) (member ++ '}' :: rest) = some ([(some name, x)], rest) ∧
      members? (n + 1) (member ++ ',' :: rest) =
        (members? n rest).map fun r => ((some name, x) :: r.1, r.2) := by
  have hquote : isSpace '"' = false := by decide
  have hcolon : isSpace ':' = false := by decide
  have hbrace : isSpace '}' = false := by decide
  have hcomma : isSpace ',' = false := by decide
  refine ⟨?_, ?_⟩ <;> rw [members?] <;>
    simp only [List.append_assoc, List.cons_append, List.nil_append, skipSpace_append ha,
      skipSpace_cons hquote, hname, skipSpace_append hb, skipSpace_cons hcolon,
      value?_append_of_spaces hc, hx, skipSpace_append hd, skipSpace_cons hbrace,
      skipSpace_cons hcomma, Option.bind_eq_bind, Option.bind_some]
  cases members? n rest <;> rfl

mutual

/-- Text that stands for a value is read as the value, whatever follows it. -/
theorem value?_of_writes : ∀ {n : Nat} {x : Json} {cs : List Char}, Writes x cs →
    cs.length < n → ∀ rest, value? n (cs ++ rest) = some (x, rest)
  | n + 1, _, _, .null, _, rest => rfl
  | n + 1, _, _, .yes, _, rest => rfl
  | n + 1, _, _, .no, _, rest => rfl
  | n + 1, _, _, .string s, _, rest => by
    rw [toList_quoted, List.cons_append, List.append_assoc]
    exact value?_string (string?_quoted s rest) n
  | n + 1, _, _, .empty hsp, _, rest => by
    rw [List.cons_append, List.append_assoc]
    exact value?_empty hsp n rest
  | n + 1, _, _, .object hms, hn, rest =>
    value?_members (members?_of_writes hms (by simpa using hn) rest)

/-- Text that stands for members is read as the members, whatever follows it. -/
theorem members?_of_writes : ∀ {n : Nat} {ms : List (Option String × Json)} {cs : List Char},
    WritesMembers ms cs → cs.length < n → ∀ rest, members? n (cs ++ rest) = some (ms, rest)
  | n + 1, _, _, .last (.mk ha hb hc hd hx), hn, rest => by
    have ih := fun rest => value?_of_writes hx (n := n) (by simp at hn; omega) rest
    rw [List.append_assoc, toList_quoted]
    exact (members?_member (string?_quoted _) ha hb hc hd ih rest).1
  | n + 1, _, _, .cons (.mk ha hb hc hd hx) hms, hn, rest => by
    have ih := fun rest => value?_of_writes hx (n := n) (by simp at hn; omega) rest
    have ih' := members?_of_writes hms (n := n) (by simp at hn; omega) rest
    rw [List.append_assoc, List.cons_append, toList_quoted,
      (members?_member (string?_quoted _) ha hb hc hd ih _).2, ih', Option.map_some]

end

/-- A text that is read whatever follows it is read with space around it. -/
theorem ofText?_of_value? {x : Json} {a cs b : List Char} {s : String}
    (h : ∀ n, cs.length < n → ∀ rest, value? n (cs ++ rest) = some (x, rest)) (ha : Spaces a)
    (hb : Spaces b) (hs : s.toList = a ++ (cs ++ b)) : ofText? s = some x := by
  have hread : value? (2 * s.toList.length + 2) s.toList = some (x, b) := by
    rw [hs, value?_append_of_spaces ha]
    exact h _ (by simp; omega) b
  have hnone : skipSpace b = [] := List.dropWhile_eq_nil_iff.mpr hb
  simp only [ofText?, ofChars?, hread, hnone, Option.bind_eq_bind, Option.bind_some, if_true]

/-- A text that stands for a value, with space around it, is read as the value. -/
theorem ofText?_of_writes {x : Json} {a cs b : List Char} {s : String} (h : Writes x cs)
    (ha : Spaces a) (hb : Spaces b) (hs : s.toList = a ++ (cs ++ b)) : ofText? s = some x :=
  ofText?_of_value? (fun _ hn => value?_of_writes h hn) ha hb hs

/-! ### Writing members -/

theorem spaces_nil : Spaces [] := by simp [Spaces]

theorem spaces_empty : Spaces "".toList := by simp [Spaces]

theorem spaces_blank : Spaces [' '] := by simp [Spaces, isSpace]

theorem spaces_newline : Spaces ['\n'] := by simp [Spaces, isSpace]

theorem spaces_two : Spaces "  ".toList := by simp [Spaces, isSpace]

theorem spaces_append {a b : List Char} (ha : Spaces a) (hb : Spaces b) : Spaces (a ++ b) :=
  List.forall_mem_append.mpr ⟨ha, hb⟩

/-- The text stands for the member, whatever space is put around it. -/
def WritesPart (part : String) (j : Option String × Json) : Prop :=
  ∀ a b, Spaces a → Spaces b → WritesMember j (a ++ (part.toList ++ b))

theorem writesPart_of_writes {name colon text : String} {x : Json} {sp : List Char}
    (hcolon : colon.toList = ':' :: sp) (hsp : Spaces sp) (hx : Writes x text.toList) :
    WritesPart (Value.quoted name ++ colon ++ text) (some name, x) := by
  intro a b ha hb
  have h : WritesMember (some name, x)
      (a ++ ((Value.quoted name).toList ++ ([] ++ ':' :: (sp ++ (text.toList ++ b))))) :=
    .mk ha spaces_nil hsp hb hx
  simpa [hcolon] using h

theorem WritesPart.indented {indent part : String} {j : Option String × Json}
    (hindent : Spaces indent.toList) (h : WritesPart part j) : WritesPart (indent ++ part) j := by
  intro a b ha hb
  have hpart := h (a ++ indent.toList) b (spaces_append ha hindent) hb
  simpa using hpart

/-- Parts that are joined by commas stand for the members, with space in front of the first and a
brace behind the last. -/
theorem writesMembers_joined {sep : String} {sp close : List Char} (hsep : sep.toList = ',' :: sp)
    (hsp : Spaces sp) (hclose : Spaces close) {parts : List String}
    {js : List (Option String × Json)} (h : List.Forall₂ WritesPart parts js) :
    ∀ {a : List Char}, Spaces a → parts ≠ [] →
      WritesMembers js (a ++ ((Text.joined sep parts).toList ++ (close ++ ['}']))) := by
  induction h with
  | nil => exact fun _ hne => absurd rfl hne
  | @cons part j parts js hpart hrest ih =>
    intro a ha _
    cases hrest with
    | nil =>
      have hlast := WritesMembers.last (hpart a close ha hclose)
      simpa [Text.joined] using hlast
    | cons hnext hrest =>
      -- the comma ends this part, and the next one starts after the space behind it
      have hcons := WritesMembers.cons (hpart a [] ha spaces_nil) (ih hsp (List.cons_ne_nil _ _))
      simpa [Text.toList_joined_cons, hsep] using hcons

/-! ### Writing over several lines -/

/-- A member of an object, written at an indent, stands for a named value. -/
def Stands (indent : String) (m : String × Value) (j : Option String × Json) : Prop :=
  j.1 = some m.1 ∧ Writes j.2 (Value.prettyAt indent m.2).toList

theorem forall₂_writesPart_pretty {indent : String} {members : List (String × Value)}
    {js : List (Option String × Json)} (h : List.Forall₂ (Stands indent) members js) :
    List.Forall₂ WritesPart (Value.prettyMembers indent members) js := by
  induction h with
  | nil => exact .nil
  | @cons m j members js hm _ ih =>
    obtain ⟨n, v⟩ := m
    obtain ⟨_, x⟩ := j
    obtain ⟨rfl, hx⟩ := hm
    exact .cons (writesPart_of_writes (by simp) spaces_blank hx) ih

/-- An object written over several lines stands for the object of what its members stand for. -/
theorem writes_prettyAt_object {indent : String} (hindent : Spaces indent.toList)
    {members : List (String × Value)} {js : List (Option String × Json)}
    (h : List.Forall₂ (Stands (indent ++ "  ")) members js) :
    Writes (.object js) (Value.prettyAt indent (.object members)).toList := by
  have hinner : Spaces (indent ++ "  ").toList := by
    rw [String.toList_append]
    exact spaces_append hindent spaces_two
  have hlines : List.Forall₂ WritesPart
      ((Value.prettyMembers (indent ++ "  ") members).map (indent ++ "  " ++ ·)) js :=
    List.forall₂_map_left_iff.mpr
      ((forall₂_writesPart_pretty h).imp fun _ _ hpart => hpart.indented hinner)
  rw [Value.prettyAt, Value.block]
  cases h with
  | nil =>
    rw [Value.prettyMembers, if_pos rfl]
    exact .empty spaces_nil
  | @cons m j members js hm hrest =>
    have hbreak : ",\n".toList = ',' :: ['\n'] := by simp
    have hmembers := writesMembers_joined hbreak spaces_newline
      (spaces_append spaces_newline hindent) hlines spaces_newline (by simp [Value.prettyMembers])
    rw [if_neg (by simp [Value.prettyMembers])]
    simpa using Writes.object hmembers

/-! ### Results -/

/-- A message, or `null` for none. -/
def ofMessage : Option String → Json
  | some message => .string (some message)
  | none => .null

def ofErrors (errors : RemoteErrors) : Json :=
  .object (errors.entries.map fun e => (some e.1, ofMessage e.2))

def ofVerdict (v : Verdict) : Json :=
  .object [(some "valid", .bool v.valid), (some "errors", ofErrors v.errors)]

theorem writes_valueOf (indent : String) (message : Option String) :
    Writes (ofMessage message) (Value.prettyAt indent (RemoteErrors.valueOf message)).toList := by
  cases message with
  | none => exact .null
  | some m => exact .string m

theorem writes_errors {indent : String} (hindent : Spaces indent.toList) (errors : RemoteErrors) :
    Writes (ofErrors errors) (Value.prettyAt indent (RemoteErrors.toValue errors)).toList := by
  refine writes_prettyAt_object hindent ?_
  rw [List.forall₂_map_left_iff, List.forall₂_map_right_iff, List.forall₂_same]
  exact fun e _ => ⟨rfl, writes_valueOf _ e.2⟩

theorem writes_verdict (v : Verdict) : Writes (ofVerdict v) v.toValue.pretty.toList := by
  have hvalid : Writes (.bool v.valid) (Value.prettyAt "  " (.bool v.valid)).toList := by
    cases v.valid with
    | true => exact .yes
    | false => exact .no
  have herrors : Writes (ofErrors v.errors)
      (Value.prettyAt "  " (RemoteErrors.toValue v.errors)).toList :=
    writes_errors spaces_two v.errors
  exact writes_prettyAt_object spaces_empty (.cons ⟨rfl, hvalid⟩ (.cons ⟨rfl, herrors⟩ .nil))

end FieldRules.Json
