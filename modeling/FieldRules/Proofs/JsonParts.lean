import FieldRules.Proofs.JsonText
import Mathlib.Data.List.TakeDrop
/-!
JSON text that is put together from parts. `Quotes` says which text stands for a string, in any
spelling; `Brackets` and `Braces` make lists and objects from the text of their items, with any
space between them. What is read of the parts is read of the whole (`reads_brackets`,
`reads_braces`).
-/

namespace FieldRules.Json

/-! ### Text of parts -/

/-- A string in quotes. -/
inductive Quotes : String → List Char → Prop
  | mk {s : String} {cs : List Char} : Spelled s.toList cs → Quotes s ('"' :: (cs ++ ['"']))

theorem quotes_quoted (s : String) : Quotes s (Value.quoted s).toList := by
  rw [toList_quoted]
  exact .mk (spelled_escape s.toList)

variable {α β : Type} {part : α → List Char → Prop}

/-- Text of one part after another, with commas between them and `close` behind the last. -/
inductive Listed (part : α → List Char → Prop) (close : Char) : List α → List Char → Prop
  | last {x : α} {cs : List Char} : part x cs → Listed part close [x] (cs ++ [close])
  | cons {x : α} {xs : List α} {cs ds : List Char} : part x cs → Listed part close xs ds →
    Listed part close (x :: xs) (cs ++ ',' :: ds)

/-- A part with space around it. -/
inductive Padded (part : α → List Char → Prop) : α → List Char → Prop
  | mk {x : α} {a b cs : List Char} : Spaces a → Spaces b → part x cs →
    Padded part x (a ++ (cs ++ b))

/-- A name in quotes, a colon and a part, with space around each. -/
inductive Named (part : α → List Char → Prop) : String × α → List Char → Prop
  | mk {name : String} {x : α} {a b c d cs ds : List Char} : Spaces a → Quotes name cs →
    Spaces b → Spaces c → part x ds → Spaces d →
    Named part (name, x) (a ++ (cs ++ (b ++ ':' :: (c ++ (ds ++ d)))))

/-- Items of a list. -/
inductive Brackets (part : α → List Char → Prop) : List α → List Char → Prop
  | empty {sp : List Char} : Spaces sp → Brackets part [] ('[' :: (sp ++ [']']))
  | items {xs : List α} {cs : List Char} : Listed (Padded part) ']' xs cs →
    Brackets part xs ('[' :: cs)

/-- Members of an object. -/
inductive Braces (part : α → List Char → Prop) : List (String × α) → List Char → Prop
  | empty {sp : List Char} : Spaces sp → Braces part [] ('{' :: (sp ++ ['}']))
  | members {xs : List (String × α)} {cs : List Char} : Listed (Named part) '}' xs cs →
    Braces part xs ('{' :: cs)

/-- A reader that takes one part up to `close` or up to the comma before the next ones takes them
all. -/
theorem read_listed (f : α → β) {close : Char}
    {read : Nat → List Char → Option (List β × List Char)}
    (hpart : ∀ n x cs, part x cs → cs.length < n → ∀ rest,
      read (n + 1) (cs ++ close :: rest) = some ([f x], rest) ∧
      read (n + 1) (cs ++ ',' :: rest) = (read n rest).map fun r => (f x :: r.1, r.2))
    {xs : List α} {cs : List Char} (h : Listed part close xs cs) :
    ∀ {n}, cs.length < n → ∀ rest, read n (cs ++ rest) = some (xs.map f, rest) := by
  induction h with
  | last hx =>
    intro n hn rest
    obtain ⟨n, rfl⟩ := Nat.exists_eq_add_one_of_ne_zero (Nat.ne_zero_of_lt hn)
    rw [List.length_append, List.length_singleton, Nat.add_lt_add_iff_right] at hn
    rw [List.append_assoc]
    exact (hpart _ _ _ hx hn rest).1
  | @cons x xs cs ds hx _ ih =>
    intro n hn rest
    obtain ⟨n, rfl⟩ := Nat.exists_eq_add_one_of_ne_zero (Nat.ne_zero_of_lt hn)
    rw [List.length_append, List.length_cons] at hn
    rw [List.append_assoc, List.cons_append, (hpart _ _ _ hx (by omega) _).2, ih (by omega)]
    rfl

/-! ### Reading -/

/-- Text that stands for something is read as `f` says, whatever follows it. -/
def Reads (part : α → List Char → Prop) (f : α → Json) : Prop :=
  ∀ n x cs, part x cs → cs.length < n → ∀ rest,
    value? n (cs ++ rest) = some (f x, rest)

theorem reads_quotes : Reads Quotes fun s => .string (some s) := by
  rintro (_ | n) s _ ⟨hs⟩ hn rest
  · cases hn
  · rw [List.cons_append, List.append_assoc]
    exact value?_string (string?_of_spelled hs rest) n

/-- No item begins with a closing bracket. -/
theorem items?_bracket (n : Nat) (cs : List Char) : items? n (']' :: cs) = none := by
  have hspace : skipSpace (']' :: cs) = ']' :: cs := skipSpace_cons (by decide) cs
  have hdigits : spanDigits (']' :: cs) = ([], ']' :: cs) := by
    rw [spanDigits, List.span_eq_takeWhile_dropWhile]
    rfl
  have hvalue : ∀ n, value? n (']' :: cs) = none := by
    rintro (_ | n)
    · rfl
    · simp [value?, hspace, literal?, hdigits]
  cases n with
  | zero => rfl
  | succ n =>
    rw [items?, hvalue]
    rfl

/-- Space in front of items is not read. -/
theorem items?_skipSpace (n : Nat) (cs : List Char) : items? n (skipSpace cs) = items? n cs := by
  cases n with
  | zero => rfl
  | succ n => rw [items?, items?, value?_skipSpace]

variable {g : α → Json}

theorem items?_item (h : Reads part g) {n : Nat} {x : α} {cs : List Char} (hx : Padded part x cs)
    (hn : cs.length < n) (rest : List Char) :
    items? (n + 1) (cs ++ ']' :: rest) = some ([g x], rest) ∧
      items? (n + 1) (cs ++ ',' :: rest) = (items? n rest).map fun r => (g x :: r.1, r.2) := by
  obtain ⟨ha, hb, hx⟩ := hx
  simp only [List.length_append] at hn
  have hvalue := h n _ _ hx (by omega)
  have hbracket : isSpace ']' = false := by decide
  have hcomma : isSpace ',' = false := by decide
  refine ⟨?_, ?_⟩ <;> rw [items?] <;>
    simp only [List.append_assoc, value?_append_of_spaces ha, hvalue, skipSpace_append hb,
      skipSpace_cons hbracket, skipSpace_cons hcomma, Option.bind_eq_bind, Option.bind_some]
  cases items? n rest <;> rfl

theorem members?_named (h : Reads part g) {n : Nat} {e : String × α} {cs : List Char}
    (he : Named part e cs) (hn : cs.length < n) (rest : List Char) :
    members? (n + 1) (cs ++ '}' :: rest) = some ([(some e.1, g e.2)], rest) ∧
      members? (n + 1) (cs ++ ',' :: rest) =
        (members? n rest).map fun r => ((some e.1, g e.2) :: r.1, r.2) := by
  obtain ⟨ha, ⟨hname⟩, hb, hc, hx, hd⟩ := he
  simp only [List.length_append, List.length_cons] at hn
  exact members?_member (string?_of_spelled hname) ha hb hc hd (h _ _ _ hx (by omega)) rest

theorem value?_items {n : Nat} {xs : List Json} {cs rest : List Char}
    (h : items? n cs = some (xs, rest)) : value? (n + 1) ('[' :: cs) = some (.list xs, rest) := by
  rw [← items?_skipSpace] at h
  rw [value?, skipSpace_cons (by decide)]
  simp only
  split
  · next heq =>
    rw [heq, items?_bracket] at h
    cases h
  · rw [h]
    rfl

theorem reads_brackets (h : Reads part g) : Reads (Brackets part) fun xs => .list (xs.map g) := by
  rintro (_ | n) xs _ hxs hn rest
  · cases hn
  · cases hxs with
    | empty hsp =>
      have hbracket : isSpace ']' = false := by decide
      rw [value?, List.cons_append, skipSpace_cons (by decide), List.append_assoc]
      simp only [List.cons_append, List.nil_append, skipSpace_append hsp, skipSpace_cons hbracket,
        List.map_nil]
    | items hxs =>
      exact value?_items (read_listed g (fun _ _ _ => items?_item h) hxs (by simpa using hn) rest)

theorem reads_braces (h : Reads part g) :
    Reads (Braces part) fun xs => .object (xs.map fun e => (some e.1, g e.2)) := by
  rintro (_ | n) xs _ hxs hn rest
  · cases hn
  · cases hxs with
    | empty hsp =>
      rw [List.cons_append, List.append_assoc]
      exact value?_empty hsp n rest
    | members hxs =>
      exact value?_members (read_listed (fun e : String × α => (some e.1, g e.2))
        (fun _ _ _ => members?_named h) hxs (by simpa using hn) rest)

/-- A whole text is read, with space around it. -/
theorem ofText?_of_padded (h : Reads part g) {x : α} {s : String} (hs : Padded part x s.toList) :
    ofText? s = some (g x) := by
  generalize hchars : s.toList = chars at hs
  obtain ⟨ha, hb, hx⟩ := hs
  exact ofText?_of_value? (fun n hn => h n _ _ hx hn) ha hb hchars

end FieldRules.Json
