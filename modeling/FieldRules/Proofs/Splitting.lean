import Mathlib.Data.List.TakeWhile
import FieldRules.Text.Blank
import FieldRules.Text.Pieces
/-!
Cutting and trimming. Cutting distributes over text that is put together with a separator
(`split_append_sep`), and every text is put together so from pieces without one (`sepInduction`).
Trimming takes off exactly the blank padding (`exists_padding`, `trim_padding`).
-/

namespace FieldRules.Text

/-! ### Separators -/

section Separators

variable {sep : Char}

theorem split_cons_self (cs : List Char) : split sep (sep :: cs) = [] :: split sep cs := by
  simp [split, pieces]

theorem split_cons_of_ne {c : Char} (h : c ≠ sep) (cs : List Char) :
    split sep (c :: cs) = (c :: (pieces sep cs).1) :: (pieces sep cs).2 := by
  simp [split, pieces, h]

/-- The pieces of two texts with a separator between them are the pieces of both. -/
theorem split_append_sep : ∀ a b : List Char,
    split sep (a ++ sep :: b) = split sep a ++ split sep b
  | [], b => split_cons_self b
  | c :: a, b => by
    have ih := split_append_sep a b
    by_cases hc : c = sep
    · subst hc
      rw [List.cons_append, split_cons_self, split_cons_self, ih, List.cons_append]
    · rw [split, split, List.cons_append, List.cons.injEq] at ih
      rw [List.cons_append, split_cons_of_ne hc, split_cons_of_ne hc, ih.1, ih.2, List.cons_append]

theorem split_of_not_mem : ∀ {a : List Char}, sep ∉ a → split sep a = [a]
  | [], _ => rfl
  | c :: a, h => by
    rw [List.mem_cons, not_or] at h
    have ih := split_of_not_mem h.2
    rw [split, List.cons.injEq] at ih
    rw [split_cons_of_ne (Ne.symm h.1), ih.1, ih.2]

/-- Every text is free of the separator, or begins with such a text and the separator. -/
theorem sepInduction {P : List Char → Prop} (sep : Char) (last : ∀ a, sep ∉ a → P a)
    (cut : ∀ a b, sep ∉ a → P b → P (a ++ sep :: b)) (cs : List Char) : P cs := by
  -- the part in front of the first separator grows while the text is walked through
  suffices h : ∀ (rest a : List Char), sep ∉ a → P (a ++ rest) from h cs [] List.not_mem_nil
  intro rest
  induction rest with
  | nil =>
    intro a ha
    rw [List.append_nil]
    exact last a ha
  | cons c rest ih =>
    intro a ha
    by_cases hc : c = sep
    · subst hc
      exact cut a rest ha (ih [] List.not_mem_nil)
    · have hac : sep ∉ a ++ [c] := by simp [ha, Ne.symm hc]
      simpa using ih (a ++ [c]) hac

theorem not_mem_of_mem_split {cs : List Char} : ∀ p ∈ split sep cs, sep ∉ p := by
  induction cs using sepInduction sep with
  | last a ha =>
    intro p hp
    rw [split_of_not_mem ha, List.mem_singleton] at hp
    exact hp ▸ ha
  | cut a b ha ih =>
    intro p hp
    rw [split_append_sep, split_of_not_mem ha, List.singleton_append, List.mem_cons] at hp
    rcases hp with rfl | hp
    · exact ha
    · exact ih p hp

theorem mem_of_mem_split {cs p : List Char} {c : Char} (hp : p ∈ split sep cs) (hc : c ∈ p) :
    c ∈ cs := by
  induction cs using sepInduction sep with
  | last a ha =>
    rw [split_of_not_mem ha, List.mem_singleton] at hp
    exact hp ▸ hc
  | cut a b ha ih =>
    rw [split_append_sep, split_of_not_mem ha, List.singleton_append, List.mem_cons] at hp
    rcases hp with rfl | hp
    · exact List.mem_append_left _ hc
    · exact List.mem_append_right _ (List.mem_cons_of_mem _ (ih hp))

/-- A single piece is the whole text. -/
theorem eq_of_split_eq_singleton {cs p : List Char} (h : split sep cs = [p]) : cs = p := by
  induction cs using sepInduction sep with
  | last a ha =>
    rw [split_of_not_mem ha] at h
    exact List.singleton_inj.mp h
  | cut a b ha =>
    rw [split_append_sep, split_of_not_mem ha, List.singleton_append, split] at h
    cases h

theorem splitOnce_of_not_mem : ∀ {a : List Char}, sep ∉ a → splitOnce sep a = none
  | [], _ => rfl
  | c :: a, h => by
    rw [List.mem_cons, not_or] at h
    rw [splitOnce, if_neg (Ne.symm h.1), splitOnce_of_not_mem h.2, Option.map_none]

theorem splitOnce_append_sep : ∀ {a : List Char}, sep ∉ a → ∀ b,
    splitOnce sep (a ++ sep :: b) = some (a, b)
  | [], _, b => by simp [splitOnce]
  | c :: a, h, b => by
    rw [List.mem_cons, not_or] at h
    rw [List.cons_append, splitOnce, if_neg (Ne.symm h.1), splitOnce_append_sep h.2 b,
      Option.map_some]

theorem not_mem_of_splitOnce_eq_none {cs : List Char} (h : splitOnce sep cs = none) : sep ∉ cs := by
  induction cs using sepInduction sep with
  | last a ha => exact ha
  | cut a b ha =>
    rw [splitOnce_append_sep ha] at h
    cases h

theorem eq_append_of_splitOnce_eq_some {cs a b : List Char} (h : splitOnce sep cs = some (a, b)) :
    cs = a ++ sep :: b ∧ sep ∉ a := by
  induction cs using sepInduction sep with
  | last c hc =>
    rw [splitOnce_of_not_mem hc] at h
    cases h
  | cut c d hc =>
    rw [splitOnce_append_sep hc] at h
    cases h
    exact ⟨rfl, hc⟩

end Separators

/-- Joined text is the first piece, the separator and the other pieces joined. -/
theorem toList_joined_cons (sep s t : String) (rest : List String) :
    (joined sep (s :: t :: rest)).toList =
      s.toList ++ (sep.toList ++ (joined sep (t :: rest)).toList) := by
  rw [joined, String.toList_append, String.toList_append, List.append_assoc]

/-- Joining undoes cutting. -/
theorem toList_joined_split {sep : Char} {s : String} (hs : s.toList = [sep]) (cs : List Char) :
    (joined s ((split sep cs).map String.ofList)).toList = cs := by
  induction cs using sepInduction sep with
  | last a ha => rw [split_of_not_mem ha, List.map_singleton, joined, String.toList_ofList]
  | cut a b ha ih =>
    rw [split_append_sep, split_of_not_mem ha, List.map_append, List.map_singleton]
    rw [split, List.map_cons] at ih ⊢
    rw [List.singleton_append, toList_joined_cons, ih, hs, String.toList_ofList,
      List.singleton_append]

/-! ### Blank padding -/

theorem allBlank_iff {cs : List Char} : allBlank cs = true ↔ ∀ c ∈ cs, isBlank c = true := by
  rw [allBlank, List.all_eq_true]

theorem allBlank_append {l r : List Char} :
    allBlank (l ++ r) = true ↔ allBlank l = true ∧ allBlank r = true := by
  rw [allBlank, List.all_append, Bool.and_eq_true]
  rfl

theorem not_mem_of_allBlank {cs : List Char} {c : Char} (hc : isBlank c = false)
    (h : allBlank cs = true) : c ∉ cs := by
  intro hmem
  rw [allBlank_iff.mp h c hmem] at hc
  cases hc

theorem toNat_of_isDigit {c : Char} (h : c.isDigit = true) : 48 ≤ c.toNat ∧ c.toNat ≤ 57 := by
  simpa [Char.isDigit, UInt32.le_iff_toNat_le] using h

/-- The visible characters of ASCII are not blank. -/
theorem isBlank_of_toNat {c : Char} (hlow : 33 ≤ c.toNat) (hhigh : c.toNat ≤ 126) :
    isBlank c = false := by
  simp only [isBlank, Bool.or_eq_false_iff, Bool.and_eq_false_iff, decide_eq_false_iff_not,
    beq_eq_false_iff_ne]
  omega

theorem isBlank_of_isDigit {c : Char} (h : c.isDigit = true) : isBlank c = false := by
  obtain ⟨hlow, hhigh⟩ := toNat_of_isDigit h
  exact isBlank_of_toNat (Nat.le_trans (by decide) hlow) (Nat.le_trans hhigh (by decide))

theorem trimStart_cons {c : Char} (h : isBlank c = false) (cs : List Char) :
    trimStart (c :: cs) = c :: cs :=
  List.dropWhile_cons_of_neg (by rw [h]; exact Bool.false_ne_true)

theorem trimStart_append_of_allBlank {l : List Char} (hl : allBlank l = true) (x : List Char) :
    trimStart (l ++ x) = trimStart x :=
  List.dropWhile_append_of_pos (allBlank_iff.mp hl)

theorem trimEnd_append_of_allBlank {r : List Char} (hr : allBlank r = true) (x : List Char) :
    trimEnd (x ++ r) = trimEnd x := by
  have hrev : ∀ c ∈ r.reverse, isBlank c = true :=
    fun c hc => allBlank_iff.mp hr c (List.mem_reverse.mp hc)
  rw [trimEnd, List.reverse_append, List.dropWhile_append_of_pos hrev, trimEnd]

theorem exists_trimStart (cs : List Char) : ∃ l, allBlank l = true ∧ cs = l ++ trimStart cs :=
  ⟨cs.takeWhile isBlank, List.all_takeWhile, List.takeWhile_append_dropWhile.symm⟩

theorem exists_trimEnd (cs : List Char) : ∃ r, allBlank r = true ∧ cs = trimEnd cs ++ r := by
  obtain ⟨l, hl, hcs⟩ := exists_trimStart cs.reverse
  refine ⟨l.reverse, ?_, ?_⟩
  · rw [allBlank_iff] at hl ⊢
    exact fun c hc => hl c (List.mem_reverse.mp hc)
  · rw [trimEnd, ← List.reverse_append, ← trimStart, ← hcs, List.reverse_reverse]

/-- Trimming takes off blank characters at both ends. -/
theorem exists_padding (cs : List Char) :
    ∃ l r, allBlank l = true ∧ allBlank r = true ∧ cs = l ++ trim cs ++ r := by
  obtain ⟨l, hl, hcs⟩ := exists_trimStart cs
  obtain ⟨r, hr, hmid⟩ := exists_trimEnd (trimStart cs)
  refine ⟨l, r, hl, hr, ?_⟩
  rw [trim, List.append_assoc, ← hmid, ← hcs]

theorem trimStart_eq_nil_iff {cs : List Char} : trimStart cs = [] ↔ allBlank cs = true := by
  rw [trimStart, List.dropWhile_eq_nil_iff, allBlank_iff]

theorem trim_eq_nil_iff {cs : List Char} : trim cs = [] ↔ allBlank cs = true := by
  constructor
  · intro h
    obtain ⟨l, r, hl, hr, hcs⟩ := exists_padding cs
    rw [h, List.append_nil] at hcs
    rw [hcs, allBlank_append]
    exact ⟨hl, hr⟩
  · intro h
    rw [trim, trimStart_eq_nil_iff.mpr h]
    rfl

/-- Blank characters at both ends do not matter. -/
theorem trim_padding {l r : List Char} (hl : allBlank l = true) (hr : allBlank r = true)
    (x : List Char) : trim (l ++ x ++ r) = trim x := by
  by_cases hx : allBlank x = true
  · rw [trim_eq_nil_iff.mpr hx, trim_eq_nil_iff, allBlank_append, allBlank_append]
    exact ⟨⟨hl, hx⟩, hr⟩
  · have hstart : trimStart (x ++ r) = trimStart x ++ r := by
      rw [trimStart, List.dropWhile_append, ← trimStart, if_neg]
      rwa [List.isEmpty_iff, trimStart_eq_nil_iff]
    rw [List.append_assoc, trim, trimStart_append_of_allBlank hl, hstart,
      trimEnd_append_of_allBlank hr, trim]

theorem trim_trim (cs : List Char) : trim (trim cs) = trim cs := by
  obtain ⟨l, r, hl, hr, hcs⟩ := exists_padding cs
  conv => rhs; rw [hcs, trim_padding hl hr]

theorem mem_of_mem_trim {cs : List Char} {c : Char} (h : c ∈ trim cs) : c ∈ cs := by
  obtain ⟨l, r, -, -, hcs⟩ := exists_padding cs
  rw [hcs]
  exact List.mem_append_left _ (List.mem_append_right _ h)

theorem length_trim_le (cs : List Char) : (trim cs).length ≤ cs.length := by
  obtain ⟨l, r, -, -, hcs⟩ := exists_padding cs
  rw [congrArg List.length hcs]
  simp only [List.length_append]
  omega

/-- Trimming leaves a text alone exactly if no blank character stands at either end. -/
theorem trim_eq_self_iff {cs : List Char} :
    trim cs = cs ↔ (∀ c, cs.head? = some c → isBlank c = false) ∧
      ∀ c, cs.getLast? = some c → isBlank c = false := by
  constructor
  · intro h
    constructor <;> intro c hc <;> by_contra hblank <;> rw [Bool.not_eq_false] at hblank
    · obtain ⟨rest, rfl⟩ := List.head?_eq_some_iff.mp hc
      have htrim : trim ([c] ++ rest ++ []) = trim rest :=
        trim_padding (by simp [allBlank, hblank]) rfl rest
      have hlen := length_trim_le rest
      rw [List.append_nil, List.singleton_append, h] at htrim
      rw [← htrim, List.length_cons] at hlen
      omega
    · obtain ⟨rest, rfl⟩ := List.getLast?_eq_some_iff.mp hc
      have htrim : trim ([] ++ rest ++ [c]) = trim rest :=
        trim_padding rfl (by simp [allBlank, hblank]) rest
      have hlen := length_trim_le rest
      rw [List.nil_append, h] at htrim
      rw [← htrim, List.length_append, List.length_singleton] at hlen
      omega
  · rintro ⟨hhead, hlast⟩
    obtain ⟨l, r, hl, hr, hcs⟩ := exists_padding cs
    have hnil : l = [] := by
      cases l with
      | nil => rfl
      | cons c l =>
        have hc := allBlank_iff.mp hl c List.mem_cons_self
        rw [hhead c (by rw [hcs]; rfl)] at hc
        cases hc
    have hnil' : r = [] := by
      rcases List.eq_nil_or_concat r with rfl | ⟨r, c, rfl⟩
      · rfl
      · rw [List.concat_eq_append] at hr hcs
        have hc := allBlank_iff.mp hr c (by simp)
        rw [hlast c (by rw [hcs, ← List.append_assoc]; exact List.getLast?_concat)] at hc
        cases hc
    rw [hnil, hnil', List.nil_append, List.append_nil] at hcs
    exact hcs.symm

theorem trim_eq_self_of_forall {cs : List Char} (h : ∀ c ∈ cs, isBlank c = false) :
    trim cs = cs :=
  trim_eq_self_iff.mpr
    ⟨fun c hc => h c (List.mem_of_head? hc), fun c hc => h c (List.mem_of_getLast? hc)⟩

/-- A text that begins with a word and ends with a word has no padding. -/
theorem trim_eq_self_of_ends {cs a b x y : List Char} (hfront : cs = a ++ x) (hback : cs = y ++ b)
    (ha : a ≠ []) (hb : b ≠ []) (ha' : a.any isBlank = false) (hb' : b.any isBlank = false) :
    trim cs = cs := by
  rw [List.any_eq_false] at ha' hb'
  refine trim_eq_self_iff.mpr ⟨fun c hc => ?_, fun c hc => ?_⟩
  · obtain ⟨d, rest, rfl⟩ := List.exists_cons_of_ne_nil ha
    rw [hfront] at hc
    cases hc
    exact Bool.eq_false_iff.mpr (ha' c List.mem_cons_self)
  · rw [hback, List.getLast?_append, List.getLast?_eq_some_getLast hb] at hc
    cases hc
    exact Bool.eq_false_iff.mpr (hb' _ (List.getLast_mem hb))

/-! ### Pieces without padding -/

/-- No blank character stands at an end of the text or beside a separator. -/
structure Tight (sep : Char) (cs : List Char) : Prop where
  trimmed : trim cs = cs
  before : ∀ l r c, cs = l ++ c :: sep :: r → isBlank c = false
  after : ∀ l r c, cs = l ++ sep :: c :: r → isBlank c = false

theorem Tight.of_any_eq_false {sep : Char} {cs : List Char} (h : cs.any isBlank = false) :
    Tight sep cs := by
  have hnot : ∀ c ∈ cs, isBlank c = false :=
    fun c hc => Bool.eq_false_iff.mpr (List.any_eq_false.mp h c hc)
  exact ⟨trim_eq_self_of_forall hnot, fun l r c hcs => hnot c (by simp [hcs]),
    fun l r c hcs => hnot c (by simp [hcs])⟩

theorem Tight.cut {sep : Char} {a b : List Char} (h : Tight sep (a ++ sep :: b)) :
    trim a = a ∧ Tight sep b := by
  obtain ⟨hhead, hlast⟩ := trim_eq_self_iff.mp h.trimmed
  refine ⟨trim_eq_self_iff.mpr ⟨fun c hc => ?_, fun c hc => ?_⟩,
    trim_eq_self_iff.mpr ⟨fun c hc => ?_, fun c hc => ?_⟩, fun l r c hb => ?_, fun l r c hb => ?_⟩
  · exact hhead c (by rw [List.head?_append, hc, Option.some_or])
  · obtain ⟨l, rfl⟩ := List.getLast?_eq_some_iff.mp hc
    exact h.before l b c (by simp)
  · obtain ⟨r, rfl⟩ := List.head?_eq_some_iff.mp hc
    exact h.after a r c rfl
  · obtain ⟨l, rfl⟩ := List.getLast?_eq_some_iff.mp hc
    exact hlast c (by rw [← List.cons_append, ← List.append_assoc, List.getLast?_concat])
  · exact h.before (a ++ sep :: l) r c (by simp [hb])
  · exact h.after (a ++ sep :: l) r c (by simp [hb])

theorem Tight.trim_of_mem_split {sep : Char} {cs : List Char} (h : Tight sep cs) :
    ∀ p ∈ split sep cs, trim p = p := by
  induction cs using sepInduction sep with
  | last a ha =>
    rw [split_of_not_mem ha]
    exact fun p hp => List.mem_singleton.mp hp ▸ h.trimmed
  | cut a b ha ih =>
    rw [split_append_sep, split_of_not_mem ha, List.singleton_append]
    exact List.forall_mem_cons.mpr ⟨h.cut.1, ih h.cut.2⟩

/-! ### Cutting padded text -/

section Padded

variable {sep : Char}

/-- Blank characters at the end do not matter to the trimmed pieces. -/
theorem map_trim_split_append (hsep : isBlank sep = false) {r : List Char}
    (hr : allBlank r = true) (cs : List Char) :
    (split sep (cs ++ r)).map trim = (split sep cs).map trim := by
  have hnot : sep ∉ r := not_mem_of_allBlank hsep hr
  induction cs using sepInduction sep with
  | last a ha =>
    have har : sep ∉ a ++ r := by simp [ha, hnot]
    have htrim : trim ([] ++ a ++ r) = trim a := trim_padding rfl hr a
    rw [split_of_not_mem har, split_of_not_mem ha, List.map_singleton, List.map_singleton,
      ← htrim, List.nil_append]
  | cut a b ha ih =>
    rw [List.append_assoc, List.cons_append, split_append_sep, split_append_sep, List.map_append,
      List.map_append, ih]

/-- Cutting a trimmed text at its first separator leaves the padding on the two parts. -/
theorem splitOnce_trim (hsep : isBlank sep = false) {cs a b : List Char}
    (h : splitOnce sep cs = some (a, b)) : ∃ l x y r, allBlank l = true ∧ allBlank r = true ∧
      splitOnce sep (trim cs) = some (x, y) ∧ a = l ++ x ∧ b = y ++ r := by
  obtain ⟨l, r, hl, hr, hcs⟩ := exists_padding cs
  refine ⟨l, ?_⟩
  have hmem : sep ∈ cs := by
    rw [(eq_append_of_splitOnce_eq_some h).1]
    simp
  have hl' : sep ∉ l := not_mem_of_allBlank hsep hl
  have hr' : sep ∉ r := not_mem_of_allBlank hsep hr
  cases hx : splitOnce sep (trim cs) with
  | none =>
    rw [hcs] at hmem
    simp [hl', hr', not_mem_of_splitOnce_eq_none hx] at hmem
  | some xy =>
    obtain ⟨x, y⟩ := xy
    obtain ⟨hxy, hnot⟩ := eq_append_of_splitOnce_eq_some hx
    have hlx : sep ∉ l ++ x := by simp [hl', hnot]
    have hcut : cs = (l ++ x) ++ sep :: (y ++ r) := by
      rw [hcs, hxy]
      simp
    rw [hcut, splitOnce_append_sep hlx] at h
    cases h
    exact ⟨x, y, r, hl, hr, rfl, rfl, rfl⟩

end Padded

end FieldRules.Text
