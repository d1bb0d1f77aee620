import FieldRules.Proofs.BoundRules
import FieldRules.Proofs.CharSets
import FieldRules.Proofs.PatternSearch
/-!
The shape of mail addresses. The pattern lets all its parts be as long as they like, dots
included; what it matches is nevertheless a closed shape: one at sign with text before it and an
inner dot after it, and nothing blank (`Pattern.occurs_mail_iff`). The rule accepts exactly the
values whose text has this shape (`email_accepts_its_shape`).
-/

namespace FieldRules

/-- A text with no blank character, exactly one at sign, something in front of the at sign, and
behind it a dot that is neither the first nor the last character there. -/
def MailShaped (text : List Char) : Prop :=
  (∀ c ∈ text, Text.isBlank c = false) ∧ text.count '@' = 1 ∧
    ∃ before after, text = before ++ '@' :: after ∧ before ≠ [] ∧
      ∃ i, 0 < i ∧ i + 1 < after.length ∧ after[i]? = some '.'

namespace Pattern

variable {text : List Char}

/-! ### Characters of a mail address -/

theorem has_mailPart (c : Char) :
    mailPart.has c.toNat = true ↔ Text.isBlank c = false ∧ c ≠ '@' := by
  have hsign : CharSet.Ordered CharSet.maxPoint (CharSet.single '@'.toNat).ranges :=
    ⟨List.pairwise_singleton _ _, by decide⟩
  obtain ⟨hordered, hhas⟩ := CharSet.ordered_union CharSet.ordered_space.1 hsign
  have hpoint : c.toNat ≤ CharSet.maxPoint := by
    have hvalid : c.toNat < 0xD800 ∨ 0xDFFF < c.toNat ∧ c.toNat < 0x110000 := c.valid
    rw [CharSet.maxPoint]
    omega
  have hc : c.toNat = '@'.toNat ↔ c = '@' := Char.toNat_inj
  rw [mailPart, CharSet.has_complement hordered, hhas, CharSet.ordered_space.2,
    CharSet.has_single, hc, not_or, Bool.not_eq_true]
  exact and_iff_right hpoint

/-! ### Matches -/

theorem steps_set_iff {s : CharSet} {j : Nat} : ∀ {n i : Nat},
    Steps ((set s).Matches text) n i j ↔
      j = i + n ∧ ∀ k, i ≤ k → k < j → ∃ c, text[k]? = some c ∧ s.has c.toNat = true
  | 0, i => by
    rw [Steps]
    constructor
    · rintro rfl
      exact ⟨rfl, fun k hik hkj => absurd hik (Nat.not_le_of_lt hkj)⟩
    · exact fun h => h.1.symm
  | n + 1, i => by
    simp only [Steps, steps_set_iff]
    constructor
    · rintro ⟨_, ⟨rfl, hc⟩, rfl, hrest⟩
      refine ⟨by omega, fun k hik hkj => ?_⟩
      obtain rfl | hlt := Nat.eq_or_lt_of_le hik
      · exact hc
      · exact hrest k hlt hkj
    · rintro ⟨rfl, hall⟩
      exact ⟨i + 1, ⟨rfl, hall i (Nat.le_refl i) (by omega)⟩, by omega,
        fun k hik => hall k (by omega)⟩

/-- One or more characters of a set are a stretch of the text that is not empty. -/
theorem matches_some1_iff {s : CharSet} {i j : Nat} : (some1 s).Matches text i j ↔
    i < j ∧ ∀ k, i ≤ k → k < j → ∃ c, text[k]? = some c ∧ s.has c.toNat = true := by
  rw [some1, matches_rep_iff]
  simp only [steps_set_iff]
  constructor
  · rintro ⟨n, hn, -, rfl, hall⟩
    exact ⟨by omega, hall⟩
  · rintro ⟨hij, hall⟩
    exact ⟨j - i, by omega, by simp, by omega, hall⟩

theorem matches_seq_iff {p q : Pattern} {i j : Nat} :
    (seq p q).Matches text i j ↔ ∃ k, p.Matches text i k ∧ q.Matches text k j := Iff.rfl

theorem matches_single_iff {c : Char} {i j : Nat} :
    (set (.single c.toNat)).Matches text i j ↔ j = i + 1 ∧ text[i]? = some c := by
  simp only [Matches, CharSet.has_single, Char.toNat_inj, exists_eq_right]

theorem matches_textStart_iff {i j : Nat} :
    (edge .textStart).Matches text i j ↔ i = 0 ∧ j = 0 := by
  rw [Matches, Edge.holds]
  by_cases hi : i = 0
  · simp [hi, eq_comm]
  · simp only [hi, if_false, Option.isNone_iff_eq_none, List.getElem?_eq_none_iff, false_and,
      iff_false]
    omega

theorem matches_textEnd_iff {i j : Nat} :
    (edge .textEnd).Matches text i j ↔ i = text.length ∧ j = text.length := by
  simp only [Matches, Edge.holds, Option.isNone_iff_eq_none, List.getElem?_eq_none_iff]
  omega

/-- A match of the pattern is the whole text, cut at an at sign and at a dot behind it. -/
theorem occurs_mail_iff_places : mail.Occurs text ↔ ∃ p q, 0 < p ∧ p + 1 < q ∧
    q + 1 < text.length ∧ text[p]? = some '@' ∧ text[q]? = some '.' ∧
      ∀ k c, text[k]? = some c → k ≠ p → mailPart.has c.toNat = true := by
  simp only [Occurs, mail, matches_seq_iff, matches_textStart_iff, matches_some1_iff,
    matches_single_iff, matches_textEnd_iff]
  constructor
  · rintro ⟨_, _, -, _, ⟨rfl, rfl⟩, p, ⟨hp, hlocal⟩, _, ⟨rfl, hsign⟩, q, ⟨hq, hhost⟩, _,
      ⟨rfl, hdot⟩, _, ⟨hend, hlast⟩, rfl, rfl⟩
    refine ⟨p, q, hp, hq, hend, hsign, hdot, fun k c hk hkp => ?_⟩
    have hpart : (∃ d, text[k]? = some d ∧ mailPart.has d.toNat = true) →
        mailPart.has c.toNat = true := by
      rintro ⟨d, hd, hpart⟩
      rwa [← Option.some.inj (hd.symm.trans hk)]
    obtain hlt | hgt := Nat.lt_or_gt_of_ne hkp
    · exact hpart (hlocal k (Nat.zero_le k) hlt)
    · obtain hlt | rfl | hgt' := Nat.lt_trichotomy k q
      · exact hpart (hhost k hgt hlt)
      · obtain rfl := Option.some.inj (hdot.symm.trans hk)
        exact (has_mailPart '.').mpr (by decide)
      · exact hpart (hlast k hgt' (List.getElem?_eq_some_iff.mp hk).1)
  · rintro ⟨p, q, hp, hpq, hq, hsign, hdot, hall⟩
    have hpart : ∀ k, k < text.length → k ≠ p →
        ∃ c, text[k]? = some c ∧ mailPart.has c.toNat = true := fun k hk hkp =>
      ⟨text[k], List.getElem?_eq_getElem hk, hall k _ (List.getElem?_eq_getElem hk) hkp⟩
    exact ⟨0, text.length, Nat.zero_le _, 0, ⟨rfl, rfl⟩, p,
      ⟨hp, fun k _ hk => hpart k (by omega) (by omega)⟩, p + 1, ⟨rfl, hsign⟩, q,
      ⟨hpq, fun k hk hkq => hpart k (by omega) (by omega)⟩, q + 1, ⟨rfl, hdot⟩, text.length,
      ⟨hq, fun k hk hkl => hpart k hkl (by omega)⟩, rfl, rfl⟩

/-- The pattern for mail addresses matches the texts that are shaped like one. -/
theorem occurs_mail_iff : mail.Occurs text ↔ MailShaped text := by
  rw [occurs_mail_iff_places]
  simp only [has_mailPart]
  constructor
  · rintro ⟨p, q, hp, hpq, hq, hsign, hdot, hall⟩
    have hplt : p < text.length := by omega
    have htext : text = text.take p ++ '@' :: text.drop (p + 1) := by
      have hcut := (List.take_append_drop p text).symm
      rwa [List.drop_eq_getElem_cons hplt, (List.getElem?_eq_some_iff.mp hsign).2] at hcut
    have hbefore : '@' ∉ text.take p := by
      intro hmem
      obtain ⟨k, hk, hc⟩ := List.mem_take_iff_getElem.mp hmem
      exact (hall k '@' (List.getElem?_eq_some_iff.mpr ⟨by omega, hc⟩) (by omega)).2 rfl
    have hafter : '@' ∉ text.drop (p + 1) := by
      intro hmem
      obtain ⟨k, hk, hc⟩ := List.mem_drop_iff_getElem.mp hmem
      exact (hall (p + 1 + k) '@' (List.getElem?_eq_some_iff.mpr ⟨by omega, hc⟩) (by omega)).2 rfl
    refine ⟨fun c hc => ?_, ?_, text.take p, text.drop (p + 1), htext, ?_, q - (p + 1), ?_, ?_, ?_⟩
    · obtain ⟨k, hk⟩ := List.mem_iff_getElem?.mp hc
      by_cases hkp : k = p
      · obtain rfl := Option.some.inj (hsign.symm.trans (hkp ▸ hk))
        decide
      · exact (hall k c hk hkp).1
    · rw [htext, List.count_append, List.count_cons_self, List.count_eq_zero.mpr hbefore,
        List.count_eq_zero.mpr hafter]
    · exact List.ne_nil_of_length_pos (by rw [List.length_take]; omega)
    · omega
    · rw [List.length_drop]
      omega
    · rw [List.getElem?_drop, Nat.add_sub_cancel' (Nat.le_of_lt hpq), hdot]
  · rintro ⟨hblank, hcount, before, after, rfl, hbefore, i, hi, hlast, hdot⟩
    rw [List.count_append, List.count_cons_self] at hcount
    have hnotBefore : '@' ∉ before := List.count_eq_zero.mp (by omega)
    have hnotAfter : '@' ∉ after := List.count_eq_zero.mp (by omega)
    have hlength : (before ++ '@' :: after).length = before.length + 1 + after.length := by
      rw [List.length_append, List.length_cons]
      omega
    have hat : ∀ k, (before ++ '@' :: after)[before.length + k]? = ('@' :: after)[k]? := by
      intro k
      rw [List.getElem?_append_right (Nat.le_add_right _ _), Nat.add_sub_cancel_left]
    refine ⟨before.length, before.length + (i + 1), List.length_pos_iff.mpr hbefore, by omega,
      by omega, hat 0, (hat (i + 1)).trans hdot, fun k c hk hkp => ?_⟩
    refine ⟨hblank c (List.mem_of_getElem? hk), ?_⟩
    rintro rfl
    obtain hlt | hgt := Nat.lt_or_gt_of_ne hkp
    · rw [List.getElem?_append_left hlt] at hk
      exact hnotBefore (List.mem_of_getElem? hk)
    · obtain ⟨m, rfl⟩ := Nat.exists_eq_add_of_lt hgt
      rw [Nat.add_assoc, hat] at hk
      exact hnotAfter (List.mem_of_getElem? hk)

theorem wellFormed_mail : mail.WellFormed := by
  simp [mail, some1, WellFormed]

end Pattern

/-! ### The rule -/

/-- Every character of the text of an empty value is blank. -/
theorem Value.isBlank_of_isEmpty {v : Value} (h : v.isEmpty = true) :
    ∀ c ∈ v.toText.toList, Text.isBlank c = true := by
  cases v with
  | null => simp [toText]
  | text s => exact List.all_eq_true.mp h
  | list items =>
    obtain rfl := List.isEmpty_iff.mp h
    simp [toText, texts, Text.joined]
  | bool | number | object => cases h

/-- The text of an empty value has no at sign with anything in front of it. -/
theorem not_mailShaped_of_isEmpty {v : Value} (h : v.isEmpty = true) :
    ¬ MailShaped v.toText.toList := by
  rintro ⟨hblank, hcount, -⟩
  have hsign : '@' ∈ v.toText.toList := List.count_pos_iff.mp (by omega)
  exact Bool.noConfusion ((hblank _ hsign).symm.trans (Value.isBlank_of_isEmpty h _ hsign))

/-- The characters that end a line: line feed, vertical tab, form feed, carriage return, next line,
and the separators of lines and paragraphs. -/
def Text.lineBreaks : List Char :=
  ['\n', '\x0b', '\x0c', '\r', '\u0085', '\u2028', '\u2029']

/-- The mail rule passes exactly the values whose text is shaped like a mail address, whatever its
arguments, the field and the record; no empty value and no text that ends in a line break is. -/
theorem email_accepts_its_shape (settings : Settings) (field : String) (numericField : Bool)
    (record : Record) (args : List String) (v : Value) :
    let passes := Rule.email.Passes settings field numericField record args v
    let fails := Rule.email.Answers settings field numericField record args v
      (some "Invalid email address.")
    (passes ↔ MailShaped v.toText.toList) ∧ (fails ↔ ¬ passes) ∧ (v.isEmpty = true → fails) ∧
      ∀ c ∈ Text.lineBreaks, v.toText.toList.getLast? = some c → fails := by
  intro passes fails
  have hpasses : passes ↔ MailShaped v.toText.toList := by
    refine (Rule.passes_iff rfl).trans (Predicate.check_ofTest_eq_none_iff.trans ?_)
    rw [Bool.and_eq_true, Pattern.occurs_iff Pattern.wellFormed_mail, Pattern.occurs_mail_iff,
      Bool.not_eq_true', ← Bool.not_eq_true]
    exact and_iff_right_of_imp fun hshape hempty => not_mailShaped_of_isEmpty hempty hshape
  have hfails : fails ↔ ¬ passes :=
    (Rule.answers_iff rfl).trans
      (Predicate.check_ofTest_eq_some_iff.trans (not_congr (Rule.passes_iff rfl)).symm)
  refine ⟨hpasses, hfails, fun hempty => ?_, fun c hc hlast => ?_⟩
  · rw [hfails, hpasses]
    exact not_mailShaped_of_isEmpty hempty
  · rw [hfails, hpasses]
    rintro ⟨hblank, -⟩
    have hbreaks := List.all_eq_true.mp (by decide : Text.lineBreaks.all Text.isBlank = true)
    exact Bool.noConfusion ((hblank c (List.mem_of_getLast? hlast)).symm.trans (hbreaks c hc))

/-- An address in a list, with dots on all sides of its at sign, and the same with a line break. -/
theorem email_of_listed_address :
    let passes := fun v => Rule.email.Passes {} "contact" false .empty [] v
    let fails := fun v => Rule.email.Answers {} "contact" false .empty [] v
      (some "Invalid email address.")
    MailShaped "a..b@.c.d.".toList ∧ passes (.list [.text "a..b@.c.d."]) ∧
      (Value.text "\u2003").isEmpty = true ∧ fails (.text "\u2003") ∧
      "a@b.c\n".toList.getLast? = some '\n' ∧ fails (.text "a@b.c\n") := by
  intro passes fails
  have hspec := fun v => email_accepts_its_shape {} "contact" false .empty [] v
  have hshape : MailShaped "a..b@.c.d.".toList :=
    ⟨by simp [Text.isBlank], by decide, "a..b".toList, ".c.d.".toList, by decide, by decide, 2,
      by decide⟩
  exact ⟨hshape, (hspec _).1.mpr hshape, by decide, (hspec _).2.2.1 (by decide), by decide,
    (hspec _).2.2.2 '\n' (by decide) (by decide)⟩

end FieldRules
