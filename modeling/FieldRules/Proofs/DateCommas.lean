import FieldRules.Proofs.DateForms
/-!
Commas in dates. Scanning takes off the front of a text only what it asks for (`Takes`), so a date
holds a comma only as a mail date, behind its weekday or within a comment. Neither a weekday nor a
text that ends within a comment is a date: what stands before the first comma of a date is no date
itself (`not_date_before_comma`).
-/

namespace FieldRules.Calendar

/-! ### What scanning takes -/

/-- What is taken off the front of a text to leave the rest has no `c` in it. -/
def Takes (c : Char) (cs rest : List Char) : Prop := ∃ taken, cs = taken ++ rest ∧ c ∉ taken

/-- A character that no number, name, sign or blank space of a date holds. -/
structure Foreign (c : Char) : Prop where
  digit : c.isDigit = false
  alpha : c.isAlpha = false
  blank : Text.isBlank c = false
  mark : c ∉ ['-', '+', ':', '.', '\u2212']

theorem foreign_comma : Foreign ',' := ⟨by decide, by decide, by decide, by decide⟩

theorem foreign_bracket : Foreign '(' := ⟨by decide, by decide, by decide, by decide⟩

variable {c : Char} {cs mid rest : List Char}

theorem Takes.refl : Takes c cs cs := ⟨[], rfl, List.not_mem_nil⟩

theorem Takes.trans (h : Takes c cs mid) (h' : Takes c mid rest) : Takes c cs rest := by
  obtain ⟨x, rfl, hx⟩ := h
  obtain ⟨y, rfl, hy⟩ := h'
  exact ⟨x ++ y, (List.append_assoc x y rest).symm, by simp [hx, hy]⟩

instance : Trans (Takes c) (Takes c) (Takes c) := ⟨Takes.trans⟩

theorem Takes.mem (h : Takes c cs rest) (hc : c ∈ cs) : c ∈ rest := by
  obtain ⟨x, rfl, hx⟩ := h
  exact (List.mem_append.mp hc).resolve_left hx

theorem Takes.not_mem (h : Takes c cs []) : c ∉ cs := fun hc => List.not_mem_nil (h.mem hc)

theorem takes_dropWhile {p : Char → Bool} (hc : p c = false) : Takes c cs (cs.dropWhile p) :=
  ⟨cs.takeWhile p, List.takeWhile_append_dropWhile.symm, fun h => by
    rw [List.mem_takeWhile_imp h] at hc
    cases hc⟩

theorem takes_cons {d : Char} (hd : c ≠ d) : Takes c (d :: rest) rest :=
  ⟨[d], rfl, by simpa using hd⟩

theorem scanChar_eq_some {d : Char} (h : scanChar d cs = some rest) : cs = d :: rest := by
  cases cs with
  | nil => cases h
  | cons e cs =>
    obtain ⟨rfl, heq⟩ := Option.ite_none_right_eq_some.mp h
    cases heq
    rfl

theorem takes_scanChar {d : Char} (hd : c ≠ d) (h : scanChar d cs = some rest) :
    Takes c cs rest :=
  scanChar_eq_some h ▸ takes_cons hd

theorem Foreign.ne_mark (hc : Foreign c) {d : Char} (hd : d ∈ ['-', '+', ':', '.', '\u2212']) :
    c ≠ d :=
  fun h => hc.mark (h ▸ hd)

theorem Foreign.ne_alpha (hc : Foreign c) {d : Char} (hd : d.isAlpha = true) : c ≠ d := by
  rintro rfl
  rw [hc.alpha] at hd
  cases hd

theorem Foreign.ne_blank (hc : Foreign c) {d : Char} (hd : Text.isBlank d = true) : c ≠ d := by
  rintro rfl
  rw [hc.blank] at hd
  cases hd

section Scanners

variable (hc : Foreign c)

include hc

theorem takes_scanNumber {least n : Nat} {most : Option Nat}
    (h : scanNumber least most cs = some (n, rest)) : Takes c cs rest := by
  obtain ⟨ds, hds, hrest⟩ : ∃ ds, ds <+: cs.takeWhile (·.isDigit) ∧ rest = cs.drop ds.length := by
    cases most with
    | none =>
      obtain ⟨-, heq⟩ := Option.ite_none_left_eq_some.mp h
      cases heq
      exact ⟨_, List.prefix_rfl, rfl⟩
    | some k =>
      obtain ⟨-, heq⟩ := Option.ite_none_left_eq_some.mp h
      cases heq
      exact ⟨_, List.take_prefix k _, rfl⟩
  obtain ⟨after, rfl⟩ := hds.trans (List.takeWhile_prefix _)
  refine ⟨ds, by rw [hrest, List.drop_left], fun hmem => ?_⟩
  have hdigit := List.mem_takeWhile_imp (hds.subset hmem)
  rw [hc.digit] at hdigit
  cases hdigit

theorem takes_trimStart : Takes c cs (Text.trimStart cs) := takes_dropWhile hc.blank

theorem takes_scanBlank (h : scanBlank cs = some rest) : Takes c cs rest := by
  cases cs with
  | nil => cases h
  | cons d cs =>
    obtain ⟨hblank, heq⟩ := Option.ite_none_right_eq_some.mp h
    cases heq
    exact (takes_cons (hc.ne_blank hblank)).trans (takes_trimStart hc)

theorem takes_scanFraction {n : Nat} (h : scanFraction cs = some (n, rest)) :
    Takes c cs rest := by
  unfold scanFraction at h
  split at h
  · obtain ⟨-, heq⟩ := Option.ite_none_left_eq_some.mp h
    cases heq
    have hpoint : c ≠ '.' := hc.ne_mark (by decide)
    exact (takes_cons hpoint).trans (takes_dropWhile hc.digit)
  · cases h
    exact .refl

theorem takes_scanHoursMinutes {sep : List Char → Option (List Char)} {n : Nat}
    (hsep : ∀ cs rest, sep cs = some rest → Takes c cs rest)
    (h : scanHoursMinutes sep cs = some (n, rest)) : Takes c cs rest := by
  simp only [scanHoursMinutes, Option.bind_eq_bind, Option.bind_eq_some_iff] at h
  obtain ⟨⟨_, _⟩, hhours, _, hsign, ⟨_, _⟩, hminutes, h⟩ := h
  obtain ⟨-, heq⟩ := Option.ite_none_right_eq_some.mp h
  cases heq
  exact ((takes_scanNumber hc hhours).trans (hsep _ _ hsign)).trans (takes_scanNumber hc hminutes)

theorem takes_scanWord {words : List (List Char)} {i : Nat}
    (hwords : ∀ w ∈ words, ∀ c ∈ w, c.isAlpha = true) (h : scanWord words cs = some (i, rest)) :
    Takes c cs rest := by
  refine ⟨cs.take 3, ?_, fun hmem => ?_⟩
  · rw [(scanWord_eq_some h).2, List.take_append_drop]
  · have halpha := isAlpha_of_scanWord hwords h c hmem
    rw [hc.alpha] at halpha
    cases halpha

theorem takes_scanOffset {offset : Int} (h : scanOffset cs = some (offset, rest)) :
    Takes c cs rest := by
  cases cs with
  | nil => cases h
  | cons d cs =>
    rw [scanOffset] at h
    split at h
    · next hz =>
      cases h
      refine takes_cons ?_
      obtain rfl | rfl := hz <;> exact hc.ne_alpha (by decide)
    · obtain ⟨hsign, h⟩ := Option.ite_none_right_eq_some.mp h
      obtain ⟨⟨_, _⟩, hscan, h⟩ := Option.bind_eq_some_iff.mp h
      obtain ⟨-, heq⟩ := Option.ite_none_right_eq_some.mp h
      cases heq
      refine (takes_cons ?_).trans (takes_scanHoursMinutes hc (fun _ _ => takes_scanChar ?_) hscan)
      · obtain rfl | rfl | rfl := hsign <;> exact hc.ne_mark (by decide)
      · exact hc.ne_mark (by decide)

theorem takes_scanZone {offset : Int} (h : scanZone cs = some (offset, rest)) :
    Takes c cs rest := by
  have hfour : ∀ cs rest : List Char, some cs = some rest → Takes c cs rest := by
    rintro _ _ ⟨⟩
    exact .refl
  unfold scanZone at h
  split at h
  · obtain ⟨⟨_, _⟩, hscan, heq⟩ := Option.bind_eq_some_iff.mp h
    cases heq
    have hsign : c ≠ '+' := hc.ne_mark (by decide)
    exact (takes_cons hsign).trans (takes_scanHoursMinutes hc hfour hscan)
  · obtain ⟨⟨_, _⟩, hscan, heq⟩ := Option.bind_eq_some_iff.mp h
    cases heq
    have hsign : c ≠ '-' := hc.ne_mark (by decide)
    exact (takes_cons hsign).trans (takes_scanHoursMinutes hc hfour hscan)
  · obtain ⟨-, h⟩ := Option.ite_none_left_eq_some.mp h
    obtain ⟨_, -, heq⟩ := Option.bind_eq_some_iff.mp h
    cases heq
    exact takes_dropWhile hc.alpha

theorem takes_scanPlain {n : Nat} (h : scanPlain cs = some (n, rest)) : Takes c cs rest :=
  (takes_trimStart hc).trans (takes_scanNumber hc h)

theorem takes_scanYear {year : Int} (h : scanYear cs = some (year, rest)) : Takes c cs rest := by
  refine (takes_trimStart hc).trans ?_
  unfold scanYear at h
  split at h
  · next hminus =>
    obtain ⟨⟨_, _⟩, hscan, heq⟩ := Option.bind_eq_some_iff.mp h
    cases heq
    rw [hminus]
    exact (takes_cons (hc.ne_mark (by decide))).trans (takes_scanNumber hc hscan)
  · next hplus =>
    obtain ⟨⟨_, _⟩, hscan, heq⟩ := Option.bind_eq_some_iff.mp h
    cases heq
    rw [hplus]
    exact (takes_cons (hc.ne_mark (by decide))).trans (takes_scanNumber hc hscan)
  · obtain ⟨⟨_, _⟩, hscan, heq⟩ := Option.bind_eq_some_iff.mp h
    cases heq
    exact takes_scanNumber hc hscan

theorem takes_scanSeconds {n : Nat} (h : scanSeconds cs = some (n, rest)) : Takes c cs rest := by
  unfold scanSeconds at h
  split at h
  · next hcolon =>
    exact ((takes_trimStart hc).trans (takes_scanChar (hc.ne_mark (by decide)) hcolon)).trans
      (takes_scanNumber hc h)
  · cases h
    exact .refl

theorem takes_scanDate {date : Date} (h : scanDate cs = some (date, rest)) : Takes c cs rest := by
  have hhyphen : c ≠ '-' := hc.ne_mark (by decide)
  simp only [scanDate, Option.bind_eq_bind, Option.bind_eq_some_iff] at h
  obtain ⟨⟨_, _⟩, hyear, _, hsep, ⟨_, _⟩, hmonth, _, hsep', ⟨_, _⟩, hday, heq⟩ := h
  cases heq
  calc Takes c cs _ := takes_scanYear hc hyear
    Takes c _ _ := takes_scanChar hhyphen hsep
    Takes c _ _ := takes_scanPlain hc hmonth
    Takes c _ _ := takes_scanChar hhyphen hsep'
    Takes c _ _ := takes_scanPlain hc hday

/-! ### Forms without foreign characters -/

theorem Foreign.not_mem_timestamp {d : DateTime} (h : timestamp? cs = some d) : c ∉ cs := by
  have hhyphen : c ≠ '-' := hc.ne_mark (by decide)
  have hcolon : c ≠ ':' := hc.ne_mark (by decide)
  obtain ⟨⟨_, _⟩, hyear, h⟩ := Option.bind_eq_some_iff.mp h
  obtain ⟨_, hsep₁, h⟩ := Option.bind_eq_some_iff.mp h
  obtain ⟨⟨_, _⟩, hmonth, h⟩ := Option.bind_eq_some_iff.mp h
  obtain ⟨_, hsep₂, h⟩ := Option.bind_eq_some_iff.mp h
  obtain ⟨⟨_, _⟩, hday, h⟩ := Option.bind_eq_some_iff.mp h
  obtain ⟨_, hmark, h⟩ := Option.bind_eq_some_iff.mp h
  obtain ⟨⟨_, _⟩, hhour, h⟩ := Option.bind_eq_some_iff.mp h
  obtain ⟨_, hsep₃, h⟩ := Option.bind_eq_some_iff.mp h
  obtain ⟨⟨_, _⟩, hminute, h⟩ := Option.bind_eq_some_iff.mp h
  obtain ⟨_, hsep₄, h⟩ := Option.bind_eq_some_iff.mp h
  obtain ⟨⟨_, _⟩, hsecond, h⟩ := Option.bind_eq_some_iff.mp h
  obtain ⟨⟨_, _⟩, hfraction, h⟩ := Option.bind_eq_some_iff.mp h
  obtain ⟨⟨_, _⟩, hoffset, h⟩ := Option.bind_eq_some_iff.mp h
  obtain ⟨rfl, -⟩ := Option.ite_none_right_eq_some.mp h
  simp only [Option.orElse_eq_orElse, Option.orElse_eq_or, Option.or_eq_some_iff] at hmark
  refine Takes.not_mem ?_
  calc Takes c cs _ := takes_scanNumber hc hyear
    Takes c _ _ := takes_scanChar hhyphen hsep₁
    Takes c _ _ := takes_scanNumber hc hmonth
    Takes c _ _ := takes_scanChar hhyphen hsep₂
    Takes c _ _ := takes_scanNumber hc hday
    Takes c _ _ := by
      obtain hT | ⟨-, ht | ⟨-, hspace⟩⟩ := hmark
      · exact takes_scanChar (hc.ne_alpha (by decide)) hT
      · exact takes_scanChar (hc.ne_alpha (by decide)) ht
      · exact takes_scanChar (hc.ne_blank (by decide)) hspace
    Takes c _ _ := takes_scanNumber hc hhour
    Takes c _ _ := takes_scanChar hcolon hsep₃
    Takes c _ _ := takes_scanNumber hc hminute
    Takes c _ _ := takes_scanChar hcolon hsep₄
    Takes c _ _ := takes_scanNumber hc hsecond
    Takes c _ _ := takes_scanFraction hc hfraction
    Takes c _ _ := takes_scanOffset hc hoffset

theorem Foreign.not_mem_plainTime {sep : List Char → Option (List Char)} {seconds : Bool}
    {d : DateTime} (hsep : ∀ cs rest, sep cs = some rest → Takes c cs rest)
    (h : plainTime? sep seconds cs = some d) : c ∉ cs := by
  have hcolon : c ≠ ':' := hc.ne_mark (by decide)
  simp only [plainTime?, Option.bind_eq_bind, Option.bind_eq_some_iff] at h
  obtain ⟨⟨_, _⟩, hdate, _, hmark, ⟨_, _⟩, hhour, _, hsep₁, ⟨_, last⟩, hminute, h⟩ := h
  have hlast : Takes c last [] := by
    cases seconds with
    | false =>
      obtain ⟨rfl, -⟩ := Option.ite_none_right_eq_some.mp h
      exact .refl
    | true =>
      simp only [if_true, Option.bind_eq_some_iff] at h
      obtain ⟨_, hsep₂, ⟨_, _⟩, hsecond, ⟨_, _⟩, hfraction, _, ⟨⟩, h⟩ := h
      obtain ⟨rfl, -⟩ := Option.ite_none_right_eq_some.mp h
      exact ((takes_scanChar hcolon hsep₂).trans (takes_scanPlain hc hsecond)).trans
        (takes_scanFraction hc hfraction)
  refine Takes.not_mem ?_
  calc Takes c cs _ := takes_scanDate hc hdate
    Takes c _ _ := hsep _ _ hmark
    Takes c _ _ := takes_scanPlain hc hhour
    Takes c _ _ := takes_scanChar hcolon hsep₁
    Takes c _ _ := takes_scanPlain hc hminute
    Takes c _ [] := hlast

theorem Foreign.not_mem_plainDate {d : DateTime} (h : plainDate? cs = some d) : c ∉ cs := by
  obtain ⟨⟨_, _⟩, hdate, h⟩ := Option.bind_eq_some_iff.mp h
  obtain ⟨rfl, -⟩ := Option.ite_none_right_eq_some.mp h
  exact (takes_scanDate hc hdate).not_mem

theorem Foreign.not_mem_shortForm {d : DateTime} (h : shortForm? cs = some d) : c ∉ cs := by
  simp only [shortForm?] at h
  split at h
  · next hdigits =>
    intro hmem
    have hdigit := List.all_eq_true.mp hdigits.2 c hmem
    rw [hc.digit] at hdigit
    cases hdigit
  · split at h
    · exact fun hmem => hc.not_mem_plainDate h (List.mem_append_left _ hmem)
    · exact hc.not_mem_plainDate h

/-- Only a mail date holds a foreign character. -/
theorem Foreign.not_mem_of_form {f : List Char → Option DateTime} {d : DateTime} (hf : f ∈ forms)
    (h : f cs = some d) : mailDate? cs = some d ∨ c ∉ cs := by
  have hT : ∀ cs rest, withT cs = some rest → Takes c cs rest := fun _ _ =>
    takes_scanChar (hc.ne_alpha (by decide))
  have hspace : ∀ cs rest, withSpace cs = some rest → Takes c cs rest := by
    rintro _ _ ⟨⟩
    exact takes_trimStart hc
  simp only [forms, List.mem_cons, List.not_mem_nil, or_false] at hf
  obtain rfl | rfl | rfl | rfl | rfl | rfl | rfl := hf
  · exact .inr (hc.not_mem_timestamp h)
  · exact .inl h
  · exact .inr (hc.not_mem_plainTime hT h)
  · exact .inr (hc.not_mem_plainTime hT h)
  · exact .inr (hc.not_mem_plainTime hspace h)
  · exact .inr (hc.not_mem_plainTime hspace h)
  · exact .inr (hc.not_mem_shortForm h)

end Scanners

/-! ### Texts that begin with a letter -/

section Letter

variable {a : Char} (ha : a.isAlpha = true)

include ha

theorem isBlank_of_isAlpha : Text.isBlank a = false := by
  obtain ⟨hlow, hhigh⟩ := toNat_of_isAlpha ha
  exact Text.isBlank_of_toNat (Nat.le_trans (by decide) hlow) (Nat.le_trans hhigh (by decide))

theorem isDigit_of_isAlpha : a.isDigit = false := by
  refine Bool.eq_false_iff.mpr fun hdigit => ?_
  rw [isAlpha_of_isDigit hdigit] at ha
  cases ha

theorem scanNumber_letter (least : Nat) (most : Option Nat) :
    scanNumber (least + 1) most (a :: cs) = none := by
  cases most <;> simp [scanNumber, isDigit_of_isAlpha ha]

theorem scanDate_letter : scanDate (a :: cs) = none := by
  have hminus : a ≠ '-' := by
    rintro rfl
    cases ha
  have hplus : a ≠ '+' := by
    rintro rfl
    cases ha
  rw [scanDate, scanYear_cons (isBlank_of_isAlpha ha) hminus hplus, scanNumber_letter ha]
  rfl

/-- Only a mail date begins with a letter. -/
theorem mailDate?_of_letter {f : List Char → Option DateTime} {d : DateTime} (hf : f ∈ forms)
    (h : f (a :: cs) = some d) : mailDate? (a :: cs) = some d := by
  have hplain : ∀ xs : List Char, plainDate? (a :: xs) = none := fun xs => by
    rw [plainDate?, scanDate_letter ha]
    rfl
  have hshort : shortForm? (a :: cs) = none := by
    simp [shortForm?, isDigit_of_isAlpha ha, hplain]
  have hstamp : timestamp? (a :: cs) = none := by
    rw [timestamp?, scanNumber_letter ha]
    rfl
  have htime : ∀ sep seconds, plainTime? sep seconds (a :: cs) = none := fun _ seconds =>
    plainTime?_of_scanDate (scanDate_letter ha) seconds
  simp only [forms, List.mem_cons, List.not_mem_nil, or_false] at hf
  obtain rfl | rfl | rfl | rfl | rfl | rfl | rfl := hf
  · cases hstamp.symm.trans h
  · exact h
  · cases (htime _ _).symm.trans h
  · cases (htime _ _).symm.trans h
  · cases (htime _ _).symm.trans h
  · cases (htime _ _).symm.trans h
  · cases hshort.symm.trans h

end Letter

/-! ### Comments -/

/-- A comment ends at its last bracket, whatever follows. -/
theorem skipComment_append (more : List Char) {depth : Nat} (h : skipComment depth cs = some rest) :
    skipComment depth (cs ++ more) = some (rest ++ more) := by
  fun_induction skipComment depth cs with
  | case1 => cases h
  | case2 depth _ cs ih => exact ih h
  | case3 depth cs ih => exact ih h
  | case4 | case5 =>
    cases h
    rfl
  | case6 cs depth hdepth ih =>
    rw [List.cons_append, skipComment]
    · exact ih h
    · exact hdepth
  | case7 depth d cs hescape hopen hclose ih =>
    -- a backslash at the end takes nothing with it, but then no bracket follows either
    cases cs with
    | nil => cases h
    | cons e cs =>
      rw [List.cons_append, List.cons_append, skipComment]
      · exact ih h
      · rintro _ _ rfl
        exact absurd rfl (hescape e cs rfl)
      · exact hopen
      · exact hclose

theorem onlyComments_eq_true {fuel : Nat} (h : onlyComments fuel cs = true) (hne : cs ≠ []) :
    ∃ left inside after, fuel = left + 1 ∧ Text.trimStart cs = '(' :: inside ∧
      skipComment 1 inside = some after ∧ onlyComments left after = true := by
  cases fuel with
  | zero => exact absurd (List.isEmpty_iff.mp h) hne
  | succ left =>
    simp only [onlyComments, Bool.or_eq_true, List.isEmpty_iff, hne, false_or] at h
    split at h
    · next inside htrim =>
      split at h
      · next after hskip => exact ⟨left, inside, after, rfl, htrim, hskip, h⟩
      · cases h
    · cases h

theorem trimStart_append (h : Text.trimStart cs = c :: rest) (more : List Char) :
    Text.trimStart (cs ++ more) = c :: (rest ++ more) := by
  rw [Text.trimStart] at h ⊢
  rw [List.dropWhile_append, h]
  rfl

/-- Comments do not go on with a comma. -/
theorem onlyComments_append {more : List Char} (hmore : (Text.trimStart more).head? = some ',')
    {fuel : Nat} (h : onlyComments fuel cs = true) (fuel' : Nat) :
    ¬ onlyComments fuel' (cs ++ more) = true := by
  have hstart : ∀ fuel', ¬ onlyComments fuel' more = true := by
    intro fuel' hlong
    have hne : more ≠ [] := by
      rintro rfl
      cases hmore
    obtain ⟨_, _, _, -, htrim, -⟩ := onlyComments_eq_true hlong hne
    rw [htrim] at hmore
    cases hmore
  intro hlong
  induction fuel generalizing cs fuel' with
  | zero =>
    rw [List.isEmpty_iff.mp h] at hlong
    exact hstart fuel' hlong
  | succ fuel ih =>
    by_cases hcs : cs = []
    · rw [hcs] at hlong
      exact hstart fuel' hlong
    · obtain ⟨_, inside, after, ⟨⟩, htrim, hskip, hafter⟩ := onlyComments_eq_true h hcs
      obtain ⟨left, _, _, -, htrim', hskip', hafter'⟩ :=
        onlyComments_eq_true hlong (List.append_ne_nil_of_left_ne_nil hcs more)
      rw [trimStart_append htrim] at htrim'
      cases htrim'
      rw [skipComment_append more hskip] at hskip'
      cases hskip'
      exact ih hafter left hafter'

theorem months_alpha : ∀ w ∈ months, ∀ c ∈ w, c.isAlpha = true := isAlpha_of_all (by decide)

/-- What remains behind the head of a mail date is comments. -/
theorem mailDate?_eq_some {d : DateTime} (h : mailDate? cs = some d) :
    ∃ weekday head rest, scanWeekday (Text.trimStart cs) = some (weekday, head) ∧
      (∀ c, Foreign c → Takes c head rest) ∧ onlyComments rest.length rest = true := by
  obtain ⟨⟨weekday, head⟩, hweekday, h⟩ := Option.bind_eq_some_iff.mp h
  obtain ⟨⟨_, _⟩, hday, h⟩ := Option.bind_eq_some_iff.mp h
  obtain ⟨_, hblank₁, h⟩ := Option.bind_eq_some_iff.mp h
  obtain ⟨⟨_, _⟩, hmonth, h⟩ := Option.bind_eq_some_iff.mp h
  obtain ⟨_, hblank₂, h⟩ := Option.bind_eq_some_iff.mp h
  obtain ⟨⟨_, _⟩, hyear, h⟩ := Option.bind_eq_some_iff.mp h
  obtain ⟨_, hblank₃, h⟩ := Option.bind_eq_some_iff.mp h
  obtain ⟨⟨_, _⟩, hhour, h⟩ := Option.bind_eq_some_iff.mp h
  obtain ⟨_, hsep, h⟩ := Option.bind_eq_some_iff.mp h
  obtain ⟨⟨_, _⟩, hminute, h⟩ := Option.bind_eq_some_iff.mp h
  obtain ⟨⟨_, _⟩, hsecond, h⟩ := Option.bind_eq_some_iff.mp h
  obtain ⟨_, hblank₄, h⟩ := Option.bind_eq_some_iff.mp h
  obtain ⟨⟨_, rest⟩, hzone, h⟩ := Option.bind_eq_some_iff.mp h
  obtain ⟨⟨honly, -⟩, -⟩ := Option.ite_none_right_eq_some.mp h
  refine ⟨weekday, head, rest, hweekday, fun c hc => ?_, honly⟩
  have hcolon : c ≠ ':' := hc.ne_mark (by decide)
  calc Takes c head _ := takes_trimStart hc
    Takes c _ _ := takes_scanNumber hc hday
    Takes c _ _ := takes_scanBlank hc hblank₁
    Takes c _ _ := takes_scanWord hc months_alpha hmonth
    Takes c _ _ := takes_scanBlank hc hblank₂
    Takes c _ _ := takes_scanNumber hc hyear
    Takes c _ _ := takes_scanBlank hc hblank₃
    Takes c _ _ := takes_scanNumber hc hhour
    Takes c _ _ := takes_trimStart hc
    Takes c _ _ := takes_scanChar hcolon hsep
    Takes c _ _ := takes_trimStart hc
    Takes c _ _ := takes_scanNumber hc hminute
    Takes c _ _ := takes_scanSeconds hc hsecond
    Takes c _ _ := takes_scanBlank hc hblank₄
    Takes c _ _ := takes_scanZone hc hzone

/-! ### The first comma -/

section Comma

variable {x y : List Char} {d : DateTime}

theorem Takes.append (h : Takes c cs rest) (more : List Char) :
    Takes c (cs ++ more) (rest ++ more) := by
  obtain ⟨taken, rfl, htaken⟩ := h
  exact ⟨taken, List.append_assoc _ _ _, htaken⟩

/-- There is only one rest that begins with the first `c`. -/
theorem Takes.unique {q r : List Char} (hq : Takes c cs (c :: q)) (hr : Takes c cs (c :: r)) :
    q = r := by
  obtain ⟨a, rfl, ha⟩ := hq
  obtain ⟨b, hb, hnot⟩ := hr
  have hcut := Text.splitOnce_append_sep ha q
  rw [hb, Text.splitOnce_append_sep hnot] at hcut
  cases hcut
  rfl

/-- A mail date without a weekday holds foreign characters only in its comments. -/
theorem exists_comment (h : mailDate? cs = some d)
    (hword : scanWord weekdays (Text.trimStart cs) = none) (hforeign : Foreign c) (hc : c ∈ cs) :
    ∃ inside after fuel, (∀ e, Foreign e → Takes e cs ('(' :: inside)) ∧
      skipComment 1 inside = some after ∧ onlyComments fuel after = true := by
  obtain ⟨weekday, head, rest, hweekday, htakes, honly⟩ := mailDate?_eq_some h
  rw [scanWeekday, hword] at hweekday
  cases hweekday
  have hall : ∀ e, Foreign e → Takes e cs rest := fun e he =>
    (takes_trimStart he).trans (htakes e he)
  have hne : rest ≠ [] := List.ne_nil_of_mem ((hall c hforeign).mem hc)
  obtain ⟨fuel, inside, after, -, htrim, hskip, hafter⟩ := onlyComments_eq_true honly hne
  exact ⟨inside, after, fuel, fun e he => htrim ▸ (hall e he).trans (takes_trimStart he), hskip,
    hafter⟩

theorem scanWord_take (words : List (List Char)) (cs : List Char) :
    scanWord words (cs.take 3) = (scanWord words cs).map fun p => (p.1, []) := by
  rw [scanWord, scanWord, List.take_take, Nat.min_self, Option.bind_eq_bind, Option.map_bind,
    List.drop_eq_nil_of_le (List.length_take_le 3 cs)]
  rfl

/-- A weekday is letters and a comma, and the letters alone are no mail date. -/
theorem exists_weekday {i : Nat} {r : List Char} (h : mailDate? cs = some d)
    (hword : scanWord weekdays (Text.trimStart cs) = some (i, r)) :
    ∃ a letters rest, Text.trimStart cs = a :: letters ++ ',' :: rest ∧
      (∀ b ∈ a :: letters, b.isAlpha = true) ∧ mailDate? (a :: letters) = none := by
  obtain ⟨weekday, head, -, hweekday, -⟩ := mailDate?_eq_some h
  rw [scanWeekday, hword] at hweekday
  obtain ⟨rest, hcomma, -⟩ := Option.bind_eq_some_iff.mp hweekday
  obtain ⟨hmem, rfl⟩ := scanWord_eq_some hword
  have halpha := isAlpha_of_scanWord weekdays_alpha hword
  have hsplit := List.take_append_drop 3 (Text.trimStart cs)
  have halone := scanWord_take weekdays (Text.trimStart cs)
  rw [hword, Option.map_some] at halone
  rw [scanChar_eq_some hcomma] at hsplit
  cases hletters : (Text.trimStart cs).take 3 with
  | nil =>
    rw [hletters] at hmem
    exact absurd hmem (by decide)
  | cons a letters =>
    rw [hletters] at halpha hsplit halone
    refine ⟨a, letters, rest, hsplit.symm, halpha, ?_⟩
    have hnone : scanWeekday (a :: letters) = none := by
      rw [scanWeekday, halone]
      rfl
    rw [mailDate?, Text.trimStart_cons (isBlank_of_isAlpha (halpha a List.mem_cons_self)), hnone]
    rfl

theorem trim_of_weekday {word rest : List Char} (hx : ',' ∉ x)
    (hcut : Text.trimStart (x ++ ',' :: y) = word ++ ',' :: rest)
    (hword : ∀ a ∈ word, a.isAlpha = true) : Text.trim x = word := by
  have hblank : ∀ a ∈ word, Text.isBlank a = false := fun a ha => isBlank_of_isAlpha (hword a ha)
  obtain ⟨l, hl, htext⟩ := Text.exists_trimStart (x ++ ',' :: y)
  have hcomma : ',' ∉ l ++ word := by
    simp only [List.mem_append, not_or]
    exact ⟨Text.not_mem_of_allBlank (by decide) hl, fun hmem => Bool.noConfusion (hword _ hmem)⟩
  have hfirst := Text.splitOnce_append_sep hx y
  rw [htext, hcut, ← List.append_assoc, Text.splitOnce_append_sep hcomma] at hfirst
  cases hfirst
  have hpad := Text.trim_padding hl (rfl : Text.allBlank [] = true) word
  rwa [List.append_nil, Text.trim_eq_self_of_forall hblank] at hpad

theorem mem_before_comma {q : List Char} (h : Takes ',' (x ++ ',' :: y) (c :: q)) (hc : c ≠ ',') :
    c ∈ x := by
  obtain ⟨p, hp, hcomma⟩ := h
  obtain ⟨as, rfl, hrest⟩ | ⟨bs, rfl, hrest⟩ := List.append_eq_append_iff.mp hp
  · obtain _ | ⟨b, as⟩ := as
    · exact absurd (List.cons.inj hrest).1.symm hc
    · rw [← (List.cons.inj hrest).1] at hcomma
      exact absurd (List.mem_append_right x List.mem_cons_self) hcomma
  · obtain _ | ⟨b, bs⟩ := bs
    · exact absurd (List.cons.inj hrest).1 hc
    · rw [(List.cons.inj hrest).1]
      exact List.mem_append_right p List.mem_cons_self

/-- A text that ends within a comment is no date. -/
theorem not_date_within_comment {inside after : List Char} {fuel : Nat} (hx : ',' ∉ x)
    (htakes : ∀ e, Foreign e → Takes e (x ++ ',' :: y) ('(' :: inside))
    (hskip : skipComment 1 inside = some after) (hafter : onlyComments fuel after = true) :
    Text.trim x ≠ [] ∧ ∀ g ∈ forms, g (Text.trim x) = none := by
  obtain ⟨l, r, hl, hr, hpad⟩ := Text.exists_padding x
  have hopen : '(' ∈ Text.trim x := by
    have hmem : '(' ∈ x := mem_before_comma (htakes ',' foreign_comma) (by decide)
    rw [hpad, List.append_assoc, List.mem_append, List.mem_append] at hmem
    have hbefore := Text.not_mem_of_allBlank (by decide : Text.isBlank '(' = false) hl
    have hbehind := Text.not_mem_of_allBlank (by decide : Text.isBlank '(' = false) hr
    exact (hmem.resolve_left hbefore).resolve_right hbehind
  refine ⟨List.ne_nil_of_mem hopen, fun g hg => Option.eq_none_iff_forall_ne_some.mpr ?_⟩
  intro e he
  have hmail := (foreign_bracket.not_mem_of_form hg he).resolve_right (not_not_intro hopen)
  have hword : scanWord weekdays (Text.trimStart (Text.trim x)) = none := by
    refine Option.eq_none_iff_forall_ne_some.mpr fun word hword => ?_
    obtain ⟨a, letters, rest, hcut, -⟩ := exists_weekday hmail hword
    have hcomma : ',' ∈ Text.trimStart (Text.trim x) := by simp [hcut]
    exact hx (Text.mem_of_mem_trim ((List.dropWhile_suffix _).subset hcomma))
  obtain ⟨own, left, steps, htakesOwn, hskipOwn, hleft⟩ :=
    exists_comment hmail hword foreign_bracket hopen
  -- the same comments would go on with a comma
  have hmore : (Text.trimStart (r ++ ',' :: y)).head? = some ',' := by
    rw [Text.trimStart_append_of_allBlank hr]
    rfl
  have hinside : inside = own ++ (r ++ ',' :: y) := by
    refine (htakes '(' foreign_bracket).unique (Takes.trans ?_
      ((htakesOwn '(' foreign_bracket).append (r ++ ',' :: y)))
    refine ⟨l, ?_, Text.not_mem_of_allBlank (by decide) hl⟩
    conv => lhs; rw [hpad]
    simp only [List.append_assoc]
  rw [hinside, skipComment_append _ hskipOwn] at hskip
  cases hskip
  exact onlyComments_append hmore hleft fuel hafter

/-- What stands before the first comma of a date is neither blank nor a date. -/
theorem not_date_before_comma {f : List Char → Option DateTime} (hx : ',' ∉ x) (hf : f ∈ forms)
    (h : f (x ++ ',' :: y) = some d) :
    Text.trim x ≠ [] ∧ ∀ g ∈ forms, g (Text.trim x) = none := by
  have hmem : ',' ∈ x ++ ',' :: y := List.mem_append_right x List.mem_cons_self
  have hmail := (foreign_comma.not_mem_of_form hf h).resolve_right (not_not_intro hmem)
  cases hword : scanWord weekdays (Text.trimStart (x ++ ',' :: y)) with
  | some word =>
    obtain ⟨a, letters, rest, hcut, halpha, hnone⟩ := exists_weekday hmail hword
    rw [trim_of_weekday hx hcut halpha]
    refine ⟨List.cons_ne_nil a letters, fun g hg => Option.eq_none_iff_forall_ne_some.mpr ?_⟩
    intro e he
    rw [mailDate?_of_letter (halpha a List.mem_cons_self) hg he] at hnone
    cases hnone
  | none =>
    obtain ⟨inside, after, fuel, htakes, hskip, hafter⟩ :=
      exists_comment hmail hword foreign_comma hmem
    exact not_date_within_comment hx htakes hskip hafter

end Comma

end FieldRules.Calendar
