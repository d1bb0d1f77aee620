import Mathlib.Data.List.Induction
import FieldRules.Calendar.Forms
import FieldRules.Proofs.DayCount
import FieldRules.Proofs.Splitting
/-!
The forms in which one instant can be written. `Stamp.Writes` lists them for a date of a four-digit
year and a time of day; each text is read by the form it is meant for, although the forms before it
are tried first, and so all of them mean the same instant (`instantOfText?_of_writes`).
-/

attribute [local instance (high)] instPowNat

namespace FieldRules

/-! ### Digits of fixed width -/

theorem digitsValue_lt_pow {ds : List Char} (h : ∀ c ∈ ds, c.isDigit = true) :
    digitsValue ds < 10 ^ ds.length := by
  induction ds using List.reverseRecOn with
  | nil => decide
  | append_singleton ds c ih =>
    have hds := ih fun d hd => h d (List.mem_append_left _ hd)
    have hc : c.isDigit = true := h c (by simp)
    have hvalue : digitValue c < 10 := Nat.sub_lt_left_of_lt_add (Text.toNat_of_isDigit hc).1
      (Nat.lt_succ_of_le (Text.toNat_of_isDigit hc).2)
    rw [digitsValue_concat, List.length_append, List.length_singleton, Nat.pow_succ]
    omega

theorem toNat_of_isAlpha {c : Char} (h : c.isAlpha = true) : 65 ≤ c.toNat ∧ c.toNat ≤ 122 := by
  obtain hupper | hlower := (Bool.or_eq_true c.isUpper c.isLower).mp h
  · obtain ⟨hlow, hhigh⟩ : 65 ≤ c.toNat ∧ c.toNat ≤ 90 := of_decide_eq_true hupper
    exact ⟨hlow, Nat.le_trans hhigh (by decide)⟩
  · obtain ⟨hlow, hhigh⟩ := (Bool.and_eq_true _ _).mp hlower
    have hletter : 97 ≤ c.toNat := of_decide_eq_true hlow
    exact ⟨Nat.le_trans (by decide) hletter, of_decide_eq_true hhigh⟩

theorem isAlpha_of_isDigit {c : Char} (h : c.isDigit = true) : c.isAlpha = false := by
  refine Bool.eq_false_iff.mpr fun halpha => ?_
  have hletter := toNat_of_isAlpha halpha
  have hdigit := Text.toNat_of_isDigit h
  omega

theorem toLower_of_not_alpha {c : Char} (h : c.isAlpha = false) : c.toLower = c := by
  refine dif_neg fun hupper => ?_
  obtain ⟨hnot, -⟩ := (Bool.or_eq_false_iff (x := c.isUpper) (y := c.isLower)).mp h
  exact of_decide_eq_false hnot hupper

namespace Calendar

/-- The last `width` decimal digits of a number. -/
def padded : Nat → Nat → List Char
  | 0, _ => []
  | width + 1, n => padded width (n / 10) ++ [Nat.digitChar (n % 10)]

theorem digitChar_spec : ∀ d < 10,
    (Nat.digitChar d).isDigit = true ∧ digitValue (Nat.digitChar d) = d := by decide

theorem length_padded : ∀ width n : Nat, (padded width n).length = width
  | 0, _ => rfl
  | width + 1, n => by rw [padded, List.length_append, length_padded width, List.length_singleton]

theorem isDigit_of_mem_padded : ∀ {width n : Nat}, ∀ c ∈ padded width n, c.isDigit = true
  | 0, _, _, h => absurd h List.not_mem_nil
  | width + 1, n, c, h => by
    rw [padded, List.mem_append, List.mem_singleton] at h
    obtain h | rfl := h
    · exact isDigit_of_mem_padded c h
    · exact (digitChar_spec _ (Nat.mod_lt n (by decide))).1

theorem digitsValue_padded : ∀ {width n : Nat}, n < 10 ^ width → digitsValue (padded width n) = n
  | 0, n, h => by
    rw [Nat.pow_zero, Nat.lt_one_iff] at h
    exact h.symm
  | width + 1, n, h => by
    have hdigits : n / 10 < 10 ^ width := by
      rw [Nat.pow_succ] at h
      omega
    rw [padded, digitsValue_concat, digitsValue_padded hdigits,
      (digitChar_spec _ (Nat.mod_lt n (by decide))).2]
    omega

/-! ### Scanning digits -/

variable {width least n : Nat}

theorem scanNumber_padded (hleast : least ≤ width) (hn : n < 10 ^ width) (rest : List Char) :
    scanNumber least (some width) (padded width n ++ rest) = some (n, rest) := by
  have hlength := length_padded width n
  rw [scanNumber, List.takeWhile_append_of_pos isDigit_of_mem_padded]
  simp only [List.take_left' hlength, hlength, List.drop_left' hlength, digitsValue_padded hn]
  exact if_neg (Nat.not_lt_of_le hleast)

theorem scanNumber_padded_end (hleast : least ≤ width) (hn : n < 10 ^ width) :
    scanNumber least (some width) (padded width n) = some (n, []) := by
  rw [← List.append_nil (padded width n)]
  exact scanNumber_padded hleast hn []

theorem exists_padded_eq_cons (width n : Nat) : ∃ c ds, padded (width + 1) n = c :: ds ∧
    c.isDigit = true := by
  obtain ⟨c, ds, h⟩ := List.exists_cons_of_length_pos
    (Nat.lt_of_lt_of_eq width.succ_pos (length_padded (width + 1) n).symm)
  exact ⟨c, ds, h, isDigit_of_mem_padded c (h ▸ List.mem_cons_self)⟩

theorem trimStart_digit {c : Char} (hc : c.isDigit = true) (cs : List Char) :
    Text.trimStart (c :: cs) = c :: cs :=
  Text.trimStart_cons (Text.isBlank_of_isDigit hc) cs

/-- Without a blank or a sign in front a year is a number of at most four digits. -/
theorem scanYear_cons {c : Char} (hblank : Text.isBlank c = false) (hminus : c ≠ '-')
    (hplus : c ≠ '+') (cs : List Char) :
    scanYear (c :: cs) =
      (scanNumber 1 (some 4) (c :: cs)).bind fun p => some ((p.1 : Int), p.2) := by
  rw [scanYear, Text.trimStart_cons hblank]
  split
  · next heq => exact absurd (List.cons.inj heq).1 hminus
  · next heq => exact absurd (List.cons.inj heq).1 hplus
  · rfl

theorem scanPlain_padded (hn : n < 10 ^ (2 : Nat)) (rest : List Char) :
    scanPlain (padded 2 n ++ rest) = some (n, rest) := by
  have hscan := scanNumber_padded (by decide : 1 ≤ 2) hn rest
  obtain ⟨c, ds, hds, hc⟩ := exists_padded_eq_cons 1 n
  rw [hds] at hscan ⊢
  rw [scanPlain, List.cons_append, trimStart_digit hc, ← List.cons_append, hscan]

theorem scanPlain_padded_end (hn : n < 10 ^ (2 : Nat)) : scanPlain (padded 2 n) = some (n, []) := by
  rw [← List.append_nil (padded 2 n)]
  exact scanPlain_padded hn []

theorem scanYear_padded (hn : n < 10 ^ (4 : Nat)) (rest : List Char) :
    scanYear (padded 4 n ++ rest) = some ((n : Int), rest) := by
  have hscan := scanNumber_padded (by decide : 1 ≤ 4) hn rest
  obtain ⟨c, ds, hds, hc⟩ := exists_padded_eq_cons 3 n
  have hminus : c ≠ '-' := by
    rintro rfl
    cases hc
  have hplus : c ≠ '+' := by
    rintro rfl
    cases hc
  rw [hds, List.cons_append] at hscan ⊢
  rw [scanYear_cons (Text.isBlank_of_isDigit hc) hminus hplus, hscan]
  rfl

theorem scanYear_padded_end (hn : n < 10 ^ (4 : Nat)) :
    scanYear (padded 4 n) = some ((n : Int), []) := by
  rw [← List.append_nil (padded 4 n)]
  exact scanYear_padded hn []

/-- The separator of a timestamp may be a blank. -/
theorem scanChar_separator {sep : Char} (hsep : sep = 'T' ∨ sep = ' ') (rest : List Char) :
    (scanChar 'T' (sep :: rest) <|> scanChar 't' (sep :: rest) <|> scanChar ' ' (sep :: rest)) =
      some rest := by
  obtain rfl | rfl := hsep <;> rfl

theorem scanWord_eq_some {words : List (List Char)} {i : Nat} {cs rest : List Char}
    (h : scanWord words cs = some (i, rest)) :
    (cs.take 3).map Char.toLower ∈ words ∧ rest = cs.drop 3 := by
  obtain ⟨j, hj, heq⟩ := Option.bind_eq_some_iff.mp h
  cases heq
  obtain ⟨hlt, hword, -⟩ := List.findIdx?_eq_some_iff_getElem.mp hj
  exact ⟨eq_of_beq hword ▸ List.getElem_mem hlt, rfl⟩

theorem isAlpha_of_scanWord {words : List (List Char)} {i : Nat} {cs rest : List Char}
    (hwords : ∀ w ∈ words, ∀ c ∈ w, c.isAlpha = true) (h : scanWord words cs = some (i, rest)) :
    ∀ c ∈ cs.take 3, c.isAlpha = true := by
  intro c hc
  by_contra hnot
  rw [Bool.not_eq_true] at hnot
  have hmem := hwords _ (scanWord_eq_some h).1 c.toLower (List.mem_map_of_mem hc)
  rw [toLower_of_not_alpha hnot, hnot] at hmem
  cases hmem

theorem isAlpha_of_all {words : List (List Char)} (h : words.all (·.all (·.isAlpha)) = true) :
    ∀ w ∈ words, ∀ c ∈ w, c.isAlpha = true := by
  simpa only [List.all_eq_true] using h

theorem weekdays_alpha : ∀ w ∈ weekdays, ∀ c ∈ w, c.isAlpha = true := isAlpha_of_all (by decide)

/-- A number of three or more digits is no day of a month, so it begins no mail date. -/
theorem mailDate?_of_digits {a b c : Char} (ha : a.isDigit = true) (hb : b.isDigit = true)
    (hc : c.isDigit = true) (rest : List Char) : mailDate? (a :: b :: c :: rest) = none := by
  have hword : scanWord weekdays (a :: b :: c :: rest) = none := by
    refine Option.eq_none_iff_forall_ne_some.mpr fun x hx => ?_
    have halpha := isAlpha_of_scanWord weekdays_alpha hx a List.mem_cons_self
    rw [isAlpha_of_isDigit ha] at halpha
    cases halpha
  have hweekday : scanWeekday (Text.trimStart (a :: b :: c :: rest)) =
      some (none, a :: b :: c :: rest) := by
    rw [trimStart_digit ha, scanWeekday, hword]
  have hday : scanNumber 1 (some 2) (Text.trimStart (a :: b :: c :: rest)) =
      some (digitsValue [a, b], c :: rest) := by
    simp [trimStart_digit ha, scanNumber, ha, hb, hc]
  have hblank : scanBlank (c :: rest) = none := by
    simp [scanBlank, Text.isBlank_of_isDigit hc]
  refine Option.eq_none_iff_forall_ne_some.mpr fun d h => ?_
  obtain ⟨⟨_, _⟩, hhead, h⟩ := Option.bind_eq_some_iff.mp h
  rw [hweekday] at hhead
  cases hhead
  obtain ⟨⟨_, _⟩, hnumber, h⟩ := Option.bind_eq_some_iff.mp h
  rw [hday] at hnumber
  cases hnumber
  obtain ⟨_, hspace, -⟩ := Option.bind_eq_some_iff.mp h
  rw [hblank] at hspace
  cases hspace

theorem mailDate?_padded (year : Nat) (rest : List Char) :
    mailDate? (padded 4 year ++ rest) = none := by
  have hdigit : ∀ x ∈ padded 4 year, x.isDigit = true := isDigit_of_mem_padded
  obtain ⟨a, b, c, d, hyear⟩ := List.length_eq_four.mp (length_padded 4 year)
  rw [hyear] at hdigit ⊢
  exact mailDate?_of_digits (hdigit a (by simp)) (hdigit b (by simp)) (hdigit c (by simp)) _

theorem plainTime?_of_scanDate {sep : List Char → Option (List Char)} {cs : List Char}
    (h : scanDate cs = none) (seconds : Bool) : plainTime? sep seconds cs = none := by
  rw [plainTime?, h]
  rfl

/-! ### Stamps -/

/-- A date and a time of day as they are written, with the digits of a fraction of a second. -/
structure Stamp where
  year : Nat
  month : Nat
  day : Nat
  hour : Nat
  minute : Nat
  second : Nat
  fraction : List Char

namespace Stamp

def date (t : Stamp) : Date := ⟨t.year, t.month, t.day⟩

/-- A day of the calendar in a year of four digits, a time of day, and at most nine digits. -/
structure Valid (t : Stamp) : Prop where
  year_le : t.year ≤ 9999
  onCalendar : t.date.OnCalendar
  hour_le : t.hour ≤ 23
  minute_le : t.minute ≤ 59
  second_le : t.second ≤ 59
  digits : ∀ c ∈ t.fraction, c.isDigit = true
  length_le : t.fraction.length ≤ 9

/-- The fraction in billionths of a second. -/
def nanos (t : Stamp) : Nat := digitsValue t.fraction * 10 ^ (9 - t.fraction.length)

/-- The time of day in seconds. -/
def timeOfDay (t : Stamp) : Nat := 3600 * t.hour + 60 * t.minute + t.second

/-- The instant in universal time. -/
def instant (t : Stamp) : Instant := ⟨86400 * t.date.number + t.timeOfDay, t.nanos⟩

def AtMidnight (t : Stamp) : Prop := t.hour = 0 ∧ t.minute = 0 ∧ t.second = 0 ∧ t.fraction = []

/-! ### Written forms -/

def monthText (t : Stamp) : List Char := padded 4 t.year ++ '-' :: padded 2 t.month

def dateText (t : Stamp) : List Char := t.monthText ++ '-' :: padded 2 t.day

def hourMinuteText (hour minute : Nat) : List Char := padded 2 hour ++ ':' :: padded 2 minute

def minuteText (t : Stamp) : List Char := hourMinuteText t.hour t.minute

def fractionText (t : Stamp) : List Char := if t.fraction = [] then [] else '.' :: t.fraction

def secondText (t : Stamp) : List Char :=
  t.minuteText ++ ':' :: (padded 2 t.second ++ t.fractionText)

/-- The text writes the stamp for a clock that is some seconds ahead of universal time. -/
inductive Writes (t : Stamp) : List Char → Int → Prop
  | universal : Writes t (t.dateText ++ 'T' :: (t.secondText ++ ['Z'])) 0
  | ahead {hours minutes : Nat} : hours ≤ 23 → minutes ≤ 59 →
    Writes t (t.dateText ++ 'T' :: (t.secondText ++ '+' :: hourMinuteText hours minutes))
      (3600 * hours + 60 * minutes)
  | behind {hours minutes : Nat} : hours ≤ 23 → minutes ≤ 59 →
    Writes t (t.dateText ++ 'T' :: (t.secondText ++ '-' :: hourMinuteText hours minutes))
      (-(3600 * hours + 60 * minutes))
  | seconds {sep : Char} : sep = 'T' ∨ sep = ' ' → Writes t (t.dateText ++ sep :: t.secondText) 0
  | minutes {sep : Char} : sep = 'T' ∨ sep = ' ' → t.second = 0 → t.fraction = [] →
    Writes t (t.dateText ++ sep :: t.minuteText) 0
  | date : t.AtMidnight → Writes t t.dateText 0
  | month : t.AtMidnight → t.day = 1 → Writes t t.monthText 0
  | year : t.AtMidnight → t.day = 1 → t.month = 1 → Writes t (padded 4 t.year) 0

variable {t : Stamp}

theorem Valid.parts_lt (h : t.Valid) :
    t.year < 10 ^ (4 : Nat) ∧ t.month < 10 ^ (2 : Nat) ∧ t.day < 10 ^ (2 : Nat) ∧
    t.hour < 10 ^ (2 : Nat) ∧ t.minute < 10 ^ (2 : Nat) ∧ t.second < 10 ^ (2 : Nat) := by
  have hday : t.day ≤ 31 := Nat.le_trans h.onCalendar.day_le (Date.daysInMonth_le _ _)
  have hmonth : t.month ≤ 12 := h.onCalendar.month_le
  have := h.year_le
  have := h.hour_le
  have := h.minute_le
  have := h.second_le
  omega

theorem Valid.nanos_lt (h : t.Valid) : t.nanos < 10 ^ (9 : Nat) :=
  calc t.nanos < 10 ^ t.fraction.length * 10 ^ (9 - t.fraction.length) :=
        Nat.mul_lt_mul_of_pos_right (digitsValue_lt_pow h.digits) (Nat.pow_pos (by decide))
    _ = 10 ^ (9 : Nat) := by rw [← Nat.pow_add, Nat.add_sub_cancel' h.length_le]

theorem Valid.timeOfDay_lt (h : t.Valid) : t.timeOfDay < 86400 := by
  have := h.hour_le
  have := h.minute_le
  have := h.second_le
  rw [timeOfDay]
  omega

/-- The day of a stamp lies strictly between the ends of the calendar. -/
theorem Valid.number_between (h : t.Valid) :
    Date.first < t.date.number ∧ t.date.number < Date.last := by
  have hyear : (t.year : Int) ≤ 9999 := Int.ofNat_le.mpr h.year_le
  constructor
  · refine (Date.number_lt_iff ⟨?_, ?_, ?_, ?_⟩ h.onCalendar).mpr (.inl ?_)
    · decide
    · decide
    · decide
    · decide
    · exact Int.lt_of_lt_of_le (by decide) (Int.natCast_nonneg t.year)
  · refine (Date.number_lt_iff h.onCalendar ⟨?_, ?_, ?_, ?_⟩).mpr (.inl ?_)
    · decide
    · decide
    · decide
    · decide
    · exact Int.lt_of_le_of_lt hyear (by decide)

/-- The parts of a stamp as they are scanned, on a clock that is `offset` seconds ahead. -/
def dateTime (t : Stamp) (offset : Int) : DateTime :=
  ⟨t.date, t.hour, t.minute, t.second, t.nanos, offset⟩

/-- A stamp means its instant less the offset, on any clock less than a day off. -/
theorem Valid.instant?_dateTime (h : t.Valid) {offset : Int} (hlow : -86400 < offset)
    (hhigh : offset < 86400) :
    (t.dateTime offset).instant? = some ⟨t.instant.seconds - offset, t.instant.nanos⟩ := by
  have htime := h.timeOfDay_lt
  obtain ⟨hfirst, hlast⟩ := h.number_between
  have hsecond := h.second_le
  have hdate : t.date.Valid := ⟨Int.le_trans (by decide) (Int.natCast_nonneg t.year),
    Int.le_trans (Int.ofNat_le.mpr h.year_le) (by decide), h.onCalendar.month_pos,
    h.onCalendar.month_le, h.onCalendar.day_pos, h.onCalendar.day_le⟩
  have hvalid : (t.dateTime offset).Valid :=
    ⟨hdate, h.hour_le, h.minute_le, Nat.le_succ_of_le hsecond, h.nanos_lt, hlow, hhigh⟩
  have hseconds : (t.dateTime offset).seconds = t.instant.seconds - offset := by
    simp only [DateTime.seconds, dateTime, instant, timeOfDay]
    omega
  have hrange : Date.first ≤ (t.dateTime offset).seconds / 86400 ∧
      (t.dateTime offset).seconds / 86400 ≤ Date.last := by
    rw [hseconds]
    simp only [instant]
    omega
  rw [DateTime.instant?, if_pos ⟨hvalid, hrange⟩, hseconds]
  have hleap : ¬ t.second = 60 := by omega
  simp [dateTime, instant, hleap]

/-! ### Reading the parts -/

theorem Valid.scanDate_append (h : t.Valid) (rest : List Char) :
    scanDate (t.dateText ++ rest) = some (t.date, rest) := by
  obtain ⟨hyear, hmonth, hday, -⟩ := h.parts_lt
  simp only [scanDate, dateText, monthText, List.append_assoc, List.cons_append,
    scanYear_padded hyear, scanPlain_padded hmonth, scanPlain_padded hday, scanChar, if_true,
    Option.bind_eq_bind, Option.bind_some, date]

theorem Valid.scanDate_end (h : t.Valid) : scanDate t.dateText = some (t.date, []) := by
  rw [← List.append_nil t.dateText]
  exact h.scanDate_append []

/-- A fraction ends where neither a digit nor a point follows. -/
theorem Valid.scanFraction_append (h : t.Valid) {rest : List Char}
    (hrest : ∀ c, rest.head? = some c → c.isDigit = false ∧ c ≠ '.') :
    scanFraction (t.fractionText ++ rest) = some (t.nanos, rest) := by
  rw [fractionText, nanos]
  have hstop : rest.takeWhile (·.isDigit) = [] ∧ rest.dropWhile (·.isDigit) = rest := by
    cases rest with
    | nil => exact ⟨rfl, rfl⟩
    | cons c rest => simp [(hrest c rfl).1]
  split
  · next hnone =>
    rw [List.nil_append, hnone]
    cases rest with
    | nil => rfl
    | cons c rest =>
      rw [scanFraction]
      · rfl
      · rintro _ ⟨⟩
        exact (hrest '.' rfl).2 rfl
  · next hsome =>
    have htake : (t.fraction ++ rest).takeWhile (·.isDigit) = t.fraction := by
      rw [List.takeWhile_append_of_pos h.digits, hstop.1, List.append_nil]
    have hdrop : (t.fraction ++ rest).dropWhile (·.isDigit) = rest := by
      rw [List.dropWhile_append_of_pos h.digits, hstop.2]
    rw [List.cons_append, scanFraction, scanNanos, htake, hdrop,
      List.take_of_length_le h.length_le]
    exact if_neg hsome

theorem Valid.timestamp?_append (h : t.Valid) {sep : Char} (hsep : sep = 'T' ∨ sep = ' ')
    {zone : List Char} (hzone : ∀ c, zone.head? = some c → c.isDigit = false ∧ c ≠ '.') :
    timestamp? (t.dateText ++ sep :: (t.secondText ++ zone)) = (scanOffset zone).bind
      fun (offset, rest) => if rest = [] then some (t.dateTime offset) else none := by
  obtain ⟨hyear, hmonth, hday, hhour, hminute, hsecond⟩ := h.parts_lt
  have htime := scanChar_separator hsep (t.secondText ++ zone)
  simp only [timestamp?, dateText, monthText, List.append_assoc, List.cons_append,
    scanNumber_padded (Nat.le_refl 4) hyear, scanNumber_padded (Nat.le_refl 2) hmonth,
    scanNumber_padded (Nat.le_refl 2) hday, scanChar, if_true, Option.bind_eq_bind,
    Option.bind_some] at htime ⊢
  rw [htime]
  simp only [secondText, minuteText, hourMinuteText, List.append_assoc, List.cons_append,
    scanNumber_padded (Nat.le_refl 2) hhour, scanNumber_padded (Nat.le_refl 2) hminute,
    scanNumber_padded (Nat.le_refl 2) hsecond, if_true, Option.bind_some,
    h.scanFraction_append hzone, dateTime, date]

/-- A timestamp needs its seconds. -/
theorem Valid.timestamp?_minutes (h : t.Valid) {sep : Char} (hsep : sep = 'T' ∨ sep = ' ') :
    timestamp? (t.dateText ++ sep :: t.minuteText) = none := by
  obtain ⟨hyear, hmonth, hday, hhour, hminute, -⟩ := h.parts_lt
  have htime := scanChar_separator hsep t.minuteText
  simp only [timestamp?, dateText, monthText, List.append_assoc, List.cons_append,
    scanNumber_padded (Nat.le_refl 4) hyear, scanNumber_padded (Nat.le_refl 2) hmonth,
    scanNumber_padded (Nat.le_refl 2) hday, scanChar, if_true, Option.bind_eq_bind,
    Option.bind_some] at htime ⊢
  rw [htime]
  simp only [minuteText, hourMinuteText, scanNumber_padded (Nat.le_refl 2) hhour,
    scanNumber_padded_end (Nat.le_refl 2) hminute, if_true, Option.bind_some, Option.bind_none]

theorem Valid.timestamp?_date (h : t.Valid) : timestamp? t.dateText = none := by
  obtain ⟨hyear, hmonth, hday, -⟩ := h.parts_lt
  simp [timestamp?, dateText, monthText, scanNumber_padded (Nat.le_refl 4) hyear,
    scanNumber_padded (Nat.le_refl 2) hmonth, scanNumber_padded_end (Nat.le_refl 2) hday, scanChar]

theorem Valid.timestamp?_month (h : t.Valid) : timestamp? t.monthText = none := by
  obtain ⟨hyear, hmonth, -⟩ := h.parts_lt
  simp [timestamp?, monthText, scanNumber_padded (Nat.le_refl 4) hyear,
    scanNumber_padded_end (Nat.le_refl 2) hmonth, scanChar]

theorem Valid.timestamp?_year (h : t.Valid) : timestamp? (padded 4 t.year) = none := by
  simp [timestamp?, scanNumber_padded_end (Nat.le_refl 4) h.parts_lt.1, scanChar]

/-! ### Offsets -/

theorem scanHoursMinutes_append {hours minutes : Nat} (hhours : hours ≤ 23)
    (hminutes : minutes ≤ 59) :
    scanHoursMinutes (scanChar ':') (hourMinuteText hours minutes) =
      some (3600 * hours + 60 * minutes, []) := by
  have hend := scanNumber_padded_end (Nat.le_refl 2) (by omega : minutes < 10 ^ (2 : Nat))
  simp only [scanHoursMinutes, hourMinuteText, scanChar, hend, if_true, Option.bind_eq_bind,
    scanNumber_padded (Nat.le_refl 2) (by omega : hours < 10 ^ (2 : Nat)), Option.bind_some]
  exact if_pos (Nat.lt_succ_of_le hminutes)

theorem scanOffset_sign {hours minutes : Nat} (hhours : hours ≤ 23) (hminutes : minutes ≤ 59) :
    let ahead : Int := 3600 * hours + 60 * minutes
    scanOffset ('+' :: hourMinuteText hours minutes) = some (ahead, []) ∧
      scanOffset ('-' :: hourMinuteText hours minutes) = some (-ahead, []) := by
  have hscan := scanHoursMinutes_append hhours hminutes
  have hday : 3600 * hours + 60 * minutes < 86400 := by omega
  constructor <;> simp [scanOffset, hscan, hday]

/-! ### Plain forms -/

section Plain

variable {sep : List Char → Option (List Char)} {rest : List Char}

theorem Valid.plainTime?_of_sep (h : t.Valid) (hsep : sep rest = none) (seconds : Bool) :
    plainTime? sep seconds (t.dateText ++ rest) = none := by
  simp only [plainTime?, h.scanDate_append, hsep, Option.bind_eq_bind, Option.bind_some,
    Option.bind_none]

theorem Valid.plainTime?_date (h : t.Valid) (hsep : sep [] = some []) (seconds : Bool) :
    plainTime? sep seconds t.dateText = none := by
  simp only [plainTime?, h.scanDate_end, hsep, Option.bind_eq_bind, Option.bind_some]
  rfl

theorem Valid.plainTime?_seconds (h : t.Valid) (hsep : sep rest = some t.secondText) :
    plainTime? sep true (t.dateText ++ rest) = some (t.dateTime 0) := by
  obtain ⟨-, -, -, hhour, hminute, hsecond⟩ := h.parts_lt
  have hfraction : scanFraction t.fractionText = some (t.nanos, []) := by
    rw [← List.append_nil t.fractionText]
    exact h.scanFraction_append nofun
  simp only [plainTime?, h.scanDate_append, hsep, secondText, minuteText, hourMinuteText,
    List.append_assoc, List.cons_append, scanPlain_padded hhour, scanPlain_padded hminute,
    scanPlain_padded hsecond, hfraction, scanChar, if_true, Option.bind_eq_bind, Option.bind_some,
    dateTime]

/-- The form with seconds does not fit a time without them, and the form without them does. -/
theorem Valid.plainTime?_minutes (h : t.Valid) (hsep : sep rest = some t.minuteText) :
    plainTime? sep true (t.dateText ++ rest) = none ∧
    plainTime? sep false (t.dateText ++ rest) = some ⟨t.date, t.hour, t.minute, 0, 0, 0⟩ := by
  obtain ⟨-, -, -, hhour, hminute, -⟩ := h.parts_lt
  have hend := scanPlain_padded_end hminute
  constructor <;>
  simp only [plainTime?, h.scanDate_append, hsep, minuteText, hourMinuteText, hend,
    scanPlain_padded hhour, scanChar, if_true, Option.bind_eq_bind, Option.bind_some,
    Option.bind_none, Bool.false_eq_true, if_false]

end Plain

/-! ### Short forms -/

theorem bytes_eq_length {cs : List Char} (h : ∀ c ∈ cs, c.isDigit = true ∨ c = '-') :
    cs.foldr (fun c n => c.utf8Size + n) 0 = cs.length := by
  induction cs with
  | nil => rfl
  | cons c cs ih =>
    have hc : c.utf8Size = 1 := by
      obtain hdigit | rfl := h c List.mem_cons_self
      · exact if_pos (UInt32.le_iff_toNat_le.mpr
          (Nat.le_trans (Text.toNat_of_isDigit hdigit).2 (by decide)))
      · rfl
    rw [List.foldr_cons, ih fun d hd => h d (List.mem_cons_of_mem c hd), hc, List.length_cons,
      Nat.add_comm]

theorem digit_or_hyphen_of_mem_dateText (t : Stamp) :
    ∀ c ∈ t.dateText, c.isDigit = true ∨ c = '-' := by
  intro c hc
  simp only [dateText, monthText, List.append_assoc, List.cons_append, List.mem_append,
    List.mem_cons] at hc
  obtain hc | hc | hc | hc | hc := hc
  exacts [.inl (isDigit_of_mem_padded c hc), .inr hc, .inl (isDigit_of_mem_padded c hc), .inr hc,
    .inl (isDigit_of_mem_padded c hc)]

theorem Valid.shortForm?_date (h : t.Valid) : shortForm? t.dateText = some (midnight t.date) := by
  have hbytes := bytes_eq_length t.digit_or_hyphen_of_mem_dateText
  have hlength : t.dateText.length = 10 := by
    simp [dateText, monthText, length_padded]
  simp [shortForm?, hbytes, hlength, plainDate?, h.scanDate_end]

theorem Valid.shortForm?_month (h : t.Valid) (hday : t.day = 1) :
    shortForm? t.monthText = some (midnight t.date) := by
  have hmem : ∀ c ∈ t.monthText, c.isDigit = true ∨ c = '-' := fun c hc =>
    t.digit_or_hyphen_of_mem_dateText c (List.mem_append_left _ hc)
  have hbytes := bytes_eq_length hmem
  have hlength : t.monthText.length = 7 := by
    simp [monthText, length_padded]
  have hdate := h.scanDate_end
  have hfirst : t.dateText = t.monthText ++ ['-', '0', '1'] := by
    rw [dateText, hday]
    rfl
  rw [hfirst] at hdate
  simp [shortForm?, hbytes, hlength, plainDate?, hdate]

theorem Valid.shortForm?_year (h : t.Valid) (hmonth : t.month = 1) (hday : t.day = 1) :
    shortForm? (padded 4 t.year) = some (midnight t.date) := by
  have hdigits : ∀ c ∈ padded 4 t.year, c.isDigit = true := isDigit_of_mem_padded
  have hbytes := bytes_eq_length fun c hc => .inl (hdigits c hc)
  rw [length_padded] at hbytes
  have hall : (padded 4 t.year).all (·.isDigit) = true := List.all_eq_true.mpr hdigits
  simp [shortForm?, hbytes, hall, digitsValue_padded h.parts_lt.1, date, hmonth, hday]

theorem Valid.scanDate_month (h : t.Valid) : scanDate t.monthText = none := by
  obtain ⟨hyear, hmonth, -⟩ := h.parts_lt
  simp [scanDate, monthText, scanYear_padded hyear, scanPlain_padded_end hmonth, scanChar]

theorem Valid.scanDate_year (h : t.Valid) : scanDate (padded 4 t.year) = none := by
  simp [scanDate, scanYear_padded_end h.parts_lt.1, scanChar]

/-! ### All forms -/

/-- A form gives these parts and no form before it fits the text. -/
def ReadAs (text : List Char) (parts : DateTime) : Prop :=
  ∃ k form, forms[k]? = some form ∧ form text = some parts ∧ ∀ f ∈ forms.take k, f text = none

theorem ReadAs.findSome? {text : List Char} {parts : DateTime} {x : Instant}
    (h : ReadAs text parts) (hx : parts.instant? = some x) :
    forms.findSome? (fun f => (f text).bind DateTime.instant?) = some x := by
  obtain ⟨k, form, hk, hform, hbefore⟩ := h
  have hnone : (forms.take k).findSome? (fun f => (f text).bind DateTime.instant?) = none :=
    List.findSome?_eq_none_iff.mpr fun f hf => by rw [hbefore f hf, Option.bind_none]
  obtain ⟨hlt, hget⟩ := List.getElem?_eq_some_iff.mp hk
  rw [← List.take_append_drop k forms, List.findSome?_append, hnone, Option.none_or,
    List.drop_eq_getElem_cons hlt, List.findSome?_cons, hget, hform, Option.bind_some, hx]

theorem Writes.exists_year {text : List Char} {offset : Int} (hw : t.Writes text offset) :
    ∃ rest, text = padded 4 t.year ++ rest := by
  cases hw with
  | year => exact ⟨[], (List.append_nil _).symm⟩
  | month => exact ⟨_, rfl⟩
  | date => exact ⟨_, by rw [dateText, monthText, List.append_assoc]⟩
  | _ => exact ⟨_, by rw [dateText, monthText, List.append_assoc, List.append_assoc]⟩

/-- No written form is taken for a mail date. -/
theorem Writes.mailDate?_eq_none {text : List Char} {offset : Int} (hw : t.Writes text offset) :
    mailDate? text = none := by
  obtain ⟨rest, rfl⟩ := hw.exists_year
  exact mailDate?_padded t.year rest

theorem Writes.offset_lt {text : List Char} {offset : Int} (hw : t.Writes text offset) :
    -86400 < offset ∧ offset < 86400 := by
  cases hw <;> omega

theorem Valid.timestamp?_zone (h : t.Valid) {zone : List Char} {offset : Int}
    (hhead : ∀ c, zone.head? = some c → c.isDigit = false ∧ c ≠ '.')
    (hzone : scanOffset zone = some (offset, [])) :
    timestamp? (t.dateText ++ 'T' :: (t.secondText ++ zone)) = some (t.dateTime offset) := by
  rw [h.timestamp?_append (.inl rfl) hhead, hzone, Option.bind_some]
  exact if_pos rfl

theorem Valid.timestamp?_seconds (h : t.Valid) {sep : Char} (hsep : sep = 'T' ∨ sep = ' ') :
    timestamp? (t.dateText ++ sep :: t.secondText) = none := by
  have hopen : timestamp? (t.dateText ++ sep :: (t.secondText ++ [])) = _ :=
    h.timestamp?_append hsep nofun
  rwa [List.append_nil] at hopen

theorem withSpace_minuteText (t : Stamp) (rest : List Char) :
    withSpace (' ' :: (t.minuteText ++ rest)) = some (t.minuteText ++ rest) := by
  obtain ⟨c, ds, hds, hc⟩ := exists_padded_eq_cons 1 t.hour
  rw [minuteText, hourMinuteText, hds, withSpace]
  exact congrArg some (trimStart_digit hc _)

theorem AtMidnight.dateTime_eq (h : t.AtMidnight) : t.dateTime 0 = midnight t.date := by
  obtain ⟨hhour, hminute, hsecond, hfraction⟩ := h
  simp [dateTime, midnight, hhour, hminute, hsecond, nanos, hfraction, digitsValue]

/-- Each written form is read by the form it is meant for. -/
theorem Writes.readAs {text : List Char} {offset : Int} (hw : t.Writes text offset)
    (h : t.Valid) : ReadAs text (t.dateTime offset) := by
  have hmail := hw.mailDate?_eq_none
  cases hw with
  | universal => exact ⟨0, _, rfl, h.timestamp?_zone (by simp) rfl, nofun⟩
  | ahead hhours hminutes =>
    exact ⟨0, _, rfl, h.timestamp?_zone (by simp) (scanOffset_sign hhours hminutes).1, nofun⟩
  | behind hhours hminutes =>
    exact ⟨0, _, rfl, h.timestamp?_zone (by simp) (scanOffset_sign hhours hminutes).2, nofun⟩
  | seconds hsep =>
    have htimestamp := h.timestamp?_seconds hsep
    obtain rfl | rfl := hsep
    · exact ⟨2, _, rfl, h.plainTime?_seconds rfl, by simp [forms, htimestamp, hmail]⟩
    · have hT : withT (' ' :: t.secondText) = none := rfl
      have hspace : withSpace (' ' :: t.secondText) = some t.secondText :=
        t.withSpace_minuteText _
      exact ⟨4, _, rfl, h.plainTime?_seconds hspace,
        by simp [forms, htimestamp, hmail, h.plainTime?_of_sep hT]⟩
  | minutes hsep hsecond hfraction =>
    have htimestamp := h.timestamp?_minutes hsep
    have hparts : t.dateTime 0 = ⟨t.date, t.hour, t.minute, 0, 0, 0⟩ := by
      simp [dateTime, hsecond, nanos, hfraction, digitsValue]
    rw [hparts]
    obtain rfl | rfl := hsep
    · have hT : withT ('T' :: t.minuteText) = some t.minuteText := rfl
      obtain ⟨hlong, hshort⟩ := h.plainTime?_minutes hT
      exact ⟨3, _, rfl, hshort, by simp [forms, htimestamp, hmail, hlong]⟩
    · have hT : withT (' ' :: t.minuteText) = none := rfl
      have hspace : withSpace (' ' :: t.minuteText) = some t.minuteText := by
        simpa using t.withSpace_minuteText []
      obtain ⟨hlong, hshort⟩ := h.plainTime?_minutes hspace
      exact ⟨5, _, rfl, hshort, by simp [forms, htimestamp, hmail, h.plainTime?_of_sep hT, hlong]⟩
  | date hmidnight =>
    have hT := h.plainTime?_of_sep (rfl : withT [] = none)
    have hspace := h.plainTime?_date (rfl : withSpace [] = some [])
    rw [List.append_nil] at hT
    rw [hmidnight.dateTime_eq]
    exact ⟨6, _, rfl, h.shortForm?_date,
      by simp [forms, h.timestamp?_date, hmail, hT, hspace]⟩
  | month hmidnight hday =>
    rw [hmidnight.dateTime_eq]
    exact ⟨6, _, rfl, h.shortForm?_month hday, by
      simp [forms, h.timestamp?_month, hmail, plainTime?_of_scanDate h.scanDate_month]⟩
  | year hmidnight hday hmonth =>
    rw [hmidnight.dateTime_eq]
    exact ⟨6, _, rfl, h.shortForm?_year hmonth hday, by
      simp [forms, h.timestamp?_year, hmail, plainTime?_of_scanDate h.scanDate_year]⟩

/-! ### Padding -/

theorem any_isBlank_padded (width n : Nat) : (padded width n).any Text.isBlank = false :=
  List.any_eq_false.mpr fun c hc => by
    rw [Text.isBlank_of_isDigit (isDigit_of_mem_padded c hc)]
    decide

theorem any_isBlank_hourMinuteText (hour minute : Nat) :
    (hourMinuteText hour minute).any Text.isBlank = false := by
  rw [hourMinuteText, List.any_append, any_isBlank_padded, List.any_cons, any_isBlank_padded]
  decide

theorem Valid.any_isBlank_secondText (h : t.Valid) : t.secondText.any Text.isBlank = false := by
  have hdigits : t.fraction.any Text.isBlank = false :=
    List.any_eq_false.mpr fun c hc => by
      rw [Text.isBlank_of_isDigit (h.digits c hc)]
      decide
  have hfraction : t.fractionText.any Text.isBlank = false := by
    rw [fractionText]
    split
    · rfl
    · rw [List.any_cons, hdigits]
      decide
  rw [secondText, List.any_append, minuteText, any_isBlank_hourMinuteText, List.any_cons,
    List.any_append, any_isBlank_padded, hfraction]
  decide

/-- A written form ends with a word. -/
theorem Writes.exists_last {text : List Char} {offset : Int} (hw : t.Writes text offset)
    (h : t.Valid) : ∃ front last, text = front ++ last ∧ last ≠ [] ∧
      last.any Text.isBlank = false := by
  have hword : ∀ width n, padded (width + 1) n ≠ [] := fun width n => by simp [padded]
  have hclock : ∀ hour minute, hourMinuteText hour minute ≠ [] :=
    fun hour minute => List.append_ne_nil_of_right_ne_nil _ (List.cons_ne_nil _ _)
  cases hw with
  | universal =>
    exact ⟨t.dateText ++ 'T' :: t.secondText, ['Z'], by simp, by simp, by decide⟩
  | @ahead hours minutes =>
    exact ⟨t.dateText ++ 'T' :: (t.secondText ++ ['+']), hourMinuteText hours minutes, by simp,
      hclock _ _, any_isBlank_hourMinuteText _ _⟩
  | @behind hours minutes =>
    exact ⟨t.dateText ++ 'T' :: (t.secondText ++ ['-']), hourMinuteText hours minutes, by simp,
      hclock _ _, any_isBlank_hourMinuteText _ _⟩
  | seconds =>
    exact ⟨_, _, List.append_cons _ _ _, by simp [secondText], h.any_isBlank_secondText⟩
  | minutes => exact ⟨_, _, List.append_cons _ _ _, hclock _ _, any_isBlank_hourMinuteText _ _⟩
  | date => exact ⟨_, _, List.append_cons _ _ _, hword _ _, any_isBlank_padded _ _⟩
  | month => exact ⟨_, _, List.append_cons _ _ _, hword _ _, any_isBlank_padded _ _⟩
  | year => exact ⟨[], padded 4 t.year, rfl, hword _ _, any_isBlank_padded _ _⟩

theorem Writes.trim_eq {text : List Char} {offset : Int} (hw : t.Writes text offset)
    (h : t.Valid) : Text.trim text = text := by
  obtain ⟨rest, hfront⟩ := hw.exists_year
  obtain ⟨front, last, hback, hnil, hblank⟩ := hw.exists_last h
  exact Text.trim_eq_self_of_ends hfront hback (by simp [padded]) hnil (any_isBlank_padded _ _)
    hblank

/-- Whatever form a stamp is written in, it is read back as its instant less the offset. -/
theorem Writes.instantOfText? {text : List Char} {offset : Int} (hw : t.Writes text offset)
    (h : t.Valid) : instantOfText? (String.ofList text) =
      some ⟨t.instant.seconds - offset, t.instant.nanos⟩ := by
  have hnil : text ≠ [] := by
    obtain ⟨rest, rfl⟩ := hw.exists_year
    simp [padded]
  rw [Calendar.instantOfText?, String.toList_ofList, hw.trim_eq h, if_neg hnil]
  exact (hw.readAs h).findSome? (h.instant?_dateTime hw.offset_lt.1 hw.offset_lt.2)

/-! ### Order -/

/-- Year, month, day, hour, minute, second and fraction. -/
def key (t : Stamp) : List Nat :=
  [t.year, t.month, t.day, t.hour, t.minute, t.second, t.nanos]

theorem timeOfDay_lt_iff {u : Stamp} (ht : t.Valid) (hu : u.Valid) :
    t.timeOfDay < u.timeOfDay ↔ t.hour < u.hour ∨ t.hour = u.hour ∧
      (t.minute < u.minute ∨ t.minute = u.minute ∧ t.second < u.second) := by
  have := ht.minute_le
  have := hu.minute_le
  have := ht.second_le
  have := hu.second_le
  rw [timeOfDay, timeOfDay]
  omega

/-- Instants are ordered as stamps are part by part. -/
theorem Valid.instant_lt_iff {u : Stamp} (ht : t.Valid) (hu : u.Valid) :
    t.instant < u.instant ↔ t.key < u.key := by
  have hdate := Date.number_lt_iff ht.onCalendar hu.onCalendar
  have hdate' := Date.number_lt_iff hu.onCalendar ht.onCalendar
  simp only [date, Int.ofNat_lt, Int.ofNat_inj] at hdate hdate'
  have hsame : t.date.number = u.date.number ↔
      t.year = u.year ∧ t.month = u.month ∧ t.day = u.day := by
    simp only [date]
    omega
  have hclock := timeOfDay_lt_iff ht hu
  have hclock' := timeOfDay_lt_iff hu ht
  have hsameClock : t.timeOfDay = u.timeOfDay ↔
      t.hour = u.hour ∧ t.minute = u.minute ∧ t.second = u.second := by omega
  have hinstant : t.instant < u.instant ↔ t.date.number < u.date.number ∨
      t.date.number = u.date.number ∧
        (t.timeOfDay < u.timeOfDay ∨ t.timeOfDay = u.timeOfDay ∧ t.nanos < u.nanos) := by
    have := ht.timeOfDay_lt
    have := hu.timeOfDay_lt
    change _ < _ ∨ _ = _ ∧ _ < _ ↔ _
    simp only [instant]
    omega
  rw [hinstant, hsame, date, date, hdate, hclock, hsameClock]
  simp only [key, List.cons_lt_cons_iff, List.lt_irrefl, and_false, or_false, and_or_left,
    and_assoc, or_assoc]

end Stamp

/-- Blank characters around a text do not matter to its instant. -/
theorem instantOfText?_padding {l r : List Char} (hl : Text.allBlank l = true)
    (hr : Text.allBlank r = true) (text : List Char) :
    instantOfText? (String.ofList (l ++ text ++ r)) = instantOfText? (String.ofList text) := by
  rw [instantOfText?, instantOfText?, String.toList_ofList, String.toList_ofList,
    Text.trim_padding hl hr]

/-- Every written form of a stamp means its instant less the offset, padding aside; instants count
the days of the calendar and the seconds of the day, in the order of the parts of the stamps. -/
theorem date_forms_are_coherent :
    (∀ (t : Stamp) (text : List Char) (offset : Int), t.Valid → t.Writes text offset →
      instantOfText? (String.ofList text) =
        some ⟨86400 * t.date.number + t.timeOfDay - offset, t.nanos⟩) ∧
    (∀ l r text : List Char, Text.allBlank l = true → Text.allBlank r = true →
      instantOfText? (String.ofList (l ++ text ++ r)) = instantOfText? (String.ofList text)) ∧
    Date.number ⟨1970, 1, 1⟩ = 0 ∧
    (∀ d : Date, d.OnCalendar → d.next.OnCalendar ∧ d.next.number = d.number + 1) ∧
    ∀ t u : Stamp, t.Valid → u.Valid → (t.instant < u.instant ↔ t.key < u.key) :=
  ⟨fun _ _ _ h hw => hw.instantOfText? h,
    fun _ _ text hl hr => instantOfText?_padding hl hr text, Date.number_epoch,
    fun _ h => ⟨h.next, Date.number_next h⟩, fun _ _ ht hu => ht.instant_lt_iff hu⟩

/-- The leap day of 2024 at half a second after 10:30:15 on a clock two hours ahead, and its first
instant with blank characters around the date. -/
theorem date_forms_on_leap_day :
    let late : Stamp := ⟨2024, 2, 29, 10, 30, 15, ['5']⟩
    let midnight : Stamp := ⟨2024, 2, 29, 0, 0, 0, []⟩
    let before : Date := ⟨2024, 2, 28⟩
    late.Valid ∧ late.Writes "2024-02-29T10:30:15.5+02:00".toList 7200 ∧ midnight.Valid ∧
      midnight.Writes "2024-02-29".toList 0 ∧ before.OnCalendar ∧
      instantOfText? "2024-02-29T10:30:15.5+02:00" = some ⟨1709195415, 500000000⟩ ∧
      instantOfText? (String.ofList (' ' :: ("2024-02-29".toList ++ ['\n']))) =
        some ⟨1709164800, 0⟩ ∧
      before.next = midnight.date ∧ before.next.number = before.number + 1 ∧
      midnight.instant < late.instant := by
  intro late midnight before
  obtain ⟨hforms, hpadding, -, hnext, horder⟩ := date_forms_are_coherent
  have hlate : late.Valid :=
    ⟨by decide, ⟨by decide, by decide, by decide, by decide⟩, by decide, by decide, by decide,
      List.forall_mem_singleton.mpr (by decide), by decide⟩
  have hmidnight : midnight.Valid :=
    ⟨by decide, ⟨by decide, by decide, by decide, by decide⟩, by decide, by decide, by decide,
      List.forall_mem_nil _, by decide⟩
  have hbefore : before.OnCalendar := by
    refine ⟨?_, ?_, ?_, ?_⟩ <;> decide
  have htext : "2024-02-29T10:30:15.5+02:00".toList =
      late.dateText ++ 'T' :: (late.secondText ++ '+' :: Stamp.hourMinuteText 2 0) := by decide
  have hahead : late.Writes "2024-02-29T10:30:15.5+02:00".toList 7200 :=
    htext ▸ Stamp.Writes.ahead (by decide : 2 ≤ 23) (by decide : 0 ≤ 59)
  have hdate : "2024-02-29".toList = midnight.dateText := by decide
  have hday : midnight.Writes "2024-02-29".toList 0 := hdate ▸ .date ⟨rfl, rfl, rfl, rfl⟩
  have hinstant := hforms late _ _ hlate hahead
  rw [String.ofList_toList] at hinstant
  have hpadded := (hpadding [' '] ['\n'] "2024-02-29".toList (by decide) (by decide)).trans
    (hforms midnight _ _ hmidnight hday)
  exact ⟨hlate, hahead, hmidnight, hday, hbefore, hinstant.trans (by decide),
    hpadded.trans (by decide), by decide, (hnext before hbefore).2,
    (horder midnight late hmidnight hlate).mpr (by decide)⟩

end Calendar

end FieldRules
