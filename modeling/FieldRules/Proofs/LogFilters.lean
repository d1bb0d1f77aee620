import Mathlib.Data.String.Basic
import FieldRules.Command.LogFilter
import FieldRules.Proofs.Splitting
/-!
When a log filter breaks off. The parts of a directive are cut where positions of the trimmed text
say, so reading goes on as long as these are positions of the whole text (`Aligned`). They are where
no directive begins with a blank, and in ASCII text (`IsPlain.read_ne_broken`).
-/

namespace FieldRules.Command.LogFilter

open String (utf8Len utf8Len_nil utf8Len_cons utf8Len_append utf8Len_eq_zero)

/-! ### Positions -/

theorem cut?_append (before after : List Char) :
    cut? (utf8Len before) (before ++ after) = some (before, after) := by
  induction before with
  | nil => rw [utf8Len_nil, List.nil_append, cut?]
  | cons c cs ih =>
    obtain ⟨n, hn⟩ : ∃ n, utf8Len (c :: cs) = n + 1 := Nat.exists_eq_add_one.mpr <| by
      rw [utf8Len_cons]
      exact Nat.add_pos_right _ c.utf8Size_pos
    have hrest : n + 1 - c.utf8Size = utf8Len cs := by
      rw [← hn, utf8Len_cons, Nat.add_sub_cancel]
    have hfits : c.utf8Size ≤ n + 1 := by
      rw [← hn, utf8Len_cons]
      exact Nat.le_add_left _ _
    rw [hn, List.cons_append, cut?, if_pos hfits, hrest, ih]
    rfl

/-- Some characters of the text end there. -/
def IsPosition (text : List Char) (n : Nat) : Prop := ∃ before, before <+: text ∧ utf8Len before = n

variable {text : List Char} {start stop i : Nat}

theorem exists_rest (h : IsPosition text start) : ∃ cs, rest text start = .ok cs := by
  obtain ⟨before, ⟨after, rfl⟩, rfl⟩ := h
  exact ⟨after, by rw [rest, cut?_append]⟩

theorem exists_part (hstart : IsPosition text start) (hstop : IsPosition text stop)
    (hle : start ≤ stop) : ∃ cs, part text start stop = .ok cs := by
  obtain ⟨a, ha, rfl⟩ := hstart
  obtain ⟨b, hb, rfl⟩ := hstop
  obtain ⟨middle, rfl⟩ : a <+: b := by
    rcases List.prefix_or_prefix_of_prefix ha hb with h | ⟨more, rfl⟩
    · exact h
    · rw [utf8Len_append] at hle
      have hmore : more = [] := utf8Len_eq_zero.mp (by omega)
      exact ⟨[], by rw [hmore, List.append_nil, List.append_nil]⟩
  obtain ⟨after, rfl⟩ := hb
  refine ⟨middle, ?_⟩
  rw [part, List.append_assoc, cut?_append, Option.bind_some, utf8Len_append,
    Nat.add_sub_cancel_left, cut?_append]

/-! ### Reading on -/

/-- The result is of a kind, or the text was no filter; reading has not broken off. -/
def Unbroken {α : Type} (P : α → Prop) : Except Fault α → Prop
  | .ok a => P a
  | .error f => f = .invalid

theorem Unbroken.bind {α β : Type} {P : α → Prop} {Q : β → Prop} {x : Except Fault α}
    {f : α → Except Fault β} (hx : Unbroken P x) (hf : ∀ a, P a → Unbroken Q (f a)) :
    Unbroken Q (x >>= f) := by
  cases x with
  | ok a => exact hf a hx
  | error fault => exact hx

theorem Unbroken.ne_broken {α : Type} {P : α → Prop} {x : Except Fault α} (h : Unbroken P x) :
    x ≠ .error .broken := by
  rintro rfl
  cases h

/-- Where the part of a stage begins. -/
def Stage.start? : Stage → Option Nat
  | name start | span start | field start | level start => some start
  | nothing | fields | closed => none

/-- The part of the stage begins at a position that has been passed. -/
def Stage.Fits (text : List Char) (i : Nat) (stage : Stage) : Prop :=
  ∀ start, stage.start? = some start → IsPosition text start ∧ start ≤ i

theorem Stage.Fits.unbroken_part {stage : Stage} (h : stage.Fits text i) (hi : IsPosition text i)
    (hstart : stage.start? = some start) : Unbroken (fun _ => True) (part text start i) := by
  obtain ⟨cs, hcs⟩ := exists_part (h start hstart).1 hi (h start hstart).2
  rw [hcs]
  trivial

/-- Reading one character leads to a stage that fits behind it. -/
theorem unbroken_step {c : Char} {stage : Stage} (h : stage.Fits text i) (hi : IsPosition text i)
    (hnext : IsPosition text (i + c.utf8Size)) :
    Unbroken (Stage.Fits text (i + c.utf8Size)) (step text i c stage) := by
  have hsame : stage.Fits text (i + c.utf8Size) := fun start hstart =>
    ⟨(h start hstart).1, Nat.le_add_right_of_le (h start hstart).2⟩
  -- a mark takes one byte, and what begins behind it begins at the next position
  have hbehind : ∀ next : Stage, c.utf8Size = 1 → next.start? = some (i + 1) →
      next.Fits text (i + c.utf8Size) := by
    rintro next hone hstart _ heq
    cases hstart.symm.trans heq
    exact hone ▸ ⟨hnext, Nat.le_refl _⟩
  have hnone : ∀ next : Stage, next.start? = none → next.Fits text (i + c.utf8Size) := by
    intro next hstart _ heq
    cases hstart.symm.trans heq
  cases stage with
  | nothing =>
    rw [step]
    split_ifs with hc
    · exact hbehind (.span _) (hc ▸ rfl) rfl
    · rintro start ⟨⟩
      exact ⟨hi, Nat.le_add_right _ _⟩
    · rfl
  | name start =>
    rw [step]
    split_ifs with hc hc'
    · exact (h.unbroken_part hi rfl).bind fun _ _ => hbehind (.level _) (hc ▸ rfl) rfl
    · exact (h.unbroken_part hi rfl).bind fun _ _ => hbehind (.span _) (hc' ▸ rfl) rfl
    · exact hsame
  | span start =>
    rw [step]
    split_ifs with hc hc'
    · exact (h.unbroken_part hi rfl).bind fun _ _ => hnone .closed rfl
    · exact (h.unbroken_part hi rfl).bind fun _ _ => hbehind (.field _) (hc' ▸ rfl) rfl
    · exact hsame
  | field start =>
    rw [step]
    split_ifs with hc
    · refine (h.unbroken_part hi rfl).bind fun field _ => ?_
      split_ifs
      · exact hnone .fields rfl
      · rfl
    · exact hsame
  | fields =>
    rw [step]
    split_ifs
    · exact hnone .closed rfl
    · rfl
  | closed =>
    rw [step]
    split_ifs with hc
    · exact hbehind (.level _) (hc ▸ rfl) rfl
    · rfl
  | level start => exact hsame

theorem unbroken_finish {stage : Stage} (h : stage.Fits text i) :
    Unbroken (fun _ => True) (finish text stage) := by
  have hrest : ∀ start, stage.start? = some start → ∃ cs, rest text start = .ok cs :=
    fun start hstart => exists_rest (h start hstart).1
  cases stage with
  | name start =>
    obtain ⟨cs, hcs⟩ := hrest start rfl
    rw [finish, hcs]
    trivial
  | level start =>
    obtain ⟨cs, hcs⟩ := hrest start rfl
    rw [finish, hcs]
    change Unbroken _ (if cs = [] ∨ isLevel cs then _ else _)
    split_ifs
    · trivial
    · rfl
  | closed => trivial
  | nothing | span _ | field _ | fields => rfl

theorem unbroken_readFrom : ∀ {cs : List Char} {i : Nat} {stage : Stage}, stage.Fits text i →
    (∀ before, before <+: cs → IsPosition text (i + utf8Len before)) →
      Unbroken (fun _ => True) (readFrom text i stage cs)
  | [], _, _, h, _ => unbroken_finish h
  | c :: cs, i, stage, h, hpositions => by
    have hi : IsPosition text i := hpositions [] List.nil_prefix
    have hnext : IsPosition text (i + c.utf8Size) := by
      have hone := hpositions [c] ⟨cs, rfl⟩
      rwa [utf8Len_cons, utf8Len_nil, Nat.zero_add] at hone
    refine (unbroken_step h hi hnext).bind fun stage' hstage' => ?_
    refine unbroken_readFrom hstage' fun before hbefore => ?_
    have hlonger := hpositions (c :: before) (List.cons_prefix_cons.mpr ⟨rfl, hbefore⟩)
    rwa [utf8Len_cons, Nat.add_comm (utf8Len before), ← Nat.add_assoc] at hlonger

/-! ### Filters -/

/-- The positions of the trimmed text are positions of the text. -/
def Aligned (text : List Char) : Prop :=
  ∀ before, before <+: Text.trim text → IsPosition text (utf8Len before)

theorem Aligned.unbroken (h : Aligned text) : Unbroken (fun _ => True) (readDirective text) := by
  refine unbroken_readFrom (fun _ hstart => nomatch hstart) fun before hbefore => ?_
  rw [Nat.zero_add]
  exact h before hbefore

theorem aligned_of_visible_front (h : text.head?.any Text.isBlank = false) : Aligned text := by
  have htrim : Text.trimStart text = text := by
    cases text with
    | nil => rfl
    | cons c cs => exact Text.trimStart_cons h cs
  obtain ⟨after, -, htext⟩ := Text.exists_trimEnd text
  intro before hbefore
  rw [Text.trim, htrim] at hbefore
  exact ⟨before, hbefore.trans ⟨after, htext.symm⟩, rfl⟩

theorem utf8Len_of_ascii :
    ∀ {cs : List Char}, (∀ c ∈ cs, c.utf8Size = 1) → utf8Len cs = cs.length
  | [], _ => rfl
  | c :: cs, h => by
    obtain ⟨hc, hcs⟩ := List.forall_mem_cons.mp h
    rw [utf8Len_cons, hc, utf8Len_of_ascii hcs, List.length_cons]

theorem aligned_of_ascii (h : ∀ c ∈ text, c.utf8Size = 1) : Aligned text := by
  intro before hbefore
  have hmem : ∀ c ∈ before, c.utf8Size = 1 := fun c hc =>
    h c (Text.mem_of_mem_trim (hbefore.subset hc))
  have hle : before.length ≤ text.length := hbefore.length_le.trans (Text.length_trim_le text)
  refine ⟨text.take before.length, List.take_prefix _ _, ?_⟩
  rw [utf8Len_of_ascii hmem, utf8Len_of_ascii fun c hc => h c (List.mem_of_mem_take hc),
    List.length_take_of_le hle]

/-- Each directive begins with no blank or is written in ASCII. -/
def IsPlain (s : String) : Prop :=
  ∀ directive ∈ Text.split ',' s.toList,
    directive.head?.any Text.isBlank = false ∨ ∀ c ∈ directive, c.utf8Size = 1

instance (s : String) : Decidable (IsPlain s) :=
  inferInstanceAs (Decidable (∀ directive ∈ Text.split ',' s.toList,
    directive.head?.any Text.isBlank = false ∨ ∀ c ∈ directive, c.utf8Size = 1))

/-- Reading a plain filter does not break off. -/
theorem IsPlain.read_ne_broken {s : String} (h : IsPlain s) : read s ≠ .error .broken := by
  have hdirectives : ∀ directives : List (List Char), (∀ d ∈ directives, Aligned d) →
      Unbroken (fun _ => True) (directives.forM readDirective) := by
    intro directives haligned
    induction directives with
    | nil => trivial
    | cons d ds ih =>
      obtain ⟨hd, hds⟩ := List.forall_mem_cons.mp haligned
      exact hd.unbroken.bind fun _ _ => ih hds
  refine (hdirectives _ fun directive hmem => ?_).ne_broken
  rcases h directive (List.mem_filter.mp hmem).1 with hfront | hascii
  · exact aligned_of_visible_front hfront
  · exact aligned_of_ascii hascii

end FieldRules.Command.LogFilter
