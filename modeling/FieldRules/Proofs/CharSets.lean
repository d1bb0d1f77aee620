import Mathlib.Data.List.Basic
import FieldRules.Pattern.Classes
import FieldRules.Text.Blank
/-!
What sets of characters hold. Ranges that are put together stay in order (`ordered_ofRanges`), which
is what the complement relies on (`has_complement`); so union and complement are those of sets of
numbers, and the blank characters of patterns are those that trimming takes off (`has_space`).
-/

namespace FieldRules.CharSet

variable {n top : Nat} {s t : CharSet} {l : List (Nat × Nat)}

theorem has_iff : s.has n = true ↔ ∃ r ∈ s.ranges, r.1 ≤ n ∧ n ≤ r.2 := by
  simp [has, inRange]

theorem has_single {m : Nat} : (single m).has n = true ↔ n = m := by
  simp only [has_iff, single, List.mem_singleton, exists_eq_left]
  omega

/-! ### Ranges in order -/

/-- In the order of their lower ends, none empty and none beyond `top`. -/
structure Ordered (top : Nat) (l : List (Nat × Nat)) : Prop where
  sorted : l.Pairwise fun a b => a.1 ≤ b.1
  bounded : ∀ r ∈ l, r.1 ≤ r.2 ∧ r.2 ≤ top

theorem ordered_cons {r : Nat × Nat} : Ordered top (r :: l) ↔
    (∀ q ∈ l, r.1 ≤ q.1) ∧ (r.1 ≤ r.2 ∧ r.2 ≤ top) ∧ Ordered top l := by
  constructor
  · rintro ⟨hsorted, hbounded⟩
    rw [List.pairwise_cons] at hsorted
    exact ⟨hsorted.1, hbounded r List.mem_cons_self, hsorted.2,
      fun q hq => hbounded q (List.mem_cons_of_mem _ hq)⟩
  · rintro ⟨hfirst, hr, hsorted, hbounded⟩
    exact ⟨List.pairwise_cons.mpr ⟨hfirst, hsorted⟩, List.forall_mem_cons.mpr ⟨hr, hbounded⟩⟩

/-- Joining ranges that meet moves no lower end below the first and leaves the others in order. -/
theorem ordered_mergeFrom : ∀ {l : List (Nat × Nat)} {lo hi : Nat}, Ordered top ((lo, hi) :: l) →
    Ordered top (mergeFrom lo hi l) ∧ ∀ r ∈ mergeFrom lo hi l, lo ≤ r.1
  | [], lo, hi, h => ⟨h, by simp [mergeFrom]⟩
  | (lo', hi') :: rest, lo, hi, h => by
    obtain ⟨hfirst, hr, hrest⟩ := ordered_cons.mp h
    obtain ⟨hfirst', hr', hrest'⟩ := ordered_cons.mp hrest
    have hlo := hfirst _ List.mem_cons_self
    rw [mergeFrom]
    split
    · refine ordered_mergeFrom (ordered_cons.mpr ⟨fun q hq => ?_, ?_, hrest'⟩)
      · exact hfirst q (List.mem_cons_of_mem _ hq)
      · simp only at hr hr' ⊢
        omega
    · obtain ⟨hmerged, hlower⟩ := ordered_mergeFrom hrest
      refine ⟨ordered_cons.mpr ⟨fun q hq => Nat.le_trans hlo (hlower q hq), hr, hmerged⟩, ?_⟩
      exact List.forall_mem_cons.mpr ⟨Nat.le_refl lo, fun q hq => Nat.le_trans hlo (hlower q hq)⟩

theorem exists_mem_mergeFrom_iff : ∀ {l : List (Nat × Nat)} {lo hi : Nat},
    Ordered top ((lo, hi) :: l) → ((∃ r ∈ mergeFrom lo hi l, r.1 ≤ n ∧ n ≤ r.2) ↔
      ∃ r ∈ (lo, hi) :: l, r.1 ≤ n ∧ n ≤ r.2)
  | [], _, _, _ => Iff.rfl
  | (lo', hi') :: rest, lo, hi, h => by
    obtain ⟨hfirst, hr, hrest⟩ := ordered_cons.mp h
    obtain ⟨hfirst', hr', hrest'⟩ := ordered_cons.mp hrest
    have hlo := hfirst _ List.mem_cons_self
    rw [mergeFrom]
    split
    · have hjoined : Ordered top ((lo, max hi hi') :: rest) := by
        refine ordered_cons.mpr ⟨fun q hq => hfirst q (List.mem_cons_of_mem _ hq), ?_, hrest'⟩
        simp only at hr hr' ⊢
        omega
      rw [exists_mem_mergeFrom_iff hjoined]
      simp only [List.exists_mem_cons_iff] at hr hr' hlo ⊢
      rw [← or_assoc]
      refine or_congr_left ?_
      omega
    · rw [List.exists_mem_cons_iff, List.exists_mem_cons_iff, exists_mem_mergeFrom_iff hrest]

/-! ### Set algebra -/

/-- The ranges of a set that was put together are in order, and it holds what was put in. -/
theorem ofRanges_spec (h : ∀ r ∈ l, r.2 ≤ top) : Ordered top (ofRanges l).ranges ∧
    ∀ n, (ofRanges l).has n = true ↔ ∃ r ∈ l, r.1 ≤ n ∧ n ≤ r.2 := by
  have hperm := List.mergeSort_perm (l.filter fun r => r.1 ≤ r.2) fun a b => a.1 ≤ b.1
  have hsorted := @List.pairwise_mergeSort _ (fun a b : Nat × Nat => a.1 ≤ b.1)
    (fun a b c hab hbc => by simp only [decide_eq_true_eq] at *; omega)
    (fun a b => by simp only [Bool.or_eq_true, decide_eq_true_eq]; omega)
    (l.filter fun r => r.1 ≤ r.2)
  have hmem : ∀ r, r ∈ (l.filter fun r => r.1 ≤ r.2).mergeSort (fun a b => a.1 ≤ b.1) ↔
      r ∈ l ∧ r.1 ≤ r.2 := fun r => by rw [hperm.mem_iff, List.mem_filter, decide_eq_true_eq]
  -- ranges that are empty hold nothing
  have hput : ∀ n, (∃ r ∈ l, r.1 ≤ n ∧ n ≤ r.2) ↔
      ∃ r ∈ (l.filter fun r => r.1 ≤ r.2).mergeSort (fun a b => a.1 ≤ b.1), r.1 ≤ n ∧ n ≤ r.2 := by
    simp only [hmem]
    exact fun n => ⟨fun ⟨r, hr, hn⟩ => ⟨r, ⟨hr, Nat.le_trans hn.1 hn.2⟩, hn⟩,
      fun ⟨r, hr, hn⟩ => ⟨r, hr.1, hn⟩⟩
  have hordered : Ordered top ((l.filter fun r => r.1 ≤ r.2).mergeSort fun a b => a.1 ≤ b.1) :=
    ⟨hsorted.imp of_decide_eq_true, fun r hr => ⟨((hmem r).mp hr).2, h r ((hmem r).mp hr).1⟩⟩
  simp only [hput, has_iff, ofRanges]
  split
  · next hnil =>
    rw [hnil] at hordered ⊢
    exact ⟨hordered, fun n => Iff.rfl⟩
  · next lo hi rest hcons =>
    rw [hcons] at hordered ⊢
    exact ⟨(ordered_mergeFrom hordered).1, fun n => exists_mem_mergeFrom_iff hordered⟩

theorem ordered_union (hs : Ordered top s.ranges) (ht : Ordered top t.ranges) :
    Ordered top (union s t).ranges ∧
      ∀ n, (union s t).has n = true ↔ s.has n = true ∨ t.has n = true := by
  have hbounded : ∀ r ∈ s.ranges ++ t.ranges, r.2 ≤ top := fun r hr =>
    (List.mem_append.mp hr).elim (fun hr => (hs.bounded r hr).2) fun hr => (ht.bounded r hr).2
  obtain ⟨hordered, hhas⟩ := ofRanges_spec hbounded
  refine ⟨hordered, fun n => (hhas n).trans ?_⟩
  simp only [has_iff, List.mem_append, or_and_right, exists_or]

/-- The gaps between ranges in order are what lies outside them. -/
theorem exists_mem_gapsFrom_iff : ∀ {l : List (Nat × Nat)} {start : Nat}, Ordered top l →
    ((∃ r ∈ gapsFrom top start l, r.1 ≤ n ∧ n ≤ r.2) ↔
      start ≤ n ∧ n ≤ top ∧ ¬ ∃ r ∈ l, r.1 ≤ n ∧ n ≤ r.2)
  | [], start, _ => by
    rw [gapsFrom]
    split
    · simp
    · simp only [List.not_mem_nil, false_and, exists_false, not_false_eq_true, and_true, false_iff]
      omega
  | (lo, hi) :: rest, start, h => by
    obtain ⟨hfirst, hr, hrest⟩ := ordered_cons.mp h
    have hbefore : (∃ r ∈ rest, r.1 ≤ n ∧ n ≤ r.2) → lo ≤ n := fun ⟨r, hr, hle, _⟩ =>
      Nat.le_trans (hfirst r hr) hle
    rw [List.exists_mem_cons_iff, not_or, gapsFrom]
    simp only at hr ⊢
    split
    · rw [List.exists_mem_cons_iff, exists_mem_gapsFrom_iff hrest]
      by_cases hin : ∃ r ∈ rest, r.1 ≤ n ∧ n ≤ r.2
      · have hlo := hbefore hin
        simp only [hin, not_true_eq_false, and_false, or_false, iff_false]
        omega
      · simp only [hin, not_false_eq_true, and_true]
        omega
    · rw [exists_mem_gapsFrom_iff hrest, ← and_assoc, ← and_assoc, ← and_assoc]
      refine and_congr_left fun _ => ?_
      omega

theorem has_complement (h : Ordered top s.ranges) :
    (complement top s).has n = true ↔ n ≤ top ∧ ¬ s.has n = true := by
  rw [has_iff, complement, exists_mem_gapsFrom_iff h, has_iff]
  exact and_iff_right (Nat.zero_le n)

/-! ### Blank characters -/

/-- Patterns and trimming have the same blank characters. -/
theorem ordered_space : Ordered maxPoint space.ranges ∧
    ∀ c : Char, space.has c.toNat = true ↔ Text.isBlank c = true := by
  let blanks : List (Nat × Nat) := [(9, 13), (0x20, 0x20), (0x85, 0x85), (0xA0, 0xA0),
    (0x1680, 0x1680), (0x2000, 0x200A), (0x2028, 0x2029), (0x202F, 0x202F), (0x205F, 0x205F),
    (0x3000, 0x3000)]
  have hspace : space = ofRanges blanks :=
    congrArg ofRanges (by decide +kernel : (["whitespace"].flatMap fun n =>
      ((Unicode.under? Unicode.properties n).map Unicode.ranges).getD []) = blanks)
  obtain ⟨hordered, hhas⟩ := ofRanges_spec (by decide : ∀ r ∈ blanks, r.2 ≤ maxPoint)
  rw [hspace]
  refine ⟨hordered, fun c => (hhas c.toNat).trans ?_⟩
  simp only [blanks, List.exists_mem_cons_iff, Text.isBlank, Bool.or_eq_true, Bool.and_eq_true,
    beq_iff_eq, decide_eq_true_eq]
  simp only [List.not_mem_nil, false_and, exists_false, or_false]
  omega

end FieldRules.CharSet
