import Mathlib.Logic.Function.Iterate
import FieldRules.Pattern.Search
/-!
The search for a pattern and the meaning of patterns. A plan takes a set of positions to the positions
where matches from them end (`follows_run`), so that `occurs` answers whether the pattern matches
somewhere (`occurs_iff`). The one condition is that no repetition asks for more rounds than it allows;
a repetition without upper bound is cut short because matches only go forward, and rounds that stand
still can be left out (`Steps.shorten`).
-/

attribute [local instance (high)] instPowNat

namespace FieldRules

/-- No repetition asks for more rounds than it allows. -/
def Pattern.WellFormed : Pattern → Prop
  | empty | set _ | edge _ => True
  | seq p q | alt p q => p.WellFormed ∧ q.WellFormed
  | rep p least most => p.WellFormed ∧ ∀ m, most = some m → least ≤ m

/-! ### Rounds of a repetition -/

/-- A way from `i` to `j` in `n` steps of a relation. -/
def Steps (R : Nat → Nat → Prop) : Nat → Nat → Nat → Prop
  | 0, i, j => i = j
  | n + 1, i, j => ∃ k, R i k ∧ Steps R n k j

namespace Steps

variable {R : Nat → Nat → Prop} {i j : Nat}

theorem exists_path_iff : ∀ {n i : Nat},
    (∃ path : Nat → Nat, path 0 = i ∧ path n = j ∧ ∀ k, k < n → R (path k) (path (k + 1))) ↔
      Steps R n i j
  | 0, i => by
    constructor
    · rintro ⟨path, rfl, rfl, -⟩
      rfl
    · rintro rfl
      exact ⟨fun _ => i, rfl, rfl, fun k hk => absurd hk k.not_lt_zero⟩
  | n + 1, i => by
    rw [Steps]
    constructor
    · rintro ⟨path, rfl, hj, hR⟩
      refine ⟨path 1, hR 0 n.succ_pos, exists_path_iff.mp ⟨fun k => path (k + 1), rfl, hj, ?_⟩⟩
      exact fun k hk => hR (k + 1) (Nat.succ_lt_succ hk)
    · rintro ⟨k, hik, hk⟩
      obtain ⟨path, rfl, hj, hR⟩ := exists_path_iff.mpr hk
      refine ⟨fun m => m.casesOn i path, rfl, hj, fun m hm => ?_⟩
      cases m with
      | zero => exact hik
      | succ m => exact hR m (Nat.lt_of_succ_lt_succ hm)

theorem add_iff {m n : Nat} : ∀ {i : Nat},
    Steps R (m + n) i j ↔ ∃ k, Steps R m i k ∧ Steps R n k j := by
  induction m with
  | zero => simp [Steps]
  | succ m ih =>
    intro i
    rw [Nat.succ_add]
    simp only [Steps, ih]
    exact ⟨fun ⟨k, hk, l, hl, hj⟩ => ⟨l, ⟨k, hk, hl⟩, hj⟩,
      fun ⟨l, ⟨k, hk, hl⟩, hj⟩ => ⟨k, hk, l, hl, hj⟩⟩

/-- What one step preserves, a way preserves. -/
theorem preserves {P : Nat → Prop} (hR : ∀ i k, R i k → P i → P k) :
    ∀ {n i : Nat}, Steps R n i j → P i → P j
  | 0, _, rfl, hi => hi
  | _ + 1, i, ⟨k, hik, hk⟩, hi => hk.preserves hR (hR i k hik hi)

theorem le (hR : ∀ i k, R i k → i ≤ k) {n : Nat} (h : Steps R n i j) : i ≤ j :=
  h.preserves (P := fun k => i ≤ k) (fun k l hkl hk => Nat.le_trans hk (hR k l hkl)) (Nat.le_refl i)

/-- Rounds that stand still can be left out. -/
theorem shorten (hR : ∀ i k, R i k → i ≤ k) : ∀ {n i : Nat}, Steps R n i j →
    ∃ m, m ≤ j - i ∧ m ≤ n ∧ Steps R m i j
  | 0, i, h => ⟨0, Nat.zero_le _, Nat.le_refl _, h⟩
  | n + 1, i, ⟨k, hik, hk⟩ => by
    obtain ⟨m, hm, hmn, hsteps⟩ := shorten hR hk
    have hkj := le hR hk
    obtain rfl | hlt := Nat.eq_or_lt_of_le (hR i k hik)
    · exact ⟨m, hm, by omega, hsteps⟩
    · exact ⟨m + 1, by omega, by omega, k, hik, hsteps⟩

end Steps

/-! ### Matches go forward -/

namespace Pattern

variable {text : List Char}

theorem matches_rep_iff {p : Pattern} {least : Nat} {most : Option Nat} {i j : Nat} :
    (rep p least most).Matches text i j ↔
      ∃ n, least ≤ n ∧ (∀ m, most = some m → n ≤ m) ∧ Steps (p.Matches text) n i j := by
  simp only [Matches, Steps.exists_path_iff]

theorem Matches.le : ∀ {p : Pattern} {i j : Nat}, p.Matches text i j → i ≤ j
  | empty, _, _, h => Nat.le_of_eq h
  | set _, _, _, ⟨h, _⟩ => by omega
  | edge _, _, _, ⟨h, _⟩ => Nat.le_of_eq h
  | seq _ _, _, _, ⟨_, hp, hq⟩ => Nat.le_trans hp.le hq.le
  | alt _ _, _, _, h => h.elim Matches.le Matches.le
  | rep p _ _, _, _, h => by
    obtain ⟨n, -, -, hsteps⟩ := matches_rep_iff.mp h
    exact hsteps.le fun i k hik => hik.le

theorem Matches.le_length : ∀ {p : Pattern} {i j : Nat}, p.Matches text i j → i ≤ text.length →
    j ≤ text.length
  | empty, _, _, h, hi => h ▸ hi
  | set _, _, _, ⟨hj, _, hc, _⟩, _ => by
    have := (List.getElem?_eq_some_iff.mp hc).1
    omega
  | edge _, _, _, ⟨h, _⟩, hi => h ▸ hi
  | seq _ _, _, _, ⟨_, hp, hq⟩, hi => hq.le_length (hp.le_length hi)
  | alt _ _, _, _, h, hi => h.elim (·.le_length hi) (·.le_length hi)
  | rep p _ _, _, _, h, hi => by
    obtain ⟨n, -, -, hsteps⟩ := matches_rep_iff.mp h
    exact hsteps.preserves (P := (· ≤ text.length)) (fun _ _ => Matches.le_length) hi

end Pattern

/-! ### Sets of positions -/

namespace Plan

open Pattern

theorem testBit_add_two_mul (b : Bool) (n : Nat) : ∀ i : Nat,
    ((if b then 1 else 0) + 2 * n).testBit i = if i = 0 then b else n.testBit (i - 1)
  | 0 => by cases b <;> simp
  | i + 1 => by
    rw [Nat.testBit_succ, if_neg i.succ_ne_zero, Nat.succ_sub_one]
    congr 1
    split <;> omega

theorem testBit_places (s : CharSet) : ∀ (text : List Char) (i : Nat),
    (places s text).testBit i = true ↔ ∃ c, text[i]? = some c ∧ s.has c.toNat = true
  | [], i => by simp [places]
  | c :: cs, 0 => by
    rw [places, testBit_add_two_mul, if_pos rfl]
    simp
  | c :: cs, i + 1 => by
    rw [places, testBit_add_two_mul, if_neg i.succ_ne_zero, Nat.succ_sub_one, testBit_places s cs i,
      List.getElem?_cons_succ]

theorem testBit_edges (holds : Option Char → Option Char → Bool) :
    ∀ (text : List Char) (before : Option Char) (i : Nat),
      (edges holds before text).testBit i = true ↔ i ≤ text.length ∧
        holds (if i = 0 then before else text[i - 1]?) text[i]? = true
  | [], before, i => by
    rw [edges, ← Nat.add_zero (ite _ _ _), ← Nat.mul_zero 2, testBit_add_two_mul]
    cases i <;> simp
  | c :: cs, before, 0 => by
    rw [edges, testBit_add_two_mul, if_pos rfl]
    simp
  | c :: cs, before, i + 1 => by
    rw [edges, testBit_add_two_mul, if_neg i.succ_ne_zero, Nat.succ_sub_one,
      testBit_edges holds cs (some c) i]
    cases i <;> simp

/-- Stopping early makes no difference. -/
theorem iterate_eq (f : Nat → Nat) : ∀ n : Nat, iterate f n = f^[n]
  | 0 => rfl
  | n + 1 => by
    funext s
    rw [iterate, iterate_eq f n, Function.iterate_succ_apply]
    split
    · next h => rw [h, Function.iterate_fixed h]
    · rfl

/-! ### Runs -/

/-- A set of positions of a text. -/
def Within (text : List Char) (s : Nat) : Prop := ∀ i, s.testBit i = true → i ≤ text.length

/-- The function takes sets of positions to the positions that the relation leads to. -/
structure Follows (text : List Char) (R : Nat → Nat → Prop) (f : Nat → Nat) : Prop where
  within : ∀ i j, R i j → i ≤ text.length → j ≤ text.length
  testBit : ∀ s, Within text s → ∀ j, (f s).testBit j = true ↔ ∃ i, s.testBit i = true ∧ R i j

namespace Follows

variable {text : List Char} {R S : Nat → Nat → Prop} {f g : Nat → Nat}

theorem within_apply (h : Follows text R f) {s : Nat} (hs : Within text s) : Within text (f s) := by
  intro j hj
  obtain ⟨i, hi, hij⟩ := (h.testBit s hs j).mp hj
  exact h.within i j hij (hs i hi)

theorem congr (h : Follows text R f) (hRS : ∀ i j, i ≤ text.length → (R i j ↔ S i j)) :
    Follows text S f := by
  refine ⟨fun i j hij hi => h.within i j ((hRS i j hi).mpr hij) hi, fun s hs j => ?_⟩
  rw [h.testBit s hs]
  exact exists_congr fun i => and_congr_right fun hi => hRS i j (hs i hi)

protected theorem id : Follows text (fun i j => i = j) id :=
  ⟨fun _ _ hij hi => hij ▸ hi, by simp⟩

theorem comp (hf : Follows text R f) (hg : Follows text S g) :
    Follows text (fun i j => ∃ k, R i k ∧ S k j) fun s => g (f s) := by
  refine ⟨fun i j ⟨k, hik, hkj⟩ hi => hg.within k j hkj (hf.within i k hik hi), fun s hs j => ?_⟩
  rw [hg.testBit _ (hf.within_apply hs)]
  simp only [hf.testBit s hs]
  exact ⟨fun ⟨k, ⟨i, hi, hik⟩, hkj⟩ => ⟨i, hi, k, hik, hkj⟩,
    fun ⟨i, hi, k, hik, hkj⟩ => ⟨k, ⟨i, hi, hik⟩, hkj⟩⟩

theorem or (hf : Follows text R f) (hg : Follows text S g) :
    Follows text (fun i j => R i j ∨ S i j) fun s => f s ||| g s := by
  refine ⟨fun i j hij hi => hij.elim (hf.within i j · hi) (hg.within i j · hi), fun s hs j => ?_⟩
  rw [Nat.testBit_or, Bool.or_eq_true, hf.testBit s hs, hg.testBit s hs, ← exists_or]
  exact exists_congr fun i => and_or_left.symm

theorem iterate (h : Follows text R f) : ∀ n : Nat, Follows text (Steps R n) (Plan.iterate f n)
  | 0 => Follows.id
  | n + 1 => by
    have hnext := h.comp (iterate h n)
    rw [iterate_eq] at hnext ⊢
    exact hnext

/-- Keeping what is there makes each round optional. -/
theorem iterate_or (h : Follows text R f) : ∀ n : Nat,
    Follows text (fun i j => ∃ m, m ≤ n ∧ Steps R m i j) (Plan.iterate (fun s => s ||| f s) n)
  | 0 => Follows.id.congr fun i j _ => by simp [Steps]
  | n + 1 => by
    have hnext := (Follows.id.or h).comp (iterate_or h n)
    rw [iterate_eq] at hnext ⊢
    refine Follows.congr hnext fun i j _ => ⟨?_, ?_⟩
    · rintro ⟨k, rfl | hik, m, hm, hkj⟩
      · exact ⟨m, Nat.le_succ_of_le hm, hkj⟩
      · exact ⟨m + 1, Nat.succ_le_succ hm, k, hik, hkj⟩
    · rintro ⟨m, hm, hij⟩
      cases m with
      | zero => exact ⟨i, Or.inl rfl, 0, Nat.zero_le n, hij⟩
      | succ m =>
        obtain ⟨k, hik, hkj⟩ := hij
        exact ⟨k, Or.inr hik, m, Nat.le_of_succ_le_succ hm, hkj⟩

end Follows

/-- The rounds that a plan takes are those of the repetition. -/
theorem rounds_iff {text : List Char} {p : Pattern} {least i j : Nat} {most : Option Nat}
    (hi : i ≤ text.length) : (∀ m, most = some m → least ≤ m) →
      ((∃ k, Steps (p.Matches text) least i k ∧
        ∃ m, m ≤ (match most with | some m => m - least | none => text.length + 1) ∧
          Steps (p.Matches text) m k j) ↔
        (Pattern.rep p least most).Matches text i j) := by
  intro hmost
  rw [matches_rep_iff]
  constructor
  · rintro ⟨k, hik, m, hm, hkj⟩
    refine ⟨least + m, Nat.le_add_right least m, ?_, Steps.add_iff.mpr ⟨k, hik, hkj⟩⟩
    rintro n rfl
    have := hmost n rfl
    simp only at hm
    omega
  · rintro ⟨n, hn, hle, hij⟩
    obtain ⟨r, rfl⟩ := Nat.exists_eq_add_of_le hn
    obtain ⟨k, hik, hkj⟩ := Steps.add_iff.mp hij
    refine ⟨k, hik, ?_⟩
    cases most with
    | some m =>
      have hr := hle m rfl
      exact ⟨r, Nat.le_sub_of_add_le' hr, hkj⟩
    | none =>
      obtain ⟨m, hm, -, hsteps⟩ := hkj.shorten fun _ _ => Matches.le
      have hj := hij.preserves (P := (· ≤ text.length)) (fun _ _ => Matches.le_length) hi
      exact ⟨m, show m ≤ text.length + 1 by omega, hsteps⟩

/-- A plan takes positions to the positions where matches of its pattern end. -/
theorem follows_run (text : List Char) : ∀ {p : Pattern}, p.WellFormed →
    Follows text (p.Matches text) ((ofPattern text p).run (text.length + 1))
  | .empty, _ => Follows.id
  | .set c, _ => by
    refine ⟨fun _ _ => Matches.le_length, fun s hs j => ?_⟩
    simp only [ofPattern, run, Matches, Nat.testBit_shiftLeft, Nat.testBit_and, Bool.and_eq_true,
      decide_eq_true_eq, testBit_places]
    constructor
    · rintro ⟨hj, hs, hc⟩
      exact ⟨j - 1, hs, by omega, hc⟩
    · rintro ⟨i, hs, rfl, hc⟩
      exact ⟨by omega, hs, hc⟩
  | .edge e, _ => by
    refine ⟨fun _ _ => Matches.le_length, fun s hs j => ?_⟩
    simp only [ofPattern, run, Matches, Nat.testBit_and, Bool.and_eq_true, testBit_edges]
    exact ⟨fun ⟨hs, h⟩ => ⟨j, hs, rfl, h⟩, fun ⟨i, hs, hij, h⟩ => hij ▸ ⟨hs, h⟩⟩
  | .seq p q, hpq => (follows_run text hpq.1).comp (follows_run text hpq.2)
  | .alt p q, hpq => (follows_run text hpq.1).or (follows_run text hpq.2)
  | .rep p least most, hp => by
    have h := follows_run text hp.1
    exact ((h.iterate least).comp (h.iterate_or _)).congr fun i j hi => rounds_iff hi hp.2

end Plan

/-- The search answers whether there is a match. -/
theorem Pattern.occurs_iff {p : Pattern} (hp : p.WellFormed) (text : List Char) :
    p.occurs text = true ↔ p.Occurs text := by
  have hbits : ∀ i, (2 ^ (text.length + 1) - 1).testBit i = true ↔ i ≤ text.length := by
    intro i
    rw [Nat.testBit_two_pow_sub_one, decide_eq_true_eq, Nat.lt_succ_iff]
  have hrun := (Plan.follows_run text hp).testBit _ fun i => (hbits i).mp
  simp only [hbits] at hrun
  rw [occurs, bne_iff_ne, Occurs]
  constructor
  · intro hne
    obtain ⟨j, hj⟩ := Nat.exists_testBit_of_ne_zero hne
    obtain ⟨i, hi, hij⟩ := (hrun j).mp hj
    exact ⟨i, j, hi, hij⟩
  · rintro ⟨i, j, hi, hij⟩ hzero
    have hj := (hrun j).mpr ⟨i, hi, hij⟩
    simp [hzero] at hj

end FieldRules
