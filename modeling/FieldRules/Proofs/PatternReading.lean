import Mathlib.Tactic.SplitIfs
import FieldRules.Pattern.Reader
import FieldRules.Proofs.PatternSearch
/-!
What is read from pattern text. The reader makes repetitions in two places: behind the marks for none
or more, one or more and at most one, and behind counts, whose bounds it compares. So every pattern
that it gives is well-formed (`wellFormed_of_ofText?`), and the search for it is exact.
-/

namespace FieldRules.Pattern

/-! ### What readers give -/

section Gives

variable {α β : Type} {Q : α → Prop} {S : β → Prop}

/-- Whatever the reader takes off a source, what it gives has the property. -/
def Gives (Q : α → Prop) (x : Read α) : Prop := ∀ s a s', x s = some (a, s') → Q a

theorem Gives.trivial (x : Read α) : Gives (fun _ => True) x := fun _ _ _ _ => True.intro

theorem Gives.pure {a : α} (h : Q a) : Gives Q (pure a : Read α) := fun _ _ _ hb =>
  (Prod.mk.inj (Option.some.inj hb)).1 ▸ h

theorem Gives.refuse : Gives Q (Pattern.refuse : Read α) := fun _ _ _ h => nomatch h

theorem Gives.bind {x : Read α} {f : α → Read β} (hx : Gives Q x) (hf : ∀ a, Q a → Gives S (f a)) :
    Gives S (x >>= f) := by
  intro s b s' hb
  obtain ⟨⟨a, t⟩, ha, hfa⟩ := Option.bind_eq_some_iff.mp hb
  exact hf a (hx s a t ha) t b s' hfa

theorem Gives.lift {o : Option α} (h : ∀ a, o = some a → Q a) : Gives Q (liftM o : Read α) := by
  intro s a s' ha
  obtain ⟨b, hb, hpure⟩ := Option.bind_eq_some_iff.mp ha
  exact (Prod.mk.inj (Option.some.inj hpure)).1 ▸ h b hb

/-- What comes first may be anything. -/
theorem Gives.andThen {x : Read α} {f : α → Read β} (hf : ∀ a, Gives S (f a)) :
    Gives S (x >>= f) :=
  (Gives.trivial x).bind fun a _ => hf a

end Gives

/-! ### Bounds of repetitions -/

theorem gives_bounds : Gives (fun b : Nat × Option Nat => ∀ m, b.2 = some m → b.1 ≤ m) bounds := by
  refine .andThen fun _ => .andThen fun least => .andThen fun comma => ?_
  cases comma with
  | false => exact .andThen fun _ => .pure fun m hm => Nat.le_of_eq (Option.some.inj hm)
  | true =>
    refine .andThen fun _ => .andThen fun closed => ?_
    cases closed with
    | true => exact .pure nofun
    | false =>
      refine .andThen fun most => .andThen fun _ => ?_
      split
      · next h => exact .pure fun m hm => Option.some.inj hm ▸ h
      · exact .refuse

/-! ### Nodes -/

/-- What the node means is well-formed. -/
def Node.WellFormed (n : Node) : Prop := ∀ p, n.pattern = some p → p.WellFormed

theorem Node.wellFormed_of_some {p : Pattern} {depth : Nat} (h : p.WellFormed) :
    Node.WellFormed ⟨some p, depth⟩ := fun _ hq => Option.some.inj hq ▸ h

/-- Folding a way to combine two patterns over the patterns of nodes. -/
theorem wellFormed_foldl {f : Pattern → Pattern → Pattern}
    (hf : ∀ p q, p.WellFormed → q.WellFormed → (f p q).WellFormed) :
    ∀ {ps : List Pattern} {p : Pattern}, p.WellFormed → (∀ q ∈ ps, q.WellFormed) →
      (ps.foldl f p).WellFormed
  | [], _, hp, _ => hp
  | q :: ps, p, hp, hps => by
    rw [List.foldl_cons]
    exact wellFormed_foldl hf (hf p q hp (hps q List.mem_cons_self))
      fun r hr => hps r (List.mem_cons_of_mem q hr)

theorem wellFormed_combined {f : Pattern → Pattern → Pattern}
    (hf : ∀ p q, p.WellFormed → q.WellFormed → (f p q).WellFormed) {nodes : List Node}
    (h : ∀ n ∈ nodes, n.WellFormed) :
    WellFormed (match nodes.filterMap Node.pattern with
      | [] => .empty
      | p :: ps => ps.foldl f p) := by
  have hps : ∀ p ∈ nodes.filterMap Node.pattern, p.WellFormed := by
    intro p hp
    obtain ⟨n, hn, hnp⟩ := List.mem_filterMap.mp hp
    exact h n hn p hnp
  cases hnodes : nodes.filterMap Node.pattern with
  | nil => exact True.intro
  | cons p ps =>
    rw [hnodes] at hps
    exact wellFormed_foldl hf (hps p List.mem_cons_self) fun q hq => hps q (List.mem_cons_of_mem p hq)

theorem wellFormed_sequence {nodes : List Node} (h : ∀ n ∈ nodes, n.WellFormed) :
    (sequence nodes).WellFormed :=
  Node.wellFormed_of_some (wellFormed_combined (f := .seq) (fun _ _ => And.intro) h)

theorem wellFormed_choice {first : Node} {others : List Node} (hfirst : first.WellFormed)
    (hothers : ∀ n ∈ others, n.WellFormed) : (choice first others).WellFormed := by
  cases others with
  | nil => exact hfirst
  | cons second rest =>
    refine Node.wellFormed_of_some (wellFormed_combined (f := .alt) (fun _ _ => And.intro) ?_)
    exact List.forall_mem_cons.mpr ⟨hfirst, hothers⟩

theorem wellFormed_repeatLast {least : Nat} {most : Option Nat} {nodes repeated : List Node}
    (hmost : ∀ m, most = some m → least ≤ m) (hnodes : ∀ n ∈ nodes, n.WellFormed)
    (h : repeatLast least most nodes = some repeated) : ∀ n ∈ repeated, n.WellFormed := by
  match nodes with
  | ⟨some p, depth⟩ :: rest =>
    obtain ⟨hp, hrest⟩ := List.forall_mem_cons.mp hnodes
    cases h
    exact List.forall_mem_cons.mpr ⟨Node.wellFormed_of_some ⟨hp p rfl, hmost⟩, hrest⟩

theorem wellFormed_of_atomPattern {f : Flags} {a : Atom} {p : Pattern}
    (h : atomPattern f a = some p) : p.WellFormed := by
  cases a with
  | char c byte =>
    simp only [atomPattern, charPattern] at h
    split_ifs at h <;> cases h <;> exact True.intro
  | named s | edge e =>
    cases h
    exact True.intro
  | dot =>
    simp only [atomPattern, dotPattern] at h
    split_ifs at h <;> cases h <;> exact True.intro

/-! ### Branches -/

theorem gives_wellFormed : ∀ fuel : Nat,
    Gives Node.WellFormed (branches fuel) ∧
    Gives (fun nodes => ∀ n ∈ nodes, n.WellFormed) (moreBranches fuel) ∧
    ∀ nodes, (∀ n ∈ nodes, n.WellFormed) → Gives Node.WellFormed (items fuel nodes) := by
  intro fuel
  induction fuel with
  | zero => exact ⟨.refuse, .refuse, fun _ _ => .refuse⟩
  | succ fuel ih =>
    obtain ⟨hbranches, hmore, hitems⟩ := ih
    refine ⟨?_, ?_, fun nodes hnodes => ?_⟩
    · refine (hitems [] nofun).bind fun first hfirst => hmore.bind fun others hothers => ?_
      exact .pure (wellFormed_choice hfirst hothers)
    · refine .andThen fun bar => ?_
      cases bar with
      | false => exact .pure nofun
      | true =>
        refine (hitems [] nofun).bind fun first hfirst => hmore.bind fun others hothers => ?_
        exact .pure (List.forall_mem_cons.mpr ⟨hfirst, hothers⟩)
    · have hadd : ∀ n : Node, n.WellFormed → Gives Node.WellFormed (items fuel (n :: nodes)) :=
        fun n hn => hitems _ (List.forall_mem_cons.mpr ⟨hn, hnodes⟩)
      have hrepeated : ∀ least most, (∀ m, most = some m → least ≤ m) →
          Gives Node.WellFormed (do
            let nodes ← repeatLast least most nodes
            let _ ← accept '?'
            items fuel nodes) := fun least most hmost =>
        (Gives.lift fun _ h => wellFormed_repeatLast hmost hnodes h).bind
          fun _ h => .andThen fun _ => hitems _ h
      have hdone : Gives Node.WellFormed (pure (sequence nodes.reverse)) :=
        .pure (wellFormed_sequence fun n hn => hnodes n (List.mem_reverse.mp hn))
      rw [items]
      refine .andThen fun _ => .andThen fun cs => ?_
      -- one case for each character that an item may begin with
      split
      · exact hdone
      · exact hdone
      · exact hdone
      · exact .andThen fun _ => hrepeated 0 (some 1) fun m _ => m.zero_le
      · exact .andThen fun _ => hrepeated 0 none nofun
      · exact .andThen fun _ => hrepeated 1 none nofun
      · split
        · exact .refuse
        · exact .andThen fun _ => gives_bounds.bind fun b hb => .andThen fun _ => hrepeated b.1 b.2 hb
      · exact .andThen fun _ => .andThen fun c => hadd _ (Node.wellFormed_of_some True.intro)
      · refine .andThen fun _ => .andThen fun outside => .andThen fun o => ?_
        cases o with
        | flagsOnly => exact hadd _ nofun
        | group =>
          exact hbranches.bind fun inner hinner => .andThen fun _ => .andThen fun _ => hadd _ hinner
      · refine .andThen fun a => .andThen fun f => (Gives.lift fun p hp => ?_).bind fun p hp =>
          hadd _ (Node.wellFormed_of_some hp)
        exact wellFormed_of_atomPattern hp

/-- What a text writes is well-formed. -/
theorem wellFormed_of_ofText? {s : String} {p : Pattern} (h : ofText? s = some p) :
    p.WellFormed := by
  obtain ⟨hread, -⟩ := Option.filter_eq_some_iff.mp h
  obtain ⟨⟨node, source⟩, hrun, hnode⟩ := Option.bind_eq_some_iff.mp hread
  have hwf := (gives_wellFormed _).1 _ _ _ hrun
  simp only [Option.ite_none_right_eq_some] at hnode
  exact hwf p hnode.2

/-- The search for a pattern that was read answers whether it matches somewhere. -/
theorem occurs_ofText?_iff {s : String} {p : Pattern} (h : ofText? s = some p) (text : List Char) :
    p.occurs text = true ↔ p.Occurs text :=
  occurs_iff (wellFormed_of_ofText? h) text

end FieldRules.Pattern
