import Mathlib.Data.List.Forall2
import FieldRules.Proofs.Parts
/-!
Declarations that answer alike. Two lists of declarations are alike when each declaration of the one
has the fault of its counterpart and contributes a predicate that is related to what the counterpart
contributes. Such lists find the same first fault (`Part.firstFault?_of_alike`) and contribute
related predicates (`Part.forall₂_predicate?_of_alike`), and fields whose predicates agree on a value
give it the same result (`BuiltField.evaluate_of_forall₂`).
-/

namespace FieldRules

/-- The predicates say the same of the value in every record. -/
def Predicate.AgreeAt (v : Value) (p q : Predicate) : Prop :=
  ∀ record, p.check v record = q.check v record

/-- Both fail a build with the same error, or both contribute related predicates, or nothing. -/
structure Resolution.Alike (R : Predicate → Predicate → Prop) (s t : Resolution) : Prop where
  fault : s.fault? = t.fault?
  predicate : Option.Rel R s.predicate? t.predicate?

namespace Resolution

variable {R : Predicate → Predicate → Prop}

theorem Alike.refl (hR : ∀ p, R p p) (s : Resolution) : s.Alike R s := by
  refine ⟨rfl, ?_⟩
  cases s.predicate? with
  | none => exact .none
  | some p => exact .some (hR p)

theorem Alike.kept {p q : Predicate} (h : R p q) : Alike R (.kept p) (.kept q) :=
  ⟨rfl, .some h⟩

end Resolution

/-- Tokens with alike resolutions, or related literal predicates. -/
inductive Part.Alike (R : Predicate → Predicate → Prop) (resolve resolve' : Token → Resolution) :
    Part → Part → Prop
  | token {t u : Token} : (resolve t).Alike R (resolve' u) →
    Alike R resolve resolve' (.token t) (.token u)
  | literal {p q : Predicate} : R p q → Alike R resolve resolve' (.literal p) (.literal q)

namespace Part

variable {R : Predicate → Predicate → Prop} {resolve resolve' : Token → Resolution}
  {parts parts' : List Part} (h : List.Forall₂ (Part.Alike R resolve resolve') parts parts')
include h

theorem forall₂_predicate?_of_alike :
    List.Forall₂ R (parts.filterMap (predicate? resolve)) (parts'.filterMap (predicate? resolve')) := by
  refine List.rel_filterMap (fun part part' hpart => ?_) h
  cases hpart with
  | token ht => exact ht.predicate
  | literal hp => exact .some hp

theorem firstFault?_of_alike : firstFault? resolve (parts.filterMap token?) =
    firstFault? resolve' (parts'.filterMap token?) := by
  induction h with
  | nil => rfl
  | cons hpart _ ih =>
    cases hpart with
    | token ht =>
      simp only [List.filterMap_cons, token?, firstFault?_cons, ht.fault, ih]
    | literal _ => exact ih

end Part

namespace BuiltField

variable {v : Value} {b c : BuiltField}
  (h : List.Forall₂ (Predicate.AgreeAt v) b.predicates c.predicates) (record : Record)
include h

/-- Predicates that agree show the same first message. -/
theorem message_of_forall₂ :
    (b.firstFailure v record).map Prod.snd = (c.firstFailure v record).map Prod.snd := by
  obtain ⟨ps, nullable⟩ := b
  obtain ⟨qs, nullable'⟩ := c
  simp only [firstFailure]
  dsimp only at h
  induction h with
  | nil => rfl
  | @cons p q ps qs hpq _ ih =>
    rw [List.findSome?_cons, List.findSome?_cons, ← hpq record]
    cases p.check v record with
    | none => exact ih
    | some message => rfl

theorem evaluate_of_forall₂ (hnullable : b.nullable = c.nullable) :
    b.evaluate v record = c.evaluate v record := by
  rw [evaluate, evaluate, skips, skips, hnullable, message_of_forall₂ h record]

end BuiltField

end FieldRules
