import FieldRules.Proofs.Policies
/-!
The warnings of a build. Every token that leaves no predicate leaves a warning, so no rule disappears
unseen. The log of a build is read off the tokens in front of the first that fails it (`log_build`),
and a build's predicates and warnings are one account of its declarations
(`build_accounts_for_declarations`).
-/

namespace FieldRules

/-! ### Events of builds -/

namespace Event

/-- A token left no predicate. -/
def isDrop : Event → Bool
  | unknownRule .. | ruleDropped .. => true
  | badPattern .. | skipped .. | failed .. | evaluated .. => false

/-- The event belongs to a build. -/
def isWarning : Event → Bool
  | unknownRule .. | ruleDropped .. | badPattern .. => true
  | skipped .. | failed .. | evaluated .. => false

end Event

namespace Resolution

/-- The warning that a token of a field comes with. -/
def warning? (field : String) (t : Token) : Resolution → Option Event
  | replaced _ e => some (.badPattern field e)
  | unknown => some (.unknownRule field t.name)
  | dropped e => some (.ruleDropped field t.name e)
  | kept _ | failed _ => none

theorem isWarning_of_warning? {field : String} {t : Token} {res : Resolution} {event : Event}
    (h : res.warning? field t = some event) : event.isWarning = true := by
  cases res <;> cases h <;> rfl

end Resolution

namespace Traced

variable {α β : Type}

theorem log_bind (x : Traced α) (f : α → Traced β) :
    (x >>= f).log = x.log ++ match x.result with
      | .ok a => (f a).log
      | .error _ => [] := by
  rw [bind_def, andThen]
  cases x.result <;> simp

/-- What only changes the value adds nothing to the log. -/
theorem log_bind_pure (x : Traced α) (f : α → β) : (x >>= fun a => pure (f a)).log = x.log := by
  rw [log_bind]
  cases x.result <;> simp [pure, ok]

end Traced

/-! ### The log of a build -/

section Reached

variable (resolve : Token → Resolution)

/-- The tokens in front of the first that fails the build. -/
def reached (ts : List Token) : List Token :=
  ts.takeWhile fun t => (resolve t).fault?.isNone

variable {resolve}

theorem reached_append {before : List Token} (h : firstFault? resolve before = none)
    (after : List Token) : reached resolve (before ++ after) = before ++ reached resolve after := by
  rw [firstFault?, List.findSome?_eq_none_iff] at h
  exact List.takeWhile_append_of_pos fun t ht => by rw [h t ht]; rfl

theorem reached_of_no_fault {ts : List Token} (h : firstFault? resolve ts = none) :
    reached resolve ts = ts := by
  have happend := reached_append h []
  rwa [List.append_nil, reached, reached, List.takeWhile_nil, List.append_nil] at happend

/-- The first fault stands right after the tokens that are reached. -/
theorem exists_reached_append {ts : List Token} {e : SpecError}
    (h : firstFault? resolve ts = some e) :
    ∃ t after, ts = reached resolve ts ++ t :: after ∧ (resolve t).fault? = some e ∧
      firstFault? resolve (reached resolve ts) = none := by
  obtain ⟨before, t, after, rfl, ht, hbefore⟩ := List.findSome?_eq_some_iff.mp h
  have hnone : firstFault? resolve before = none := List.findSome?_eq_none_iff.mpr hbefore
  have hreached : reached resolve (before ++ t :: after) = before := by
    rw [reached_append hnone, reached, List.takeWhile_cons_of_neg (by simp [ht]), List.append_nil]
  exact ⟨t, after, by rw [hreached], ht, by rw [hreached, hnone]⟩

theorem reached_append_of_fault {before : List Token} {e : SpecError}
    (h : firstFault? resolve before = some e) (after : List Token) :
    reached resolve (before ++ after) = reached resolve before := by
  obtain ⟨t, rest, hbefore, ht, hnone⟩ := exists_reached_append h
  have hstop : reached resolve (t :: (rest ++ after)) = [] :=
    List.takeWhile_cons_of_neg (by simp [ht])
  conv_lhs => rw [hbefore]
  rw [List.append_assoc, reached_append hnone, List.cons_append, hstop, List.append_nil]

end Reached

namespace Registry

variable (resolve : Token → Resolution) (field : String)

/-- The warnings of the tokens that a build reaches. -/
def warnings (ts : List Token) : List Event :=
  (reached resolve ts).filterMap fun t => (resolve t).warning? field t

theorem warnings_cons (t : Token) (ts : List Token) :
    warnings resolve field (t :: ts) =
      if (resolve t).fault?.isNone then
        ((resolve t).warning? field t).toList ++ warnings resolve field ts
      else [] := by
  rw [warnings, reached, List.takeWhile_cons]
  split
  · rw [List.filterMap_cons]
    cases (resolve t).warning? field t <;> rfl
  · rfl

theorem log_buildTokens : ∀ ts : List Token,
    (buildTokens resolve field ts).log = warnings resolve field ts
  | [] => rfl
  | t :: ts => by
    have ih := log_buildTokens ts
    rw [buildTokens, warnings_cons]
    cases resolve t with
    | failed e => rfl
    | kept p => exact (Traced.log_bind_pure _ _).trans ih
    | replaced p e =>
      exact congrArg (Event.badPattern field e :: ·) ((Traced.log_bind_pure _ _).trans ih)
    | unknown => exact congrArg (Event.unknownRule field t.name :: ·) ih
    | dropped e => exact congrArg (Event.ruleDropped field t.name e :: ·) ih

theorem log_buildItems : ∀ items : List SpecItem,
    (buildItems resolve field items).log =
      warnings resolve field (items.flatMap SpecItem.tokens)
  | [] => rfl
  | .predicate p :: rest => by
    rw [buildItems, Traced.log_bind_pure, log_buildItems rest]
    rfl
  | .rules text :: rest => by
    have ih := log_buildItems rest
    rw [buildItems, Traced.log_bind, log_buildTokens, result_buildTokens, List.flatMap_cons,
      SpecItem.tokens, warnings, warnings]
    cases hfault : firstFault? resolve (Token.ofText text) with
    | some e => rw [reached_append_of_fault hfault, orFault, List.append_nil]
    | none =>
      rw [reached_append hfault, reached_of_no_fault hfault, List.filterMap_append, orFault]
      simp only [Traced.log_bind_pure, ih, warnings]

/-- A build logs the warnings of the tokens that it reaches. -/
theorem log_build (r : Registry) (settings : Settings) (field : String) (spec : FieldSpec) :
    (r.build settings field spec).log =
      warnings (r.resolve settings field spec.isNumeric) field spec.tokens := by
  rw [build, Traced.log_bind_pure]
  cases spec with
  | rules text => exact log_buildTokens _ field _
  | list items => exact log_buildItems _ field items

theorem isWarning_of_mem_log_build {r : Registry} {settings : Settings} {field : String}
    {spec : FieldSpec} {event : Event} (h : event ∈ (r.build settings field spec).log) :
    event.isWarning = true := by
  rw [log_build, warnings, List.mem_filterMap] at h
  obtain ⟨t, -, ht⟩ := h
  exact Resolution.isWarning_of_warning? ht

end Registry

/-! ### What becomes of each declaration -/

/-- A declaration with the predicate and the warning that a build makes of it. -/
structure Treatment where
  part : Part
  predicate? : Option Predicate
  warning? : Option Event

/-- A token became a predicate. -/
def Treatment.isRule (s : Treatment) : Bool := s.part.token?.isSome && s.predicate?.isSome

namespace Registry

variable (r : Registry) (settings : Settings) (field : String) (numericField : Bool)

/-- What a build makes of a declaration that does not fail it. -/
inductive Treats : Treatment → Prop
  | literal (p : Predicate) : Treats ⟨.literal p, some p, none⟩
  | kept {t : Token} {p : Predicate} : r.answer? field numericField t = some (.ok p) →
      Treats ⟨.token t, some p, none⟩
  | replaced {t : Token} {e : SpecError} : r.BadPattern field numericField t e →
      settings.invalidPattern = .message →
      Treats ⟨.token t, some Check.unusablePattern, some (.badPattern field e)⟩
  | unknown {t : Token} : ¬ r.Known t.name → settings.strict = false →
      Treats ⟨.token t, none, some (.unknownRule field t.name)⟩
  | dropped {t : Token} {e : SpecError} : r.answer? field numericField t = some (.error e) →
      e.isInvalidPattern = false → settings.strict = false →
      Treats ⟨.token t, none, some (.ruleDropped field t.name e)⟩

/-- The error that a token fails a build with. -/
inductive Refuses (t : Token) : SpecError → Prop
  | pattern {e : SpecError} : r.BadPattern field numericField t e →
      settings.invalidPattern = .propagate → Refuses t e
  | unknown : ¬ r.Known t.name → settings.strict = true → Refuses t (.unknownRule field t.name)
  | argument {e : SpecError} : r.answer? field numericField t = some (.error e) →
      e.isInvalidPattern = false → settings.strict = true → Refuses t e

/-- What the resolved tokens make of a declaration. -/
def treatment : Part → Treatment
  | .token t =>
    let res := r.resolve settings field numericField t
    ⟨.token t, res.predicate?, res.warning? field t⟩
  | .literal p => ⟨.literal p, some p, none⟩

variable {r settings field numericField}

/-- A token without a fault is treated as it is resolved. -/
theorem treats_of_no_fault {t : Token}
    (h : (r.resolve settings field numericField t).fault? = none) :
    r.Treats settings field numericField (r.treatment settings field numericField (.token t)) := by
  rw [treatment]
  rw [resolve_eq_of_answer] at h ⊢
  cases ha : r.answer? field numericField t with
  | none =>
    cases hs : settings.strict with
    | true => simp [ha, hs, Resolution.fault?] at h
    | false =>
      rw [if_neg Bool.false_ne_true]
      exact .unknown (answer?_eq_none_iff.mp ha) hs
  | some answer =>
    cases answer with
    | ok p => exact .kept ha
    | error e =>
      cases he : e.isInvalidPattern with
      | true =>
        cases hp : settings.invalidPattern with
        | propagate => simp [ha, onError, he, hp, Resolution.fault?] at h
        | message =>
          simp only [onError, he, hp, if_pos]
          exact .replaced ⟨ha, he⟩ hp
      | false =>
        cases hs : settings.strict with
        | true => simp [ha, onError, he, hs, Resolution.fault?] at h
        | false =>
          simp only [onError, he, hs, Bool.false_eq_true, if_false]
          exact .dropped ha he hs

theorem refuses_of_fault {t : Token} {e : SpecError}
    (h : (r.resolve settings field numericField t).fault? = some e) :
    r.Refuses settings field numericField t e := by
  rw [resolve_eq_of_answer] at h
  cases ha : r.answer? field numericField t with
  | none =>
    cases hs : settings.strict with
    | false => simp [ha, hs, Resolution.fault?] at h
    | true =>
      simp only [ha, hs, if_pos, Resolution.fault?, Option.some.injEq] at h
      exact h ▸ .unknown (answer?_eq_none_iff.mp ha) hs
  | some answer =>
    cases answer with
    | ok p => simp [ha, Resolution.fault?] at h
    | error e' =>
      simp only [ha, fault?_onError_eq_some_iff] at h
      obtain ⟨rfl, hcause⟩ := h
      cases he : e'.isInvalidPattern with
      | true => exact .pattern ⟨ha, he⟩ (by simpa [he] using hcause)
      | false => exact .argument ha he (by simpa [he] using hcause)

/-- A token is a predicate or a drop, and a literal predicate is neither. -/
theorem Treats.counts_once {s : Treatment} (h : r.Treats settings field numericField s) :
    s.part.token?.toList.length =
      (if s.isRule then 1 else 0) + s.warning?.toList.countP Event.isDrop := by
  cases h <;> rfl

/-- Every token counts once, as a predicate or as a drop. -/
theorem length_tokens_eq : ∀ {trail : List Treatment},
    (∀ s ∈ trail, r.Treats settings field numericField s) →
    (trail.filterMap (·.part.token?)).length =
      trail.countP Treatment.isRule + (trail.filterMap Treatment.warning?).countP Event.isDrop
  | [], _ => rfl
  | s :: trail, h => by
    have ih := length_tokens_eq fun u hu => h u (List.mem_cons_of_mem _ hu)
    have hs := (h s List.mem_cons_self).counts_once
    simp only [List.filterMap_eq_flatMap_toList] at ih ⊢
    rw [List.flatMap_cons, List.flatMap_cons, List.length_append, List.countP_append,
      List.countP_cons, ih, hs]
    omega

/-- In a strict build no token is dropped. -/
theorem Treats.isDrop_eq_false {s : Treatment} {event : Event}
    (h : r.Treats settings field numericField s) (hstrict : settings.strict = true)
    (hevent : s.warning? = some event) : event.isDrop = false := by
  cases h with
  | literal | kept => cases hevent
  | replaced =>
    cases hevent
    rfl
  | unknown _ hlenient | dropped _ _ hlenient => simp [hstrict] at hlenient

/-- The warning about a pattern comes with the stand-in for it and with nothing else. -/
theorem Treats.warning?_eq_badPattern_iff {s : Treatment} {e : SpecError}
    (h : r.Treats settings field numericField s) :
    s.warning? = some (.badPattern field e) ↔
      ∃ t, s.part = .token t ∧ r.BadPattern field numericField t e := by
  cases h with
  | literal p => simp
  | kept ha => simp [BadPattern, ha]
  | replaced hbad =>
    simp only [Option.some.injEq, Event.badPattern.injEq, true_and, Part.token.injEq,
      exists_eq_left', BadPattern, hbad.1, Except.error.injEq]
    exact (and_iff_left_of_imp fun heq => heq ▸ hbad.2).symm
  | unknown hunknown => simp [BadPattern, answer?_eq_none_iff.mpr hunknown]
  | dropped ha he =>
    simp only [Option.some.injEq, reduceCtorEq, Part.token.injEq, exists_eq_left', BadPattern, ha,
      Except.error.injEq, false_iff, not_and]
    rintro rfl
    simp [he]

/-! ### Accounts of builds -/

/-- Declarations that fail no build have treatments, and those give their predicates and warnings. -/
theorem exists_trail {parts : List Part}
    (h : firstFault? (r.resolve settings field numericField) (parts.filterMap Part.token?) = none) :
    ∃ trail : List Treatment, trail.map Treatment.part = parts ∧
      (∀ s ∈ trail, r.Treats settings field numericField s) ∧
      parts.filterMap (Part.predicate? (r.resolve settings field numericField)) =
        trail.filterMap Treatment.predicate? ∧
      (parts.filterMap Part.token?).filterMap (fun t =>
        (r.resolve settings field numericField t).warning? field t) =
        trail.filterMap Treatment.warning? := by
  refine ⟨parts.map (r.treatment settings field numericField), ?_, ?_, ?_, ?_⟩
  · rw [List.map_map]
    refine (List.map_congr_left fun part _ => ?_).trans (List.map_id parts)
    cases part <;> rfl
  · intro s hs
    obtain ⟨part, hpart, rfl⟩ := List.mem_map.mp hs
    cases part with
    | literal p => exact .literal p
    | token t =>
      refine treats_of_no_fault (List.findSome?_eq_none_iff.mp h t ?_)
      exact List.mem_filterMap.mpr ⟨_, hpart, rfl⟩
  · rw [List.filterMap_map]
    refine List.filterMap_congr fun part _ => ?_
    cases part <;> rfl
  · rw [List.filterMap_map, List.filterMap_filterMap]
    refine List.filterMap_congr fun part _ => ?_
    cases part <;> rfl

end Registry

/-- The declarations in front of a token are those of the tokens in front of it. -/
theorem FieldSpec.exists_parts_of_tokens {spec : FieldSpec} {before after : List Token} {t : Token}
    (h : spec.tokens = before ++ t :: after) :
    ∃ parts rest, spec.parts = parts ++ .token t :: rest ∧
      parts.filterMap Part.token? = before := by
  rw [tokens_eq_parts] at h
  obtain ⟨front, back, hparts, rfl, hback⟩ := List.filterMap_eq_append_iff.mp h
  obtain ⟨literals, part, rest, rfl, hliterals, hpart, -⟩ := List.filterMap_eq_cons_iff.mp hback
  have hnone : literals.filterMap Part.token? = [] := List.filterMap_eq_nil_iff.mpr hliterals
  cases part with
  | literal p => cases hpart
  | token u =>
    cases hpart
    refine ⟨front ++ literals, rest, by rw [hparts, List.append_assoc], ?_⟩
    rw [List.filterMap_append, hnone, List.append_nil]

/-- A build that succeeds accounts for each declaration: literal predicates stand in their places, and
a token leaves a predicate there or a warning that it was dropped, so the tokens are as many as the
predicates and drops that came of them. A strict build drops nothing, and a pattern that cannot be
read is warned of once, with its stand-in. A build that fails accounts in the same way for what stands
in front of the token that fails it, and logs nothing else. -/
theorem build_accounts_for_declarations (r : Registry) (settings : Settings) (field : String)
    (spec : FieldSpec) :
    let build := r.build settings field spec
    let treats := r.Treats settings field spec.isNumeric
    (∀ built, build.result = .ok built → ∃ trail : List Treatment,
      trail.map Treatment.part = spec.parts ∧ (∀ s ∈ trail, treats s) ∧
      built.predicates = trail.filterMap Treatment.predicate? ∧
      build.log = trail.filterMap Treatment.warning? ∧
      spec.tokens.length = trail.countP Treatment.isRule + build.log.countP Event.isDrop ∧
      (settings.strict = true → ∀ event ∈ build.log, event.isDrop = false) ∧
      ∀ s ∈ trail, ∀ e, s.warning? = some (.badPattern field e) ↔
        ∃ t, s.part = .token t ∧ r.BadPattern field spec.isNumeric t e) ∧
    (∀ e, build.result = .error e → ∃ (trail : List Treatment) (t : Token) (rest : List Part),
      spec.parts = trail.map Treatment.part ++ .token t :: rest ∧ (∀ s ∈ trail, treats s) ∧
      r.Refuses settings field spec.isNumeric t e ∧
      build.log = trail.filterMap Treatment.warning?) := by
  intro build treats
  have hlog : build.log = Registry.warnings (r.resolve settings field spec.isNumeric) field
      spec.tokens := Registry.log_build r settings field spec
  constructor
  · intro built h
    obtain ⟨hfault, rfl⟩ := Registry.build_eq_ok_iff.mp h
    have hnone : firstFault? (r.resolve settings field spec.isNumeric) spec.tokens = none :=
      List.findSome?_eq_none_iff.mpr hfault
    obtain ⟨trail, hparts, htreats, hpredicates, hwarnings⟩ :=
      Registry.exists_trail (FieldSpec.tokens_eq_parts spec ▸ hnone)
    have hlog : build.log = trail.filterMap Treatment.warning? := by
      rw [hlog, Registry.warnings, reached_of_no_fault hnone, FieldSpec.tokens_eq_parts, hwarnings]
    refine ⟨trail, hparts, htreats, hpredicates, hlog, ?_, ?_, ?_⟩
    · rw [hlog, ← Registry.length_tokens_eq htreats, FieldSpec.tokens_eq_parts, ← hparts,
        List.filterMap_map]
      rfl
    · intro hstrict event hevent
      rw [hlog, List.mem_filterMap] at hevent
      obtain ⟨s, hs, hwarning⟩ := hevent
      exact (htreats s hs).isDrop_eq_false hstrict hwarning
    · exact fun s hs e => (htreats s hs).warning?_eq_badPattern_iff
  · intro e h
    have hfault := Registry.build_eq_error_iff.mp h
    obtain ⟨t, after, htokens, ht, hnone⟩ := exists_reached_append hfault
    obtain ⟨parts, rest, hspec, hbefore⟩ := FieldSpec.exists_parts_of_tokens htokens
    obtain ⟨trail, rfl, htreats, -, hwarnings⟩ := Registry.exists_trail (hbefore ▸ hnone)
    refine ⟨trail, t, rest, hspec, htreats, Registry.refuses_of_fault ht, ?_⟩
    rw [hlog, Registry.warnings, ← hbefore, hwarnings]

/-- Five tokens around a literal predicate: a name that is no rule and a bound that is no number are
dropped, and a pattern that cannot be read is replaced or, where it is to be propagated, fails the
build right after the first warning. -/
theorem build_accounts_for_code :
    let r := Registry.builtin
    let spec : FieldSpec := .list
      [.rules "required|emial|regex:([a-z]", .predicate (.pass "seen"), .rules "min:abc|max:3"]
    let build := fun settings => r.build settings "code" spec
    let e : SpecError := .invalidPattern "code" "([a-z]"
    (∃ built, (build ⟨false, .message⟩).result = .ok built ∧
      (build ⟨false, .message⟩).log = [.unknownRule "code" "emial", .badPattern "code" e,
        .ruleDropped "code" "min" (.invalidArgument "code" "min" "abc")] ∧
      ∃ trail : List Treatment, trail.map Treatment.part = spec.parts ∧
        built.predicates = trail.filterMap Treatment.predicate? ∧
        (build ⟨false, .message⟩).log = trail.filterMap Treatment.warning? ∧
        5 = trail.countP Treatment.isRule + 2) ∧
    (build ⟨false, .propagate⟩).result = .error e ∧
      (build ⟨false, .propagate⟩).log = [.unknownRule "code" "emial"] ∧
      ∃ (trail : List Treatment) (t : Token) (rest : List Part),
        spec.parts = trail.map Treatment.part ++ .token t :: rest ∧
        r.Refuses ⟨false, .propagate⟩ "code" spec.isNumeric t e ∧
        [.unknownRule "code" "emial"] = trail.filterMap Treatment.warning? := by
  intro r spec build e
  have hfault : ∀ t ∈ spec.tokens,
      (r.resolve ⟨false, .message⟩ "code" spec.isNumeric t).fault? = none := by decide +kernel
  have hbuilt := Registry.build_eq_ok_iff.mpr ⟨hfault, rfl⟩
  have hfails : (build ⟨false, .propagate⟩).result = .error e :=
    Registry.build_eq_error_iff.mpr (by decide +kernel)
  have hlog : (build ⟨false, .propagate⟩).log = [.unknownRule "code" "emial"] := by decide +kernel
  have hlength : spec.tokens.length = 5 := by decide +kernel
  have hdrops : (build ⟨false, .message⟩).log.countP Event.isDrop = 2 := by decide +kernel
  obtain ⟨haccount, -⟩ := build_accounts_for_declarations r ⟨false, .message⟩ "code" spec
  obtain ⟨-, hrefused⟩ := build_accounts_for_declarations r ⟨false, .propagate⟩ "code" spec
  obtain ⟨trail, hparts, -, hpredicates, hwarnings, hcount, -, -⟩ := haccount _ hbuilt
  obtain ⟨front, t, rest, hfront, -, ht, hbefore⟩ := hrefused e hfails
  exact ⟨⟨_, hbuilt, by decide +kernel, trail, hparts, hpredicates, hwarnings,
      hlength.symm.trans (hcount.trans (congrArg _ hdrops))⟩,
    hfails, hlog, front, t, rest, hfront, ht, hlog.symm.trans hbefore⟩

end FieldRules
