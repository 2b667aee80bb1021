import Warrant.Proofs.Loops
import Warrant.Proofs.Unification

namespace Warrant

/-- The ways to match patterns with facts, the first pattern slowest. -/
def allMatches (facts : List Fact) : List Predicate → Slots → List Slots
  | [], slots => [slots]
  | p :: ps, slots => facts.flatMap fun fact => (p.unify fact slots).elim [] (allMatches facts ps)

/-- A match makes every pattern stand for one of the facts. -/
theorem substitute_of_mem_allMatches {facts : List Fact} {patterns : List Predicate}
    {slots bound : Slots} (h : bound ∈ allMatches facts patterns slots) :
    bound.names = slots.names ∧ slots.valuation.Within bound.valuation ∧
      ∀ p ∈ patterns, ∃ fact ∈ facts,
        p.substitute bound.valuation = some fact ∧ fact.argVariables = [] := by
  induction patterns generalizing slots with
  | nil =>
    obtain rfl := List.mem_singleton.1 h
    exact ⟨rfl, .refl _, by simp⟩
  | cons p ps ih =>
    obtain ⟨fact, hfact, hmem⟩ := List.mem_flatMap.1 h
    cases hunify : p.unify fact slots with
    | none => simp [hunify] at hmem
    | some first =>
      obtain ⟨hnames, hwithin, hp, hground⟩ := PredicateOf.unify_eq_some hunify
      obtain ⟨hnames', hwithin', hps⟩ := ih (by simpa [hunify] using hmem)
      refine ⟨hnames'.trans hnames, hwithin.trans hwithin', ?_⟩
      intro q hq
      rcases List.mem_cons.1 hq with rfl | hq
      · exact ⟨fact, hfact, PredicateOf.substitute_mono hwithin' hp, hground⟩
      · exact hps q hq

/-- Any valuation under which every pattern stands for one of the facts is found. -/
theorem exists_mem_allMatches {σ : Valuation} {facts : List Fact} {patterns : List Predicate}
    (slots : Slots)
    (hpatterns : ∀ p ∈ patterns, ∃ fact ∈ facts,
      p.substitute σ = some fact ∧ fact.argVariables = [])
    (hnames : ∀ p ∈ patterns, ∀ v ∈ p.argVariables, v ∈ slots.names)
    (hσ : slots.valuation.Within σ) :
    ∃ bound ∈ allMatches facts patterns slots, bound.valuation.Within σ := by
  induction patterns generalizing slots with
  | nil => exact ⟨slots, List.mem_singleton_self slots, hσ⟩
  | cons p ps ih =>
    obtain ⟨fact, hfact, hp, hground⟩ := hpatterns p List.mem_cons_self
    obtain ⟨first, hfirst, hwithin⟩ :=
      PredicateOf.exists_unify hp hground (hnames p List.mem_cons_self) hσ
    obtain ⟨hfirstNames, _⟩ := PredicateOf.unify_eq_some hfirst
    obtain ⟨bound, hbound, hwithin'⟩ := ih first
      (fun q hq => hpatterns q (List.mem_cons_of_mem p hq))
      (fun q hq v hv => by
        rw [hfirstNames]
        exact hnames q (List.mem_cons_of_mem p hq) v hv) hwithin
    exact ⟨bound, List.mem_flatMap.2 ⟨fact, hfact, by simpa [hfirst] using hbound⟩, hwithin'⟩

/-- The bindings of a match, if it is complete and every constraint holds under it. -/
def accepted (symbols : SymbolTable) (expressions : List Expression) (slots : Slots) :
    Option Bindings :=
  slots.complete?.filter fun bindings => holdAll symbols bindings.valuation expressions

section

variable {m : Type → Type} [Monad m] [LawfulMonad m]

theorem forEachMatch_eq_forM (facts : List Fact) (visit : Slots → m Unit)
    (patterns : List Predicate) (slots : Slots) :
    forEachMatch facts visit patterns slots = (allMatches facts patterns slots).forM visit := by
  induction patterns generalizing slots with
  | nil => simp [forEachMatch, allMatches]
  | cons p ps ih =>
    rw [forEachMatch, allMatches, forM_flatMap]
    congr 1
    funext fact
    cases p.unify fact slots with
    | none => rfl
    | some bound => exact ih bound

/-- Visits the bindings of a match, if it is complete and every constraint holds under it. -/
def visitAccepted (symbols : SymbolTable) (expressions : List Expression)
    (visit : Bindings → m Unit) (slots : Slots) : StateT PatternCache m Unit := do
  match slots.complete? with
  | none => pure ()
  | some bindings =>
    let (holds, cache) := (allHold symbols bindings expressions).run (← get)
    set cache
    if holds then visit bindings

omit [LawfulMonad m] in
theorem forEachBinding_eq_run (symbols : SymbolTable) (facts : List Fact) (body : List Predicate)
    (expressions : List Expression) (start : Slots) (visit : Bindings → m Unit) :
    forEachBinding symbols facts body expressions start visit = (do
      let _ ← (forEachMatch facts (visitAccepted symbols expressions visit) body start).run []) :=
  rfl

/-- Whatever sound patterns are kept, just the accepted matches are visited. -/
theorem run_visitAccepted {symbols : SymbolTable} (expressions : List Expression)
    (visit : Bindings → m Unit) (slots : Slots) (cache : PatternCache)
    (hcache : cache.Sound symbols) :
    ∃ kept : PatternCache, kept.Sound symbols ∧
      (visitAccepted symbols expressions visit slots).run cache = (do
        ((accepted symbols expressions slots).toList).forM visit
        return ((), kept)) := by
  unfold visitAccepted accepted
  cases hslots : slots.complete? with
  | none => exact ⟨cache, hcache, by simp⟩
  | some bindings =>
    obtain ⟨kept, hrun, hkept⟩ := run_allHold bindings expressions cache hcache
    refine ⟨kept, hkept, ?_⟩
    simp only [StateT.run_bind, StateT.run_get, pure_bind]
    rw [hrun]
    cases hholds : holdAll symbols bindings.valuation expressions with
    | false => simp [Option.filter, hholds]
    | true => simp [Option.filter, hholds]

theorem run_forM_visitAccepted {symbols : SymbolTable} (expressions : List Expression)
    (visit : Bindings → m Unit) (found : List Slots) (cache : PatternCache)
    (hcache : cache.Sound symbols) :
    (do let _ ← (found.forM (visitAccepted symbols expressions visit)).run cache : m Unit) =
      (found.filterMap (accepted symbols expressions)).forM visit := by
  induction found generalizing cache with
  | nil => simp
  | cons slots found ih =>
    obtain ⟨kept, hkept, hrun⟩ := run_visitAccepted expressions visit slots cache hcache
    have hrest := ih kept hkept
    simp only [List.forM_eq_forM, List.forM_cons, StateT.run_bind] at hrest ⊢
    rw [← List.forM_eq_forM, hrun]
    cases haccepted : accepted symbols expressions slots with
    | none => simpa [haccepted] using hrest
    | some bindings => simp [haccepted, ← hrest]

theorem forEachBinding_eq_filterMap (symbols : SymbolTable) (facts : List Fact)
    (body : List Predicate) (expressions : List Expression) (start : Slots)
    (visit : Bindings → m Unit) :
    forEachBinding symbols facts body expressions start visit =
      ((allMatches facts body start).filterMap (accepted symbols expressions)).forM visit := by
  rw [forEachBinding_eq_run, forEachMatch_eq_forM]
  exact run_forM_visitAccepted expressions visit _ [] (PatternCache.sound_nil symbols)

end

/-- Pushing elements one by one puts them before those there are, in reverse. -/
theorem run_forM_push {α : Type} (xs pushed : List α) :
    ((xs.forM fun x => (modify (x :: ·) : StateM (List α) Unit)).run pushed).2 =
      xs.reverse ++ pushed := by
  induction xs generalizing pushed with
  | nil => rfl
  | cons x xs ih =>
    have hstep : (((x :: xs).forM fun x => (modify (x :: ·) : StateM (List α) Unit)).run pushed).2 =
        ((xs.forM fun x => (modify (x :: ·) : StateM (List α) Unit)).run (x :: pushed)).2 := rfl
    rw [hstep, ih]
    simp

theorem allBindings_eq_filterMap (symbols : SymbolTable) (facts : List Fact)
    (body : List Predicate) (expressions : List Expression) (start : Slots) :
    allBindings symbols facts body expressions start =
      (allMatches facts body start).filterMap (accepted symbols expressions) := by
  unfold allBindings
  dsimp only
  rw [forEachBinding_eq_filterMap, run_forM_push]
  simp

/-- Visiting bindings is visiting all of them in order. -/
theorem forEachBinding_eq_forM {m : Type → Type} [Monad m] [LawfulMonad m]
    (symbols : SymbolTable) (facts : List Fact) (body : List Predicate)
    (expressions : List Expression) (start : Slots) (visit : Bindings → m Unit) :
    forEachBinding symbols facts body expressions start visit =
      (allBindings symbols facts body expressions start).forM visit := by
  rw [forEachBinding_eq_filterMap, allBindings_eq_filterMap]

namespace RuleOf

/-- The bindings of the body of a rule. -/
def bindings (rule : Rule) (symbols : SymbolTable) (facts : List Fact) : List Bindings :=
  allBindings symbols facts rule.body rule.expressions (Slots.unbound rule.bodyVariables)

theorem forEachFact_eq_filterMap {m : Type → Type} [Monad m] [LawfulMonad m] (rule : Rule)
    (symbols : SymbolTable) (facts : List Fact) (visit : Fact → m Unit) :
    rule.forEachFact symbols facts visit =
      ((rule.bindings symbols facts).filterMap rule.head.instantiate).forM visit := by
  rw [forEachFact, forEachBinding_eq_forM, ← bindings]
  induction rule.bindings symbols facts with
  | nil => rfl
  | cons first rest ih =>
    simp only [List.forM_eq_forM, List.forM_cons] at ih ⊢
    rw [ih]
    cases h : rule.head.instantiate first with
    | none => simp [h]
    | some fact => simp [h]

theorem apply_eq_filterMap (rule : Rule) (symbols : SymbolTable) (facts : List Fact) :
    rule.apply symbols facts = (rule.bindings symbols facts).filterMap rule.head.instantiate := by
  unfold apply
  dsimp only
  rw [forEachFact_eq_filterMap, run_forM_push]
  simp

/-- Visiting the facts that a rule derives is visiting all of them in order. -/
theorem forEachFact_eq_forM {m : Type → Type} [Monad m] [LawfulMonad m] (rule : Rule)
    (symbols : SymbolTable) (facts : List Fact) (visit : Fact → m Unit) :
    rule.forEachFact symbols facts visit = (rule.apply symbols facts).forM visit := by
  rw [forEachFact_eq_filterMap, apply_eq_filterMap]

theorem hasMatch_iff {rule : Rule} {symbols : SymbolTable} {facts : List Fact} :
    rule.hasMatch symbols facts = true ↔ ∃ bindings, bindings ∈ rule.bindings symbols facts := by
  unfold hasMatch
  dsimp only
  rw [forEachBinding_eq_forM, ← bindings]
  cases rule.bindings symbols facts with
  | nil =>
    constructor
    · intro h
      cases h
    · rintro ⟨_, h⟩
      cases h
  | cons first rest => exact ⟨fun _ => ⟨first, List.mem_cons_self⟩, fun _ => rfl⟩

/-- A valuation of the variables of a body under which every predicate of the body stands for one
    of the facts and every constraint has the value true. -/
structure SatisfiedBy (rule : Rule) (symbols : SymbolTable) (known : Set Fact) (σ : Valuation) :
    Prop where
  domain : ∀ v, (σ v).isSome ↔ ∃ p ∈ rule.body, v ∈ p.argVariables
  body : ∀ p ∈ rule.body, ∃ fact ∈ known, p.substitute σ = some fact ∧ fact.argVariables = []
  expressions : ∀ e ∈ rule.expressions, value symbols σ e = some (.bool true)

theorem mem_bodyVariables {rule : Rule} {v : UInt32} :
    v ∈ rule.bodyVariables ↔ ∃ p ∈ rule.body, v ∈ p.argVariables := by
  simp [bodyVariables, List.mem_flatMap]

/-- The bindings that are found are all the valuations that satisfy the body. -/
theorem exists_mem_bindings_iff {rule : Rule} {symbols : SymbolTable} {facts : List Fact}
    {σ : Valuation} :
    (∃ bindings ∈ rule.bindings symbols facts, bindings.valuation = σ) ↔
      rule.SatisfiedBy symbols {fact | fact ∈ facts} σ := by
  have hnames : (Slots.unbound rule.bodyVariables).names =
      SortedList.ofList rule.bodyVariables := Slots.names_unbound _
  simp only [bindings, allBindings_eq_filterMap, List.mem_filterMap, accepted,
    Option.filter_eq_some_iff, holdAll, List.all_eq_true, beq_iff_eq]
  constructor
  · rintro ⟨bindings, ⟨bound, hmem, hcomplete, hholds⟩, rfl⟩
    obtain ⟨hboundNames, _, hbody⟩ := substitute_of_mem_allMatches hmem
    obtain ⟨hvaluation, hdomain⟩ := Slots.complete?_eq_some hcomplete
    rw [← hvaluation] at hbody hdomain
    refine ⟨fun v => ?_, hbody, hholds⟩
    rw [← hdomain, hboundNames, hnames, SortedList.mem_ofList, mem_bodyVariables]
  · intro h
    obtain ⟨bound, hmem, hwithin⟩ := exists_mem_allMatches
      (Slots.unbound rule.bodyVariables) h.body
      (fun p hp v hv => by
        rw [hnames, SortedList.mem_ofList, mem_bodyVariables]
        exact ⟨p, hp, hv⟩)
      (by
        intro v t hv
        simp [Slots.valuation_unbound] at hv)
    obtain ⟨hboundNames, _, hbody⟩ := substitute_of_mem_allMatches hmem
    have hall : ∀ v ∈ bound.names, (bound.valuation v).isSome := by
      intro v hv
      rw [hboundNames, hnames, SortedList.mem_ofList, mem_bodyVariables] at hv
      obtain ⟨p, hp, hvar⟩ := hv
      obtain ⟨fact, _, hfact, _⟩ := hbody p hp
      exact PredicateOf.isSome_of_substitute hfact hvar
    obtain ⟨bindings, hbindings⟩ := Slots.exists_complete?
      (by rw [hboundNames, hnames]; exact SortedList.nodup_ofList _) hall
    obtain ⟨hvaluation, hdomain⟩ := Slots.complete?_eq_some hbindings
    have hσ : bindings.valuation = σ := by
      funext v
      rw [hvaluation]
      cases hv : bound.valuation v with
      | some t => exact (hwithin v t hv).symm
      | none =>
        cases hσv : σ v with
        | none => rfl
        | some t =>
          have hmemv : v ∈ bound.names := by
            rw [hboundNames, hnames, SortedList.mem_ofList, mem_bodyVariables, ← h.domain, hσv]
            rfl
          have := hall v hmemv
          simp [hv] at this
    exact ⟨bindings, ⟨bound, hmem, hbindings, by rw [hσ]; exact h.expressions⟩, hσ⟩

/-- A rule derives the heads of the valuations that satisfy its body. -/
theorem mem_apply {rule : Rule} {symbols : SymbolTable} {facts : List Fact} {fact : Fact} :
    fact ∈ rule.apply symbols facts ↔ ∃ σ, rule.SatisfiedBy symbols {known | known ∈ facts} σ ∧
      rule.head.substitute σ = some fact := by
  simp only [apply_eq_filterMap, List.mem_filterMap, PredicateOf.instantiate_eq_substitute,
    ← exists_mem_bindings_iff]
  constructor
  · rintro ⟨bindings, hmem, hhead⟩
    exact ⟨bindings.valuation, ⟨bindings, hmem, rfl⟩, hhead⟩
  · rintro ⟨_, ⟨bindings, hmem, rfl⟩, hhead⟩
    exact ⟨bindings, hmem, hhead⟩

theorem hasMatch_iff_satisfiedBy {rule : Rule} {symbols : SymbolTable} {facts : List Fact} :
    rule.hasMatch symbols facts = true ↔
      ∃ σ, rule.SatisfiedBy symbols {known | known ∈ facts} σ := by
  simp only [hasMatch_iff, ← exists_mem_bindings_iff]
  constructor
  · rintro ⟨bindings, hmem⟩
    exact ⟨bindings.valuation, bindings, hmem, rfl⟩
  · rintro ⟨_, bindings, hmem, rfl⟩
    exact ⟨bindings, hmem⟩

end RuleOf

end Warrant
