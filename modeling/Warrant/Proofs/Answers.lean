import Warrant.Proofs.Saturation

namespace Warrant

/-- The value of an expression before any pattern has been compiled. -/
def freshValue? (symbols : SymbolTable) (bindings : Bindings) (e : Expression) : Option Term :=
  ((evaluate symbols bindings e).run.run []).1

theorem freshValue?_eq_value (symbols : SymbolTable) (bindings : Bindings) (e : Expression) :
    freshValue? symbols bindings e = value symbols bindings.valuation e := by
  obtain ⟨kept, hrun, _⟩ :=
    Evaluation.gives_evaluate bindings e [] (PatternCache.sound_nil symbols)
  rw [freshValue?, hrun]

namespace Bindings

theorem isSome_valuation_iff {bindings : Bindings} {v : UInt32} :
    (bindings.valuation v).isSome ↔ v ∈ bindings.map Prod.fst := by
  rw [valuation, List.lookup_isSome_iff]
  simp

/-- Bindings of the same variables in the same order differ in the terms if they differ. -/
theorem eq_of_valuation_eq {bindings others : Bindings} (hnodup : (bindings.map Prod.fst).Nodup)
    (hnames : bindings.map Prod.fst = others.map Prod.fst)
    (h : bindings.valuation = others.valuation) : bindings = others := by
  induction bindings generalizing others with
  | nil => exact (List.map_eq_nil_iff.1 hnames.symm).symm
  | cons binding rest ih =>
    obtain ⟨v, t⟩ := binding
    rcases others with _ | ⟨⟨w, u⟩, others⟩
    · cases hnames
    obtain ⟨rfl, hrestNames⟩ := List.cons.inj hnames
    obtain ⟨hv, hrest⟩ := List.nodup_cons.1 hnodup
    have hterm : t = u := by simpa [valuation] using congrFun h v
    have hothers : valuation rest = valuation others := by
      funext w
      by_cases hw : w = v
      · subst hw
        have hnone : valuation rest w = none := by
          rw [← Option.not_isSome_iff_eq_none, isSome_valuation_iff]
          exact hv
        have hnone' : valuation others w = none := by
          rw [← Option.not_isSome_iff_eq_none, isSome_valuation_iff, ← hrestNames]
          exact hv
        rw [hnone, hnone']
      · have hne : (w == v) = false := by simpa using hw
        simpa [valuation, List.lookup_cons, hne] using congrFun h w
    rw [hterm, ih hrest hrestNames hothers]

end Bindings

/-- Distinct facts lead to distinct matches, as a match tells the fact that each pattern stands
    for. -/
theorem nodup_allMatches {facts : List Fact} (hfacts : facts.Nodup) (patterns : List Predicate)
    (slots : Slots) : (allMatches facts patterns slots).Nodup := by
  induction patterns generalizing slots with
  | nil => exact List.nodup_singleton slots
  | cons p ps ih =>
    rw [allMatches, List.nodup_flatMap]
    constructor
    · intro fact _
      cases p.unify fact slots with
      | none => exact List.nodup_nil
      | some bound => exact ih bound
    · refine hfacts.imp fun {fact other} hne bound hbound hbound' => hne ?_
      have hstands {fact : Fact}
          (h : bound ∈ (p.unify fact slots).elim [] (allMatches facts ps)) :
          p.substitute bound.valuation = some fact := by
        cases hunify : p.unify fact slots with
        | none => simp [hunify] at h
        | some first =>
          obtain ⟨_, _, hp, _⟩ := PredicateOf.unify_eq_some hunify
          obtain ⟨_, hwithin, _⟩ := substitute_of_mem_allMatches
            (show bound ∈ allMatches facts ps first by simpa [hunify] using h)
          exact PredicateOf.substitute_mono hwithin hp
      exact Option.some.inj ((hstands hbound).symm.trans (hstands hbound'))

theorem accepted_inj {symbols : SymbolTable} {expressions : List Expression} {slots others : Slots}
    {bindings : Bindings} (h : accepted symbols expressions slots = some bindings)
    (h' : accepted symbols expressions others = some bindings) : slots = others := by
  rw [accepted, Option.filter_eq_some_iff] at h h'
  have hentries := Slots.entries_of_complete? h.1
  rw [← Slots.entries_of_complete? h'.1] at hentries
  cases slots
  cases others
  exact congrArg Slots.mk hentries

namespace PredicateOf

/-- A predicate stands for a fact where each of its variables is bound. -/
theorem isSome_instantiate_iff {p : Predicate} {bindings : Bindings} :
    (p.instantiate bindings).isSome ↔ ∀ v ∈ p.argVariables, v ∈ bindings.map Prod.fst := by
  rw [instantiate, Option.isSome_map, argVariables]
  induction p.terms with
  | nil => simp
  | cons t ts ih =>
    cases t with
    | var v =>
      rw [List.filterMap_cons_some (show TermOf.asVariable? (.var v : Term) = some v from rfl),
        List.forall_mem_cons, ← ih, List.mapM_cons, ← Bindings.isSome_valuation_iff]
      change ((bindings.valuation v).bind _).isSome = true ↔ _
      cases bindings.valuation v with
      | none => simp
      | some u =>
        cases ts.mapM (TermOf.lookup bindings) with
        | none => simp
        | some us => simp
    | _ =>
      rw [List.filterMap_cons_none (by rfl), ← ih, List.mapM_cons]
      cases ts.mapM (TermOf.lookup bindings) with
      | none => simp [TermOf.lookup]
      | some us => simp [TermOf.lookup]

end PredicateOf

namespace RuleOf

/-- Whether bindings are a way to satisfy the body of a rule: just the variables of the body are
    bound, in increasing order, every predicate of the body stands for a fact that is known and has
    no variable among its arguments, and every constraint comes to true. -/
structure Answer (rule : Rule) (symbols : SymbolTable) (known : Set Fact) (bindings : Bindings) :
    Prop where
  domain : bindings.map Prod.fst = rule.bodyVariables
  body : ∀ p ∈ rule.body, ∃ fact ∈ known, p.instantiate bindings = some fact ∧
    fact.argVariables = []
  expressions : ∀ e ∈ rule.expressions, freshValue? symbols bindings e = some (.bool true)

theorem bodyVariables_pairwise (rule : Rule) :
    rule.bodyVariables.Pairwise fun v w => compare v w = .lt :=
  SortedList.pairwise_ofList _

theorem answer_iff {rule : Rule} {symbols : SymbolTable} {known : Set Fact} {bindings : Bindings} :
    rule.Answer symbols known bindings ↔ bindings.map Prod.fst = rule.bodyVariables ∧
      rule.SatisfiedBy symbols known bindings.valuation := by
  constructor
  · intro h
    refine ⟨h.domain, fun v => ?_, fun p hp => ?_, fun e he => ?_⟩
    · rw [Bindings.isSome_valuation_iff, h.domain, mem_bodyVariables]
    · obtain ⟨fact, hfact, hstands, hground⟩ := h.body p hp
      exact ⟨fact, hfact, (p.instantiate_eq_substitute bindings).symm.trans hstands, hground⟩
    · exact (freshValue?_eq_value symbols bindings e).symm.trans (h.expressions e he)
  · rintro ⟨hdomain, h⟩
    refine ⟨hdomain, fun p hp => ?_, fun e he => ?_⟩
    · obtain ⟨fact, hfact, hstands, hground⟩ := h.body p hp
      exact ⟨fact, hfact, (p.instantiate_eq_substitute bindings).trans hstands, hground⟩
    · exact (freshValue?_eq_value symbols bindings e).trans (h.expressions e he)

theorem names_of_mem_bindings {rule : Rule} {symbols : SymbolTable} {facts : List Fact}
    {found : Bindings} (h : found ∈ rule.bindings symbols facts) :
    found.map Prod.fst = rule.bodyVariables := by
  simp only [bindings, allBindings_eq_filterMap, List.mem_filterMap, accepted,
    Option.filter_eq_some_iff] at h
  obtain ⟨bound, hmem, hcomplete, _⟩ := h
  obtain ⟨hnames, _⟩ := substitute_of_mem_allMatches hmem
  rw [Slots.names_unbound, SortedList.ofList_of_pairwise rule.bodyVariables_pairwise,
    Slots.names, Slots.entries_of_complete? hcomplete] at hnames
  simpa [Function.comp_def] using hnames

/-- The bindings that the search for a body finds are its answers. -/
theorem mem_bindings_iff {rule : Rule} {symbols : SymbolTable} {facts : List Fact}
    {found : Bindings} :
    found ∈ rule.bindings symbols facts ↔
      rule.Answer symbols {fact | fact ∈ facts} found := by
  rw [answer_iff, ← exists_mem_bindings_iff]
  constructor
  · exact fun h => ⟨names_of_mem_bindings h, found, h, rfl⟩
  · rintro ⟨hdomain, other, hother, hvaluation⟩
    have hnames := names_of_mem_bindings hother
    have hnodup : (other.map Prod.fst).Nodup := by
      rw [hnames]
      exact SortedList.nodup_ofList _
    rwa [← Bindings.eq_of_valuation_eq hnodup (hnames.trans hdomain.symm) hvaluation]

theorem nodup_bindings (rule : Rule) (symbols : SymbolTable) {facts : List Fact}
    (hfacts : facts.Nodup) : (rule.bindings symbols facts).Nodup := by
  rw [bindings, allBindings_eq_filterMap]
  exact (nodup_allMatches hfacts _ _).filterMap fun slots others found h h' => accepted_inj h h'

/-- Without a body there is one way at most to satisfy it, which binds nothing. -/
theorem bindings_of_body_nil {rule : Rule} (hbody : rule.body = []) (symbols : SymbolTable)
    {facts : List Fact} (hfacts : facts.Nodup) :
    rule.bindings symbols facts =
      if ∀ e ∈ rule.expressions, freshValue? symbols [] e = some (.bool true) then [[]]
      else [] := by
  have hvariables : rule.bodyVariables = [] := by
    rw [bodyVariables, hbody]
    rfl
  have hanswer (found : Bindings) : found ∈ rule.bindings symbols facts ↔ found = [] ∧
      ∀ e ∈ rule.expressions, freshValue? symbols [] e = some (.bool true) := by
    rw [mem_bindings_iff]
    constructor
    · intro h
      obtain rfl : found = [] := List.map_eq_nil_iff.1 (h.domain.trans hvariables)
      exact ⟨rfl, h.expressions⟩
    · rintro ⟨rfl, h⟩
      exact ⟨hvariables.symm, by simp [hbody], h⟩
  split
  case isTrue h =>
    refine List.perm_singleton.1 ((List.perm_ext_iff_of_nodup (rule.nodup_bindings symbols hfacts)
      (List.nodup_singleton [])).2 fun found => ?_)
    rw [hanswer, List.mem_singleton]
    exact and_iff_left h
  case isFalse h =>
    exact List.eq_nil_iff_forall_not_mem.2 fun found hfound => h ((hanswer found).1 hfound).2

/-- The join of a body over distinct facts finds each answer once and nothing else. What a rule
    derives are the instances of its head, one for each answer that binds all variables of the
    head, and its body matches where there is an answer. -/
theorem join_exact (rule : Rule) (symbols : SymbolTable) (facts : FactSet) :
    (∀ found, found ∈ rule.bindings symbols facts.facts ↔
        rule.Answer symbols facts.toSet found) ∧
      (rule.bindings symbols facts.facts).Nodup ∧
      (rule.body = [] → rule.bindings symbols facts.facts =
        if ∀ e ∈ rule.expressions, freshValue? symbols [] e = some (.bool true) then [[]]
        else []) ∧
      rule.apply symbols facts.facts =
        (rule.bindings symbols facts.facts).filterMap rule.head.instantiate ∧
      (∀ found, (rule.head.instantiate found).isSome ↔
        ∀ v ∈ rule.head.argVariables, v ∈ found.map Prod.fst) ∧
      (rule.hasMatch symbols facts.facts = true ↔
        ∃ found, rule.Answer symbols facts.toSet found) := by
  refine ⟨fun found => mem_bindings_iff, rule.nodup_bindings symbols facts.nodup,
    fun hbody => bindings_of_body_nil hbody symbols facts.nodup,
    rule.apply_eq_filterMap symbols facts.facts, fun found => PredicateOf.isSome_instantiate_iff,
    ?_⟩
  rw [hasMatch_iff]
  exact exists_congr fun found => mem_bindings_iff

end RuleOf

end Warrant
