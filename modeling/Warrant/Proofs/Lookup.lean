import Warrant.Proofs.Answers

namespace Warrant

namespace PredicateOf

/-- Whether a fact has one term wherever a pattern has one variable. -/
def Agrees (pattern : Predicate) (fact : Fact) : Prop :=
  ∀ (i j : Nat) (v : UInt32), pattern.terms[i]? = some (.var v) →
    pattern.terms[j]? = some (.var v) → fact.terms[i]? = fact.terms[j]?

/-- The rule that derives what a pattern stands for from that alone. -/
def selfRule (pattern : Predicate) : Rule := ⟨pattern, [pattern], []⟩

/-- The term of a fact at the first place where a pattern has a variable. -/
def reading (pattern : Predicate) (fact : Fact) : Valuation := fun v =>
  (pattern.terms.zip fact.terms).lookup (.var v)

theorem mem_argVariables_iff {p : Predicate} {v : UInt32} :
    v ∈ p.argVariables ↔ TermOf.var v ∈ p.terms := by
  rw [argVariables, List.mem_filterMap]
  constructor
  · rintro ⟨t, ht, hvar⟩
    cases t with
    | var w =>
      cases hvar
      exact ht
    | _ => cases hvar
  · exact fun h => ⟨_, h, rfl⟩

/-- A pattern stands for the facts whose arguments its own stand for, one by one. -/
theorem substitute_eq_some_iff_zip {σ : Valuation} {pattern : Predicate} {fact : Fact} :
    pattern.substitute σ = some fact ↔ pattern.name = fact.name ∧
      pattern.terms.length = fact.terms.length ∧
        ∀ p t, (p, t) ∈ pattern.terms.zip fact.terms → p.under σ = some t := by
  rw [substitute_eq_some_iff, List.forall₂_iff_zip]

theorem mem_zip_iff {ps ts : List Term} {p t : Term} :
    (p, t) ∈ ps.zip ts ↔ ∃ i : Nat, ps[i]? = some p ∧ ts[i]? = some t := by
  rw [List.mem_iff_getElem?]
  exact exists_congr fun i => List.getElem?_zip_eq_some

/-- Valuations under which a pattern stands for one fact give its variables the same terms. -/
theorem eq_of_substitute_eq {σ τ : Valuation} {pattern : Predicate} {fact : Fact}
    (hσ : pattern.substitute σ = some fact) (hτ : pattern.substitute τ = some fact) {v : UInt32}
    (hv : v ∈ pattern.argVariables) : σ v = τ v := by
  obtain ⟨-, hlength, hσ⟩ := substitute_eq_some_iff_zip.1 hσ
  obtain ⟨-, -, hτ⟩ := substitute_eq_some_iff_zip.1 hτ
  obtain ⟨i, hi, hterm⟩ := List.mem_iff_getElem.1 (mem_argVariables_iff.1 hv)
  have hmem : (TermOf.var v, fact.terms[i]) ∈ pattern.terms.zip fact.terms :=
    mem_zip_iff.2 ⟨i, by rw [List.getElem?_eq_getElem hi, hterm], List.getElem?_eq_getElem _⟩
  exact (hσ _ _ hmem).trans (hτ _ _ hmem).symm

section

variable {pattern : Predicate} {fact : Fact}

theorem isSome_reading_iff (hlength : pattern.terms.length = fact.terms.length) (v : UInt32) :
    (reading pattern fact v).isSome ↔ v ∈ pattern.argVariables := by
  rw [reading, List.lookup_isSome_iff, mem_argVariables_iff]
  constructor
  · rintro ⟨⟨p, t⟩, hmem, hp⟩
    rw [LawfulBEq.eq_of_beq hp]
    exact (List.of_mem_zip hmem).1
  · intro hmem
    obtain ⟨i, hi, hterm⟩ := List.mem_iff_getElem.1 hmem
    refine ⟨(pattern.terms[i], fact.terms[i]), ?_, by simp [hterm]⟩
    exact mem_zip_iff.2 ⟨i, List.getElem?_eq_getElem hi, List.getElem?_eq_getElem _⟩

/-- What is read off a fact that agrees with a pattern is what stands at every place. -/
theorem Agrees.reading_eq (hagrees : pattern.Agrees fact) {v : UInt32} {t : Term}
    (hmem : (TermOf.var v, t) ∈ pattern.terms.zip fact.terms) :
    reading pattern fact v = some t := by
  obtain ⟨u, hu⟩ : ∃ u, reading pattern fact v = some u :=
    Option.isSome_iff_exists.1 (List.lookup_isSome_iff.2 ⟨_, hmem, BEq.rfl⟩)
  obtain ⟨before, after, hsplit, -⟩ := List.lookup_eq_some_iff.1 hu
  have hfirst : (TermOf.var v, u) ∈ pattern.terms.zip fact.terms := by
    rw [hsplit]
    exact List.mem_append_right before List.mem_cons_self
  obtain ⟨i, hi, hti⟩ := mem_zip_iff.1 hmem
  obtain ⟨j, hj, huj⟩ := mem_zip_iff.1 hfirst
  rw [hu, ← huj, ← hti, hagrees i j v hi hj]

/-- Where no variable is repeated, there is nothing to agree on. -/
theorem agrees_of_nodup (h : pattern.argVariables.Nodup) (fact : Fact) : pattern.Agrees fact := by
  have hplaces := List.pairwise_iff_getElem.1 (List.pairwise_filterMap.1 h)
  have hle (i j : Nat) (v : UInt32) (hi : pattern.terms[i]? = some (.var v))
      (hj : pattern.terms[j]? = some (.var v)) : ¬ i < j := by
    intro hlt
    obtain ⟨hilt, hi⟩ := List.getElem?_eq_some_iff.1 hi
    obtain ⟨hjlt, hj⟩ := List.getElem?_eq_some_iff.1 hj
    exact hplaces i j hilt hjlt hlt v (by rw [hi]; rfl) v (by rw [hj]; rfl) rfl
  intro i j v hi hj
  rw [Nat.le_antisymm (Nat.not_lt.1 (hle j i v hj hi)) (Nat.not_lt.1 (hle i j v hi hj))]

end

end PredicateOf

/-- A rule whose head has all variables of its body derives nothing twice, as what it derives tells
    the terms that they are bound to. -/
theorem RuleOf.nodup_apply (rule : Rule) (symbols : SymbolTable) {facts : List Fact}
    (hhead : ∀ v ∈ rule.bodyVariables, v ∈ rule.head.argVariables) (hfacts : facts.Nodup) :
    (rule.apply symbols facts).Nodup := by
  rw [apply_eq_filterMap, List.Nodup, List.pairwise_filterMap]
  refine (rule.nodup_bindings symbols hfacts).imp_of_mem ?_
  rintro found other hfound hother hne fact hfact _ hsame rfl
  have hnames := names_of_mem_bindings hfound
  have hnames' := names_of_mem_bindings hother
  rw [PredicateOf.instantiate_eq_substitute] at hfact hsame
  refine hne (Bindings.eq_of_valuation_eq ?_ (hnames.trans hnames'.symm) (funext fun v => ?_))
  · rw [hnames]
    exact SortedList.nodup_ofList _
  · by_cases hv : v ∈ rule.bodyVariables
    · exact PredicateOf.eq_of_substitute_eq hfact hsame (hhead v hv)
    · have hnone (bindings : Bindings) (h : bindings.map Prod.fst = rule.bodyVariables) :
          bindings.valuation v = none := by
        rw [← Option.not_isSome_iff_eq_none, Bindings.isSome_valuation_iff, h]
        exact hv
      rw [hnone found hnames, hnone other hnames']

theorem TermOf.asVariable?_of_isGround {t : Term} (h : t.isGround = true) :
    t.asVariable? = none := by
  cases t with
  | var v => rw [isGround] at h; cases h
  | _ => rfl

theorem PredicateOf.argVariables_of_isGround {fact : Fact} (h : fact.isGround = true) :
    fact.argVariables = [] :=
  List.filterMap_eq_nil_iff.2 fun t ht =>
    TermOf.asVariable?_of_isGround (List.all_eq_true.1 h t ht)

namespace World

/-- A pattern is looked up by its name and its arguments, each of which is a variable or the term
    of the fact at its place. -/
theorem mem_query_iff {world : World} {pattern : Predicate} {fact : Fact} :
    fact ∈ world.query pattern ↔ fact ∈ world.facts ∧ pattern.name = fact.name ∧
      pattern.terms.length = fact.terms.length ∧
        ∀ p t, (p, t) ∈ pattern.terms.zip fact.terms → p.asVariable?.isSome ∨ p = t := by
  rw [query, List.mem_filter, ← FactSet.mem_def]
  simp only [Bool.and_eq_true, Bool.or_eq_true, beq_iff_eq, List.all_eq_true, and_assoc, Prod.forall,
    PredicateOf.mem_zip_iff, eq_comm (a := fact.name), eq_comm (a := fact.terms.length)]
  refine and_congr_right fun _ => and_congr_right fun _ => and_congr_right fun _ => ?_
  constructor
  · rintro h p t ⟨i, hp, ht⟩
    exact (h t p ⟨i, ht, hp⟩).imp_right Eq.symm
  · rintro h t p ⟨i, ht, hp⟩
    exact (h p t ⟨i, hp, ht⟩).imp_right Eq.symm

section

variable {world : World} {symbols : SymbolTable} {pattern : Predicate} {fact : Fact}

/-- A rule with one pattern as its head and its body derives the facts without variables that the
    pattern stands for. -/
theorem mem_queryRule_selfRule_iff : fact ∈ world.queryRule symbols pattern.selfRule ↔
    fact ∈ world.facts ∧ fact.argVariables = [] ∧
      ∃ σ : Valuation, (∀ v, (σ v).isSome ↔ v ∈ pattern.argVariables) ∧
        pattern.substitute σ = some fact := by
  rw [queryRule, RuleOf.mem_apply]
  constructor
  · rintro ⟨σ, ⟨hdomain, hbody, -⟩, hhead⟩
    obtain ⟨known, hknown, hstands, hground⟩ := hbody pattern (List.mem_singleton_self pattern)
    obtain rfl : known = fact := Option.some.inj (hstands.symm.trans hhead)
    exact ⟨hknown, hground, σ, by simpa [PredicateOf.selfRule] using hdomain, hhead⟩
  · rintro ⟨hfact, hground, σ, hdomain, hstands⟩
    refine ⟨σ, ⟨by simpa [PredicateOf.selfRule] using hdomain, fun p hp => ?_, nofun⟩, hstands⟩
    rw [List.mem_singleton.1 hp]
    exact ⟨fact, hfact, hstands, hground⟩

/-- A fact is looked up and agrees with the pattern where there are terms for the variables of the
    pattern so that it stands for the fact. -/
theorem mem_query_and_agrees_iff : fact ∈ world.query pattern ∧ pattern.Agrees fact ↔
    fact ∈ world.facts ∧ ∃ σ : Valuation, (∀ v, (σ v).isSome ↔ v ∈ pattern.argVariables) ∧
      pattern.substitute σ = some fact := by
  rw [mem_query_iff]
  constructor
  · rintro ⟨⟨hfact, hname, hlength, hterms⟩, hagrees⟩
    refine ⟨hfact, pattern.reading fact, PredicateOf.isSome_reading_iff hlength,
      PredicateOf.substitute_eq_some_iff_zip.2 ⟨hname, hlength, fun p t hmem => ?_⟩⟩
    cases p with
    | var v => exact hagrees.reading_eq hmem
    | _ => exact congrArg some ((hterms _ t hmem).resolve_left nofun)
  · rintro ⟨hfact, σ, -, hstands⟩
    obtain ⟨hname, hlength, hterms⟩ := PredicateOf.substitute_eq_some_iff_zip.1 hstands
    refine ⟨⟨hfact, hname, hlength, fun p t hmem => ?_⟩, fun i j v hi hj => ?_⟩
    · cases p with
      | var v => exact .inl rfl
      | _ => exact .inr (Option.some.inj (hterms _ t hmem))
    · -- at both places stands the term that the variable is given
      have hplace (k : Nat) (hk : pattern.terms[k]? = some (.var v)) :
          fact.terms[k]? = σ v := by
        obtain ⟨hlt, -⟩ := List.getElem?_eq_some_iff.1 hk
        have hterm := List.getElem?_eq_getElem (hlength ▸ hlt : k < fact.terms.length)
        rw [hterm]
        exact (hterms _ _ (PredicateOf.mem_zip_iff.2 ⟨k, hk, hterm⟩)).symm
      rw [hplace i hi, hplace j hj]

end

/-- Among facts without variables, looking up a pattern and deriving it from itself come to the
    same where the pattern repeats no variable. Where it does, those of the facts that are looked
    up are derived which agree at the places of each variable. No fact is derived twice. -/
theorem queryRule_agrees_with_query (world : World) (symbols : SymbolTable) (pattern : Predicate)
    (hground : ∀ fact ∈ world.facts, fact.isGround = true) :
    (world.queryRule symbols ⟨pattern, [pattern], []⟩).Nodup ∧
      (pattern.argVariables.Nodup → ∀ fact,
        fact ∈ world.queryRule symbols ⟨pattern, [pattern], []⟩ ↔ fact ∈ world.query pattern) ∧
      ∀ fact, fact ∈ world.queryRule symbols ⟨pattern, [pattern], []⟩ ↔
        fact ∈ world.query pattern ∧ pattern.Agrees fact := by
  have hsame (fact : Fact) : fact ∈ world.queryRule symbols pattern.selfRule ↔
      fact ∈ world.query pattern ∧ pattern.Agrees fact := by
    rw [mem_query_and_agrees_iff, mem_queryRule_selfRule_iff]
    refine and_congr_right fun hfact => and_iff_right ?_
    exact PredicateOf.argVariables_of_isGround (hground fact hfact)
  refine ⟨?_, fun hnodup fact => ?_, hsame⟩
  · refine pattern.selfRule.nodup_apply symbols (fun v hv => ?_) world.facts.nodup
    simpa [RuleOf.mem_bodyVariables, PredicateOf.selfRule] using hv
  · exact (hsame fact).trans (and_iff_left (PredicateOf.agrees_of_nodup hnodup fact))

/-- Two edges, one of which leads back to where it starts. -/
def edgeWorld : World :=
  ⟨.ofList [⟨0, [.integer 1, .integer 2]⟩, ⟨0, [.integer 1, .integer 1]⟩], []⟩

/-- Both edges are looked up by a pattern with one variable at both places, and the one that leads
    back is derived from it. -/
theorem edgeWorld_queryRule_agrees_with_query :
    (∀ fact ∈ edgeWorld.facts, fact.isGround = true) ∧
      (∀ fact ∈ edgeWorld.facts, fact ∈ edgeWorld.query ⟨0, [.var 0, .var 0]⟩) ∧
      ∀ fact, fact ∈ edgeWorld.queryRule .empty
          ⟨⟨0, [.var 0, .var 0]⟩, [⟨0, [.var 0, .var 0]⟩], []⟩ ↔
        fact = ⟨0, [.integer 1, .integer 1]⟩ := by
  have hground : ∀ fact ∈ edgeWorld.facts, fact.isGround = true := by
    simp only [FactSet.mem_def]
    decide
  have hquery : ∀ fact ∈ edgeWorld.facts, fact ∈ edgeWorld.query ⟨0, [.var 0, .var 0]⟩ := by
    simp only [FactSet.mem_def]
    decide
  refine ⟨hground, hquery, fun fact => ?_⟩
  obtain ⟨-, -, hsame⟩ :=
    queryRule_agrees_with_query edgeWorld .empty ⟨0, [.var 0, .var 0]⟩ hground
  rw [hsame]
  constructor
  · rintro ⟨hmem, hagrees⟩
    have hfact : fact ∈ [⟨0, [.integer 1, .integer 2]⟩, ⟨0, [.integer 1, .integer 1]⟩] :=
      FactSet.mem_ofList.1 (mem_query_iff.1 hmem).1
    have hends : fact.terms[0]? = fact.terms[1]? := hagrees 0 1 0 rfl rfl
    rcases List.mem_cons.1 hfact with rfl | hfact
    · cases hends
    · exact List.mem_singleton.1 hfact
  · rintro rfl
    refine ⟨hquery _ (by decide), fun i j v hi hj => ?_⟩
    have hplace (k : Nat) (hk : ([.var 0, .var 0] : List Term)[k]? = some (.var v)) :
        k = 0 ∨ k = 1 := by
      obtain ⟨hlt, -⟩ := List.getElem?_eq_some_iff.1 hk
      rw [List.length_cons, List.length_singleton] at hlt
      omega
    rcases hplace i hi with rfl | rfl <;> rcases hplace j hj with rfl | rfl <;> rfl

end World

end Warrant
