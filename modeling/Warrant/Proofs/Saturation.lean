import Mathlib.Data.List.Perm.Subperm
import Mathlib.Data.List.Nodup
import Mathlib.Data.Set.Lattice
import Mathlib.Order.Bounds.Basic
import Warrant.Proofs.Join
import Warrant.World

namespace Warrant

namespace RuleOf

theorem SatisfiedBy.mono {rule : Rule} {symbols : SymbolTable} {known known' : Set Fact}
    {σ : Valuation} (h : rule.SatisfiedBy symbols known σ) (hknown : known ⊆ known') :
    rule.SatisfiedBy symbols known' σ := by
  refine ⟨h.domain, fun p hp => ?_, h.expressions⟩
  obtain ⟨fact, hfact, hsubstitute⟩ := h.body p hp
  exact ⟨fact, hknown hfact, hsubstitute⟩

/-- A body is satisfied by as many facts as it has predicates. -/
theorem SatisfiedBy.exists_list {rule : Rule} {symbols : SymbolTable} {known : Set Fact}
    {σ : Valuation} (h : rule.SatisfiedBy symbols known σ) :
    ∃ facts : List Fact, (∀ fact ∈ facts, fact ∈ known) ∧
      rule.SatisfiedBy symbols {fact | fact ∈ facts} σ := by
  refine ⟨rule.body.filterMap (PredicateOf.substitute σ), ?_, h.domain, ?_, h.expressions⟩
  · intro fact hfact
    obtain ⟨p, hp, hsubstitute⟩ := List.mem_filterMap.1 hfact
    obtain ⟨other, hother, hp', _⟩ := h.body p hp
    rw [hsubstitute, Option.some.injEq] at hp'
    rwa [hp']
  · intro p hp
    obtain ⟨fact, _, hsubstitute⟩ := h.body p hp
    exact ⟨fact, List.mem_filterMap.2 ⟨p, hp, hsubstitute.1⟩, hsubstitute⟩

/-- A variable stands for an argument of a fact that the body has been matched with. -/
theorem SatisfiedBy.exists_fact {rule : Rule} {symbols : SymbolTable} {known : Set Fact}
    {σ : Valuation} (h : rule.SatisfiedBy symbols known σ) {v : UInt32} {t : Term}
    (hv : σ v = some t) : ∃ fact ∈ known, t ∈ fact.terms := by
  obtain ⟨p, hp, hmem⟩ := (h.domain v).1 (by rw [hv, Option.isSome_some])
  obtain ⟨fact, hfact, hsubstitute, _⟩ := h.body p hp
  obtain ⟨pattern, hpattern, hvar⟩ := List.mem_filterMap.1 hmem
  obtain ⟨t', ht', hunder⟩ :=
    exists_of_forall₂ (PredicateOf.substitute_eq_some_iff.1 hsubstitute).2 hpattern
  cases pattern with
  | var w =>
    cases hvar
    have hsame : some t' = some t := hunder.symm.trans hv
    cases hsame
    exact ⟨fact, hfact, ht'⟩
  | _ => cases hvar

/-- Whether a rule derives a fact from finitely many facts of a set. -/
def Yields (rule : Rule) (symbols : SymbolTable) (known : Set Fact) (fact : Fact) : Prop :=
  ∃ facts : List Fact, (∀ other ∈ facts, other ∈ known) ∧ fact ∈ rule.apply symbols facts

theorem yields_iff {rule : Rule} {symbols : SymbolTable} {known : Set Fact} {fact : Fact} :
    rule.Yields symbols known fact ↔
      ∃ σ, rule.SatisfiedBy symbols known σ ∧ rule.head.substitute σ = some fact := by
  constructor
  · rintro ⟨facts, hfacts, hfact⟩
    obtain ⟨σ, hσ, hhead⟩ := mem_apply.1 hfact
    exact ⟨σ, hσ.mono hfacts, hhead⟩
  · rintro ⟨σ, hσ, hhead⟩
    obtain ⟨facts, hfacts, hlist⟩ := hσ.exists_list
    exact ⟨facts, hfacts, mem_apply.2 ⟨σ, hlist, hhead⟩⟩

theorem Yields.mono {rule : Rule} {symbols : SymbolTable} {known known' : Set Fact} {fact : Fact}
    (h : rule.Yields symbols known fact) (hknown : known ⊆ known') :
    rule.Yields symbols known' fact := by
  obtain ⟨facts, hfacts, hfact⟩ := h
  exact ⟨facts, fun other hother => hknown (hfacts other hother), hfact⟩

/-- From a finite set a rule yields what applying it derives. -/
theorem yields_list_iff {rule : Rule} {symbols : SymbolTable} {facts : List Fact} {fact : Fact} :
    rule.Yields symbols {other | other ∈ facts} fact ↔ fact ∈ rule.apply symbols facts := by
  rw [yields_iff, mem_apply]

/-- An argument of a derived fact is a constant of the head, or an argument of a known fact. -/
theorem Yields.mem_terms {rule : Rule} {symbols : SymbolTable} {known : Set Fact}
    {fact : Fact} (h : rule.Yields symbols known fact) {t : Term} (ht : t ∈ fact.terms) :
    (t ∈ rule.head.terms ∧ t.asVariable? = none) ∨ ∃ other ∈ known, t ∈ other.terms := by
  obtain ⟨σ, hσ, hhead⟩ := yields_iff.1 h
  obtain ⟨pattern, hpattern, hunder⟩ :=
    exists_of_forall₂ (PredicateOf.substitute_eq_some_iff.1 hhead).2.flip ht
  cases pattern with
  | var v => exact .inr (hσ.exists_fact hunder)
  | _ =>
    cases hunder
    exact .inl ⟨hpattern, rfl⟩

/-- Whether the body of a rule matches finitely many facts of a set. -/
def Matches (rule : Rule) (symbols : SymbolTable) (known : Set Fact) : Prop :=
  ∃ facts : List Fact, (∀ fact ∈ facts, fact ∈ known) ∧ rule.hasMatch symbols facts = true

theorem matches_iff {rule : Rule} {symbols : SymbolTable} {known : Set Fact} :
    rule.Matches symbols known ↔ ∃ σ, rule.SatisfiedBy symbols known σ := by
  constructor
  · rintro ⟨facts, hfacts, hmatch⟩
    obtain ⟨σ, hσ⟩ := hasMatch_iff_satisfiedBy.1 hmatch
    exact ⟨σ, hσ.mono hfacts⟩
  · rintro ⟨σ, hσ⟩
    obtain ⟨facts, hfacts, hlist⟩ := hσ.exists_list
    exact ⟨facts, hfacts, hasMatch_iff_satisfiedBy.2 ⟨σ, hlist⟩⟩

/-- A body matches a finite set where the search finds a match. -/
theorem matches_list_iff {rule : Rule} {symbols : SymbolTable} {facts : List Fact} :
    rule.Matches symbols {fact | fact ∈ facts} ↔ rule.hasMatch symbols facts = true := by
  rw [matches_iff, hasMatch_iff_satisfiedBy]

end RuleOf

/-- Whether some rules yield nothing new from a set of facts. -/
def ClosedUnder (symbols : SymbolTable) (rules : List Rule) (known : Set Fact) : Prop :=
  ∀ rule ∈ rules, ∀ fact, rule.Yields symbols known fact → fact ∈ known

/-- The least set that has some facts and is closed under some rules. -/
def leastModel (symbols : SymbolTable) (rules : List Rule) (base : Set Fact) : Set Fact :=
  ⋂₀ {known | base ⊆ known ∧ ClosedUnder symbols rules known}

section

variable {symbols : SymbolTable} {rules rules' : List Rule} {base known : Set Fact}

theorem ClosedUnder.of_subset (h : ClosedUnder symbols rules known) (hrules : rules' ⊆ rules) :
    ClosedUnder symbols rules' known :=
  fun rule hrule => h rule (hrules hrule)

theorem subset_leastModel : base ⊆ leastModel symbols rules base :=
  Set.subset_sInter fun _ h => h.1

theorem leastModel_subset (hbase : base ⊆ known) (hclosed : ClosedUnder symbols rules known) :
    leastModel symbols rules base ⊆ known :=
  Set.sInter_subset_of_mem ⟨hbase, hclosed⟩

theorem closedUnder_leastModel : ClosedUnder symbols rules (leastModel symbols rules base) := by
  rintro rule hrule fact hfact known ⟨hbase, hclosed⟩
  exact hclosed rule hrule fact (hfact.mono (leastModel_subset hbase hclosed))

theorem isLeast_leastModel :
    IsLeast {known | base ⊆ known ∧ ClosedUnder symbols rules known}
      (leastModel symbols rules base) :=
  ⟨⟨subset_leastModel, closedUnder_leastModel⟩, fun _ h => leastModel_subset h.1 h.2⟩

theorem leastModel_mono {base' : Set Fact} (hrules : rules ⊆ rules') (hbase : base ⊆ base') :
    leastModel symbols rules base ⊆ leastModel symbols rules' base' :=
  leastModel_subset (hbase.trans subset_leastModel) (closedUnder_leastModel.of_subset hrules)

/-- A closed set between some facts and the least set with them is that least set. -/
theorem eq_leastModel (hbase : base ⊆ known) (hclosed : ClosedUnder symbols rules known)
    (hleast : known ⊆ leastModel symbols rules base) : known = leastModel symbols rules base :=
  hleast.antisymm (leastModel_subset hbase hclosed)

end

namespace FactSet

def toSet (facts : FactSet) : Set Fact := {fact | fact ∈ facts}

@[simp]
theorem mem_toSet {facts : FactSet} {fact : Fact} : fact ∈ facts.toSet ↔ fact ∈ facts := Iff.rfl

theorem toSet_union (facts others : FactSet) :
    (facts.union others).toSet = facts.toSet ∪ others.toSet := by
  ext fact
  simp

theorem size_eq_zero_iff {facts : FactSet} : facts.size = 0 ↔ ∀ fact, fact ∉ facts := by
  simp only [size, List.length_eq_zero_iff, mem_def, List.eq_nil_iff_forall_not_mem]

theorem exists_mem_of_size_pos {facts : FactSet} (h : 0 < facts.size) : ∃ fact, fact ∈ facts :=
  List.exists_mem_of_length_pos h

/-- A fact that is known adds nothing. -/
theorem insert_of_mem {facts : FactSet} {fact : Fact} (h : fact ∈ facts) :
    facts.insert fact = facts := by
  rw [insert, dif_pos h]

theorem size_insert {facts : FactSet} {fact : Fact} (h : fact ∉ facts) :
    (facts.insert fact).size = facts.size + 1 := by
  simp [insert, h, size]

/-- A set of which another one has all images, each of one fact only, is not larger. -/
theorem size_le_of_image {facts others : FactSet} {f : Fact → Fact}
    (hf : ∀ fact ∈ facts, ∀ other ∈ facts, f fact = f other → fact = other)
    (h : ∀ fact ∈ facts, f fact ∈ others) : facts.size ≤ others.size := by
  have hnodup : (facts.facts.map f).Nodup := facts.nodup.map_on hf
  have hsubset : facts.facts.map f ⊆ others.facts := by
    intro fact hfact
    obtain ⟨first, hfirst, rfl⟩ := List.mem_map.1 hfact
    exact h first hfirst
  simpa [size] using (List.subperm_of_subset hnodup hsubset).length_le

end FactSet

/-- The facts that one application of each rule adds to those that are known. -/
def newFacts (symbols : SymbolTable) (rules : List Rule) (known : FactSet) : Set Fact :=
  {fact | fact ∉ known ∧ ∃ rule ∈ rules, fact ∈ rule.apply symbols known.facts}

/-- The new facts are finitely many. -/
theorem exists_newFacts (symbols : SymbolTable) (rules : List Rule) (known : FactSet) :
    ∃ fresh : FactSet, fresh.toSet = newFacts symbols rules known := by
  refine ⟨.ofList ((rules.flatMap fun rule => rule.apply symbols known.facts).filter
    fun fact => fact ∉ known), ?_⟩
  ext fact
  simp [newFacts, and_comm]

theorem closedUnder_of_newFacts_empty {symbols : SymbolTable} {rules : List Rule}
    {known : FactSet} (h : ∀ fact, fact ∉ newFacts symbols rules known) :
    ClosedUnder symbols rules known.toSet := by
  intro rule hrule fact hfact
  by_contra hnot
  exact h fact ⟨hnot, rule, hrule, RuleOf.yields_list_iff.1 hfact⟩

theorem newFacts_subset {symbols : SymbolTable} {rules : List Rule} {known : FactSet}
    {closed : Set Fact} (hknown : known.toSet ⊆ closed)
    (hclosed : ClosedUnder symbols rules closed) : newFacts symbols rules known ⊆ closed := by
  rintro fact ⟨_, rule, hrule, hfact⟩
  exact hclosed rule hrule fact ((RuleOf.yields_list_iff.2 hfact).mono hknown)

/-- A clock that never stops reads as before. -/
theorem Clock.read_of_endless {clock : Clock} (h : clock.readings = none) :
    clock.read = .ok clock := by
  simp [read, h]

theorem Clock.read_eq_error {clock : Clock} {fault : RunLimitError}
    (h : clock.read = .error fault) : fault = .timeout ∧ clock.readings ≠ none := by
  obtain ⟨_ | _ | n⟩ := clock
  · cases h
  · cases h
    exact ⟨rfl, by simp⟩
  · cases h

theorem Clock.read_eq_ok {clock clock' : Clock} (h : clock.read = .ok clock')
    (hclock : clock.readings = none) : clock' = clock := by
  rw [read_of_endless hclock, Except.ok.injEq] at h
  exact h.symm

namespace Round

variable {symbols : SymbolTable} {limits : Limits} {known fresh : FactSet} {clock : Clock}

/-- Whether the limit admits some fresh facts beside the known ones; it is not asked about none. -/
def Fits (limits : Limits) (known fresh : FactSet) : Prop :=
  fresh.size = 0 ∨ known.size + fresh.size ≤ limits.maxFacts

/-- What becomes of a round that is to find the facts of `new`. -/
inductive Outcome (limits : Limits) (known : FactSet) (new : Set Fact) (clock : Clock) :
    Except RunLimitError (Unit × FactSet × Clock) → Prop where
  /-- All of them have been found and fit. -/
  | done {fresh : FactSet} {clock' : Clock} (hfresh : ∀ fact, fact ∈ fresh ↔ fact ∈ new)
      (hfits : Fits limits known fresh) (hclock : clock.readings = none → clock' = clock) :
      Outcome limits known new clock (.ok ((), fresh, clock'))
  /-- Some of them are too many. -/
  | full {excess : FactSet} (hexcess : ∀ fact ∈ excess, fact ∈ new) (hpos : 0 < excess.size)
      (hfull : limits.maxFacts < known.size + excess.size) :
      Outcome limits known new clock (.error .tooManyFacts)
  /-- The time is over. -/
  | late (hclock : clock.readings ≠ none) : Outcome limits known new clock (.error .timeout)

theorem run_add (fact : Fact) :
    (add limits known fact).run (fresh, clock) =
      if fact ∈ known ∨ fact ∈ fresh then .ok ((), fresh, clock)
      else if limits.maxFacts < known.size + (fresh.insert fact).size then .error .tooManyFacts
      else .ok ((), fresh.insert fact, clock) := by
  simp only [add, StateT.run_bind]
  change (if fact ∈ known ∨ fact ∈ fresh then _ else _ : Round Unit).run (fresh, clock) = _
  split
  · rfl
  · split <;> rfl

theorem run_readClock : readClock.run (fresh, clock) =
    clock.read.map fun clock' => ((), fresh, clock') := by
  cases h : clock.read with
  | error fault => simp [readClock, StateT.run_bind, h, Except.map]
  | ok clock' => simp [readClock, StateT.run_bind, h, Except.map]

theorem run_forM_add_cons (first : Fact) (rest : List Fact) :
    ((first :: rest).forM (add limits known)).run (fresh, clock) =
      (add limits known first).run (fresh, clock) >>= fun next =>
        (rest.forM (add limits known)).run next.2 := by
  simp [StateT.run_bind]

theorem run_applyRules_cons (rule : Rule) (rules : List Rule) :
    (applyRules symbols limits known (rule :: rules)).run (fresh, clock) =
      ((rule.apply symbols known.facts).forM (add limits known)).run (fresh, clock) >>=
        fun next => (readClock.run next.2) >>= fun next =>
          (applyRules symbols limits known rules).run next.2 := by
  simp [applyRules, RuleOf.forEachFact_eq_forM, StateT.run_bind]

/-- Adding facts to a round finds those that are not known, as long as they fit. -/
theorem run_forM_add (clock : Clock) (facts : List Fact) (hfits : Fits limits known fresh) :
    (∃ found : FactSet, (facts.forM (add limits known)).run (fresh, clock) =
        .ok ((), found, clock) ∧ Fits limits known found ∧
        ∀ fact, fact ∈ found ↔ fact ∈ fresh ∨ fact ∈ facts ∧ fact ∉ known) ∨
      ∃ excess : FactSet, (facts.forM (add limits known)).run (fresh, clock) =
        .error .tooManyFacts ∧ 0 < excess.size ∧ limits.maxFacts < known.size + excess.size ∧
        ∀ fact ∈ excess, fact ∈ fresh ∨ fact ∈ facts ∧ fact ∉ known := by
  induction facts generalizing fresh with
  | nil => exact .inl ⟨fresh, rfl, hfits, by simp⟩
  | cons first rest ih =>
    rw [run_forM_add_cons, run_add]
    by_cases hold : first ∈ known ∨ first ∈ fresh
    · have hmem (fact : Fact) : fact ∈ fresh ∨ fact ∈ rest ∧ fact ∉ known ↔
          fact ∈ fresh ∨ fact ∈ first :: rest ∧ fact ∉ known := by
        rw [List.mem_cons]
        constructor
        · rintro (h | ⟨h, hnot⟩)
          · exact .inl h
          · exact .inr ⟨.inr h, hnot⟩
        · rintro (h | ⟨rfl | h, hnot⟩)
          · exact .inl h
          · exact .inl (hold.resolve_left hnot)
          · exact .inr ⟨h, hnot⟩
      rw [if_pos hold]
      rcases ih hfits with ⟨found, hrun, hfound, hiff⟩ | ⟨excess, hrun, hpos, hfull, hexcess⟩
      · exact .inl ⟨found, hrun, hfound, fun fact => (hiff fact).trans (hmem fact)⟩
      · exact .inr ⟨excess, hrun, hpos, hfull, fun fact h => (hmem fact).1 (hexcess fact h)⟩
    · obtain ⟨hknown, hfresh⟩ := not_or.1 hold
      have hmem (fact : Fact) : fact ∈ fresh.insert first ∨ fact ∈ rest ∧ fact ∉ known ↔
          fact ∈ fresh ∨ fact ∈ first :: rest ∧ fact ∉ known := by
        rw [List.mem_cons, FactSet.mem_insert]
        constructor
        · rintro ((rfl | h) | ⟨h, hnot⟩)
          · exact .inr ⟨.inl rfl, hknown⟩
          · exact .inl h
          · exact .inr ⟨.inr h, hnot⟩
        · rintro (h | ⟨rfl | h, hnot⟩)
          · exact .inl (.inr h)
          · exact .inl (.inl rfl)
          · exact .inr ⟨h, hnot⟩
      rw [if_neg hold]
      by_cases hfull : limits.maxFacts < known.size + (fresh.insert first).size
      · rw [if_pos hfull]
        refine .inr ⟨fresh.insert first, rfl, ?_, hfull, fun fact h => (hmem fact).1 (.inl h)⟩
        rw [FactSet.size_insert hfresh]
        exact Nat.succ_pos _
      · rw [if_neg hfull]
        rcases ih (.inr (Nat.le_of_not_lt hfull)) with
          ⟨found, hrun, hfound, hiff⟩ | ⟨excess, hrun, hpos, hfull, hexcess⟩
        · exact .inl ⟨found, hrun, hfound, fun fact => (hiff fact).trans (hmem fact)⟩
        · exact .inr ⟨excess, hrun, hpos, hfull, fun fact h => (hmem fact).1 (hexcess fact h)⟩

theorem Outcome.of_read {new : Set Fact} {clock' : Clock}
    {result : Except RunLimitError (Unit × FactSet × Clock)}
    (h : Outcome limits known new clock' result) (hread : clock.read = .ok clock') :
    Outcome limits known new clock result := by
  cases h with
  | done hfresh hfits hclock =>
    refine .done hfresh hfits fun hendless => ?_
    have hsame := Clock.read_eq_ok hread hendless
    rw [hclock (hsame ▸ hendless), hsame]
  | full hexcess hpos hfull => exact .full hexcess hpos hfull
  | late hclock =>
    refine .late fun hendless => hclock ?_
    rw [Clock.read_eq_ok hread hendless, hendless]

/-- A round finds the facts that rules add to the known ones, and those it has found already. -/
theorem outcome_applyRules (symbols : SymbolTable) (clock : Clock) (rules : List Rule)
    (hfits : Fits limits known fresh) :
    Outcome limits known (fresh.toSet ∪ newFacts symbols rules known) clock
      ((applyRules symbols limits known rules).run (fresh, clock)) := by
  induction rules generalizing fresh clock with
  | nil =>
    refine .done (fun fact => ?_) hfits fun _ => rfl
    simp [newFacts]
  | cons rule rules ih =>
    have hnew (found : FactSet)
        (hfound : ∀ fact, fact ∈ found ↔
          fact ∈ fresh ∨ fact ∈ rule.apply symbols known.facts ∧ fact ∉ known) :
        found.toSet ∪ newFacts symbols rules known =
          fresh.toSet ∪ newFacts symbols (rule :: rules) known := by
      ext fact
      simp only [newFacts, Set.mem_union, FactSet.mem_toSet, Set.mem_ofPred_eq, hfound,
        List.exists_mem_cons_iff]
      tauto
    rw [run_applyRules_cons]
    rcases run_forM_add clock (rule.apply symbols known.facts) hfits with
      ⟨found, hrun, hfound, hiff⟩ | ⟨excess, hrun, hpos, hfull, hexcess⟩
    · rw [hrun, ← hnew found hiff]
      change Outcome limits known _ clock (readClock.run (found, clock) >>= _)
      rw [run_readClock]
      cases hclock : clock.read with
      | error fault =>
        obtain ⟨rfl, hlate⟩ := Clock.read_eq_error hclock
        exact .late hlate
      | ok clock' => exact (ih _ hfound).of_read hclock
    · rw [hrun]
      refine .full (fun fact hfact => ?_) hpos hfull
      rcases hexcess fact hfact with h | ⟨h, hnot⟩
      · exact .inl h
      · exact .inr ⟨hnot, rule, List.mem_cons_self, h⟩

/-- A round that starts afresh finds the facts that rules add to the known ones. -/
theorem outcome_applyRules_empty (symbols : SymbolTable) (limits : Limits) (known : FactSet)
    (clock : Clock) (rules : List Rule) :
    Outcome limits known (newFacts symbols rules known) clock
      ((applyRules symbols limits known rules).run (.empty, clock)) := by
  have h := outcome_applyRules symbols clock rules (.inl rfl : Fits limits known .empty)
  have hempty : FactSet.empty.toSet = ∅ := by
    ext fact
    simp
  rwa [hempty, Set.empty_union] at h

end Round

/-- How a run goes on from some facts when `rounds` rounds more may add something. -/
inductive SaturateStep (symbols : SymbolTable) (limits : Limits) (rules : List Rule)
    (rounds : Nat) (facts : FactSet) (clock : Clock) : Run → Prop where
  /-- What is to be added is too much, and is lost. -/
  | full {excess : FactSet} (hexcess : ∀ fact ∈ excess, fact ∈ newFacts symbols rules facts)
      (hpos : 0 < excess.size) (hfull : limits.maxFacts < facts.size + excess.size) :
      SaturateStep symbols limits rules rounds facts clock ⟨facts, .error .tooManyFacts⟩
  /-- The time is over before the round is. -/
  | late (hclock : clock.readings ≠ none) :
      SaturateStep symbols limits rules rounds facts clock ⟨facts, .error .timeout⟩
  /-- There is nothing to be added. -/
  | settled {clock' : Clock} (hnew : ∀ fact, fact ∉ newFacts symbols rules facts)
      (hclock : clock.readings = none → clock' = clock) :
      SaturateStep symbols limits rules rounds facts clock ⟨facts, .ok clock'⟩
  /-- Something has been added, and either the run goes on or it ends by a limit. -/
  | grown {fresh : FactSet} {run : Run}
      (hfresh : ∀ fact, fact ∈ fresh ↔ fact ∈ newFacts symbols rules facts)
      (hpos : 0 < fresh.size) (hroom : facts.size + fresh.size ≤ limits.maxFacts)
      (hrun : (rounds = 0 ∧ run = ⟨facts.union fresh, .error .tooManyIterations⟩) ∨
        (clock.readings ≠ none ∧ run = ⟨facts.union fresh, .error .timeout⟩) ∨
        ∃ clock' : Clock, rounds ≠ 0 ∧ (clock.readings = none → clock' = clock) ∧
          run = saturate symbols limits rules rounds (facts.union fresh) clock') :
      SaturateStep symbols limits rules rounds facts clock run

theorem saturateStep_saturate (symbols : SymbolTable) (limits : Limits) (rules : List Rule)
    (rounds : Nat) (facts : FactSet) (clock : Clock) :
    SaturateStep symbols limits rules rounds facts clock
      (saturate symbols limits rules (rounds + 1) facts clock) := by
  rw [saturate]
  have h := Round.outcome_applyRules_empty symbols limits facts clock rules
  generalize (Round.applyRules symbols limits facts rules).run (.empty, clock) = result at h
  cases h with
  | full hexcess hpos hfull => exact .full hexcess hpos hfull
  | late hclock => exact .late hclock
  | @done fresh clock' hfresh hfits hclock =>
    dsimp only
    by_cases hempty : fresh.size = 0
    · rw [if_pos hempty]
      refine .settled (fun fact hfact => ?_) hclock
      exact FactSet.size_eq_zero_iff.1 hempty fact ((hfresh fact).2 hfact)
    · rw [if_neg hempty]
      refine .grown hfresh (Nat.pos_of_ne_zero hempty) (hfits.resolve_left hempty) ?_
      by_cases hrounds : rounds = 0
      · rw [if_pos hrounds]
        exact .inl ⟨hrounds, rfl⟩
      · rw [if_neg hrounds]
        cases hread : clock'.read with
        | error fault =>
          obtain ⟨rfl, hlate⟩ := Clock.read_eq_error hread
          refine .inr (.inl ⟨fun hendless => hlate ?_, rfl⟩)
          rw [hclock hendless, hendless]
        | ok next =>
          refine .inr (.inr ⟨next, hrounds, fun hendless => ?_, rfl⟩)
          have hsame := hclock hendless
          rw [Clock.read_eq_ok hread (hsame ▸ hendless), hsame]

/-- Where the clock never stops, a round adds all new facts that there are, and the run ends where
    there are none, or too many, or no round is left. -/
theorem exists_saturate_succ (symbols : SymbolTable) (limits : Limits) (rules : List Rule)
    (rounds : Nat) (facts : FactSet) {clock : Clock} (hclock : clock.readings = none) :
    ∃ fresh : FactSet, fresh.toSet = newFacts symbols rules facts ∧
      saturate symbols limits rules (rounds + 1) facts clock =
        if fresh.size = 0 then ⟨facts, .ok clock⟩
        else if limits.maxFacts < facts.size + fresh.size then ⟨facts, .error .tooManyFacts⟩
        else if rounds = 0 then ⟨facts.union fresh, .error .tooManyIterations⟩
        else saturate symbols limits rules rounds (facts.union fresh) clock := by
  have hstep := saturateStep_saturate symbols limits rules rounds facts clock
  generalize saturate symbols limits rules (rounds + 1) facts clock = run at hstep
  obtain ⟨all, hfresh⟩ := exists_newFacts symbols rules facts
  cases hstep with
  | @full excess hexcess hpos hfull =>
    have hle : excess.size ≤ all.size :=
      FactSet.size_le_of_image (f := id) (fun _ _ _ _ hsame => hsame) fun fact hfact =>
        hfresh.ge (hexcess fact hfact)
    exact ⟨all, hfresh, by rw [if_neg (by omega), if_pos (by omega)]⟩
  | late hlate => exact absurd hclock hlate
  | settled hnew hsame =>
    have hempty : all.size = 0 := FactSet.size_eq_zero_iff.2 fun fact hfact =>
      hnew fact (hfresh.le hfact)
    exact ⟨all, hfresh, by rw [if_pos hempty, hsame hclock]⟩
  | @grown fresh _ hfresh hpos hroom hrun =>
    refine ⟨fresh, Set.ext hfresh, ?_⟩
    rw [if_neg (by omega), if_neg (by omega)]
    rcases hrun with ⟨hzero, rfl⟩ | ⟨hlate, _⟩ | ⟨next, hrounds, hkept, rfl⟩
    · rw [if_pos hzero]
    · exact absurd hclock hlate
    · rw [if_neg hrounds, hkept hclock]

/-- A clock that never stops is as before after a run. -/
theorem clock_of_saturate_ok {symbols : SymbolTable} {limits : Limits} {rules : List Rule}
    {rounds : Nat} {facts : FactSet} {clock last : Clock} (hclock : clock.readings = none)
    (h : (saturate symbols limits rules rounds facts clock).outcome = .ok last) : last = clock := by
  induction rounds generalizing facts with
  | zero => cases h
  | succ rounds ih =>
    obtain ⟨fresh, _, hrun⟩ := exists_saturate_succ symbols limits rules rounds facts hclock
    rw [hrun] at h
    split at h
    · cases h
      rfl
    split at h
    · cases h
    split at h
    · cases h
    · exact ih h

section

variable {symbols : SymbolTable} {limits : Limits} {rules : List Rule} {facts : FactSet}
  {clock : Clock}

/-- A run keeps every fact, and finds none outside a closed set that has those it starts with. -/
theorem saturate_between (limits : Limits) (clock : Clock) {closed : Set Fact}
    (hfacts : facts.toSet ⊆ closed) (hclosed : ClosedUnder symbols rules closed) (rounds : Nat) :
    facts.toSet ⊆ (saturate symbols limits rules rounds facts clock).facts.toSet ∧
      (saturate symbols limits rules rounds facts clock).facts.toSet ⊆ closed := by
  induction rounds generalizing facts clock with
  | zero => exact ⟨subset_rfl, hfacts⟩
  | succ rounds ih =>
    have h := saturateStep_saturate symbols limits rules rounds facts clock
    generalize saturate symbols limits rules (rounds + 1) facts clock = run at h
    cases h with
    | full _ _ _ => exact ⟨subset_rfl, hfacts⟩
    | late _ => exact ⟨subset_rfl, hfacts⟩
    | settled _ _ => exact ⟨subset_rfl, hfacts⟩
    | @grown fresh _ hfresh _ _ hrun =>
      have hgrown : facts.toSet ⊆ (facts.union fresh).toSet := by
        rw [FactSet.toSet_union]
        exact Set.subset_union_left
      have hinside : (facts.union fresh).toSet ⊆ closed := by
        rw [FactSet.toSet_union]
        exact Set.union_subset hfacts fun fact hfact =>
          newFacts_subset hfacts hclosed ((hfresh fact).1 hfact)
      rcases hrun with ⟨_, rfl⟩ | ⟨_, rfl⟩ | ⟨clock', _, _, rfl⟩
      · exact ⟨hgrown, hinside⟩
      · exact ⟨hgrown, hinside⟩
      · obtain ⟨hkept, hbelow⟩ := ih clock' hinside
        exact ⟨hgrown.trans hkept, hbelow⟩

/-- A run that ends by itself leaves a closed set. -/
theorem closedUnder_of_saturate_ok {rounds : Nat} {clock' : Clock}
    (h : (saturate symbols limits rules rounds facts clock).outcome = .ok clock') :
    ClosedUnder symbols rules (saturate symbols limits rules rounds facts clock).facts.toSet := by
  induction rounds generalizing facts clock with
  | zero => cases h
  | succ rounds ih =>
    have hstep := saturateStep_saturate symbols limits rules rounds facts clock
    generalize saturate symbols limits rules (rounds + 1) facts clock = run at h hstep
    cases hstep with
    | full _ _ _ => cases h
    | late _ => cases h
    | settled hnew _ => exact closedUnder_of_newFacts_empty hnew
    | grown _ _ _ hrun =>
      rcases hrun with ⟨_, rfl⟩ | ⟨_, rfl⟩ | ⟨_, _, _, rfl⟩
      · cases h
      · cases h
      · exact ih h

/-- A run that ends by itself leaves the least closed set with the facts that it starts with. -/
theorem saturate_eq_leastModel {rounds : Nat} {clock' : Clock}
    (h : (saturate symbols limits rules rounds facts clock).outcome = .ok clock') :
    (saturate symbols limits rules rounds facts clock).facts.toSet =
      leastModel symbols rules facts.toSet := by
  have hclosed : ClosedUnder symbols rules (leastModel symbols rules facts.toSet) :=
    closedUnder_leastModel
  obtain ⟨hkept, hbelow⟩ := saturate_between limits clock subset_leastModel hclosed rounds
  exact eq_leastModel hkept (closedUnder_of_saturate_ok h) hbelow

end

end Warrant
