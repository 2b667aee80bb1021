import Warrant.Proofs.Saturation

namespace Warrant

/-- What is done to a world, one step after another. -/
inductive World.Operation where
  | addFact (fact : Fact)
  | addRule (rule : Rule)
  | run (limits : Limits) (clock : Clock)

namespace World

namespace Operation

/-- The world after an operation; a run that fails leaves what it has derived. -/
def perform (symbols : SymbolTable) (world : World) : Operation → World
  | addFact fact => world.addFact fact
  | addRule rule => world.addRule rule
  | run limits clock => (world.run symbols limits clock).1

def fact? : Operation → Option Fact
  | addFact fact => some fact
  | _ => none

def rule? : Operation → Option Rule
  | addRule rule => some rule
  | _ => none

end Operation

def performAll (symbols : SymbolTable) (operations : List Operation) (world : World) : World :=
  operations.foldl (Operation.perform symbols) world

/-- The facts that some operations add; those that their runs derive are not among them. -/
def addedFacts (operations : List Operation) : List Fact := operations.filterMap Operation.fact?

def addedRules (operations : List Operation) : List Rule := operations.filterMap Operation.rule?

/-- A world that has been made from some facts and rules. However far its runs have come, its
    facts lie inside the least set that is closed under the rules. -/
structure MadeFrom (symbols : SymbolTable) (facts : List Fact) (rules : List Rule)
    (world : World) : Prop where
  rules_eq : world.rules = rules
  added : ∀ fact ∈ facts, fact ∈ world.facts
  inside : world.facts.toSet ⊆ leastModel symbols rules {fact | fact ∈ facts}

theorem madeFrom_empty (symbols : SymbolTable) : MadeFrom symbols [] [] .empty := by
  refine ⟨rfl, by simp, fun fact hfact => ?_⟩
  exact absurd hfact (FactSet.not_mem_empty fact)

/-- An operation leaves a world that has been made from what there was and what it adds. -/
theorem MadeFrom.perform {symbols : SymbolTable} {facts : List Fact} {rules : List Rule}
    {world : World} (h : MadeFrom symbols facts rules world) (operation : Operation) :
    MadeFrom symbols (facts ++ operation.fact?.toList) (rules ++ operation.rule?.toList)
      (operation.perform symbols world) := by
  cases operation with
  | addFact fact =>
    have hbase : {other | other ∈ facts} ⊆ {other | other ∈ facts ++ [fact]} :=
      fun other hother => List.mem_append_left [fact] hother
    refine ⟨h.rules_eq.trans (List.append_nil rules).symm, ?_, ?_⟩
    · intro other hother
      rcases List.mem_append.1 hother with hother | hother
      · exact FactSet.mem_insert.2 (.inr (h.added other hother))
      · exact FactSet.mem_insert.2 (.inl (List.mem_singleton.1 hother))
    · intro other hother
      rcases FactSet.mem_insert.1 hother with rfl | hother
      · exact subset_leastModel (List.mem_append_right facts List.mem_cons_self)
      · exact leastModel_mono (List.subset_append_left rules []) hbase (h.inside hother)
  | addRule rule =>
    refine ⟨by simp [Operation.perform, Operation.rule?, addRule, h.rules_eq], ?_, ?_⟩
    · intro fact hfact
      exact h.added fact (by simpa [Operation.fact?] using hfact)
    · refine h.inside.trans (leastModel_mono (List.subset_append_left rules [rule]) ?_)
      exact fun other hother => List.mem_append_left [] hother
  | run limits clock =>
    simp only [Operation.fact?, Operation.rule?, Option.toList_none, List.append_nil]
    obtain ⟨hkept, hbelow⟩ := saturate_between limits clock h.inside
      closedUnder_leastModel (max 1 limits.maxIterations)
    rw [← h.rules_eq] at hkept hbelow ⊢
    exact ⟨rfl, fun fact hfact => hkept (h.added fact hfact), hbelow⟩

theorem madeFrom_performAll (symbols : SymbolTable) (operations : List Operation) :
    MadeFrom symbols (addedFacts operations) (addedRules operations)
      (performAll symbols operations .empty) := by
  suffices h : ∀ (facts : List Fact) (rules : List Rule) (world : World),
      MadeFrom symbols facts rules world →
      MadeFrom symbols (facts ++ addedFacts operations) (rules ++ addedRules operations)
        (performAll symbols operations world) by
    simpa using h [] [] .empty (madeFrom_empty symbols)
  induction operations with
  | nil =>
    intro facts rules world h
    rw [addedFacts, addedRules, List.filterMap_nil, List.filterMap_nil, List.append_nil,
      List.append_nil]
    exact h
  | cons operation operations ih =>
    intro facts rules world h
    have hnext := ih _ _ _ (h.perform operation)
    have hfacts : addedFacts (operation :: operations) =
        operation.fact?.toList ++ addedFacts operations := by
      cases hfact : operation.fact? <;> simp [addedFacts, hfact]
    have hrules : addedRules (operation :: operations) =
        operation.rule?.toList ++ addedRules operations := by
      cases hrule : operation.rule? <;> simp [addedRules, hrule]
    rw [hfacts, hrules, ← List.append_assoc, ← List.append_assoc]
    exact hnext

/-- A run that ends by itself makes the least set, wherever it starts inside. -/
theorem MadeFrom.run_ok {symbols : SymbolTable} {facts : List Fact} {rules : List Rule}
    {world : World} (h : MadeFrom symbols facts rules world) {limits : Limits}
    {clock clock' : Clock} (hrun : (world.run symbols limits clock).2 = .ok clock') :
    (world.run symbols limits clock).1.facts.toSet =
      leastModel symbols rules {fact | fact ∈ facts} := by
  have hmade := h.perform (.run limits clock)
  have hclosed : ClosedUnder symbols rules (world.run symbols limits clock).1.facts.toSet := by
    rw [← h.rules_eq]
    exact closedUnder_of_saturate_ok hrun
  simp only [Operation.fact?, Operation.rule?, Option.toList_none, List.append_nil] at hmade
  exact eq_leastModel hmade.added hclosed hmade.inside

/-- Rules under which the facts are closed add nothing to them in a run, whatever its limits. -/
theorem run_of_closed {symbols : SymbolTable} (world : World)
    (h : ClosedUnder symbols world.rules world.facts.toSet) (limits : Limits) (clock : Clock) :
    (world.run symbols limits clock).1 = world := by
  have hnone (fact : Fact) : fact ∉ newFacts symbols world.rules world.facts :=
    fun hnew => hnew.1 (newFacts_subset subset_rfl h hnew)
  obtain ⟨rounds, hrounds⟩ : ∃ rounds, max 1 limits.maxIterations = rounds + 1 :=
    ⟨max 1 limits.maxIterations - 1, by omega⟩
  have hstep := saturateStep_saturate symbols limits world.rules rounds world.facts clock
  suffices hfacts : (saturate symbols limits world.rules (rounds + 1) world.facts clock).facts =
      world.facts by
    change (⟨(saturate symbols limits world.rules (max 1 limits.maxIterations) world.facts
      clock).facts, world.rules⟩ : World) = world
    rw [hrounds, hfacts]
  generalize saturate symbols limits world.rules (rounds + 1) world.facts clock = result at hstep
  cases hstep with
  | full hexcess hpos _ =>
    obtain ⟨fact, hfact⟩ := FactSet.exists_mem_of_size_pos hpos
    exact absurd (hexcess fact hfact) (hnone fact)
  | late _ => rfl
  | settled _ _ => rfl
  | grown hfresh hpos _ _ =>
    obtain ⟨fact, hfact⟩ := FactSet.exists_mem_of_size_pos hpos
    exact absurd ((hfresh fact).1 hfact) (hnone fact)

/-- Whatever facts and rules a world has been given, in whatever order, and whatever runs came
    between, a run that ends by itself leaves the least fact set that has the facts and that
    applying the rules does not enlarge. So the order does not matter, and no further run with
    some of the rules changes anything. -/
theorem run_performAll_isLeast (symbols : SymbolTable) (operations : List Operation)
    (limits : Limits) (clock clock' : Clock)
    (hrun : ((performAll symbols operations .empty).run symbols limits clock).2 = .ok clock') :
    let world := ((performAll symbols operations .empty).run symbols limits clock).1
    (∀ fact ∈ addedFacts operations, fact ∈ world.facts) ∧
      (∀ rule ∈ addedRules operations, ∀ fact ∈ rule.apply symbols world.facts.facts,
        fact ∈ world.facts) ∧
      (∀ others : FactSet, (∀ fact ∈ addedFacts operations, fact ∈ others) →
        (∀ rule ∈ addedRules operations, ∀ fact ∈ rule.apply symbols others.facts,
          fact ∈ others) →
        ∀ fact ∈ world.facts, fact ∈ others) ∧
      (∀ (operations' : List Operation) (limits' : Limits) (start end' : Clock),
        (∀ fact, fact ∈ addedFacts operations' ↔ fact ∈ addedFacts operations) →
        (∀ rule, rule ∈ addedRules operations' ↔ rule ∈ addedRules operations) →
        ((performAll symbols operations' .empty).run symbols limits' start).2 = .ok end' →
        ∀ fact, fact ∈ ((performAll symbols operations' .empty).run symbols limits' start).1.facts ↔
          fact ∈ world.facts) ∧
      ∀ rules ⊆ addedRules operations, ∀ (limits' : Limits) (start : Clock),
        (World.run ⟨world.facts, rules⟩ symbols limits' start).1 = ⟨world.facts, rules⟩ := by
  intro world
  have hworld : world.facts.toSet =
      leastModel symbols (addedRules operations) {fact | fact ∈ addedFacts operations} :=
    (madeFrom_performAll symbols operations).run_ok hrun
  have hclosed : ClosedUnder symbols (addedRules operations) world.facts.toSet := by
    rw [hworld]
    exact closedUnder_leastModel
  refine ⟨?_, ?_, ?_, ?_, ?_⟩
  · intro fact hfact
    rw [← FactSet.mem_toSet, hworld]
    exact subset_leastModel hfact
  · exact fun rule hrule fact hfact => hclosed rule hrule fact (RuleOf.yields_list_iff.2 hfact)
  · intro others hothers happly fact hfact
    have hle : world.facts.toSet ⊆ others.toSet := by
      rw [hworld]
      refine leastModel_subset hothers fun rule hrule other hother => ?_
      exact happly rule hrule other (RuleOf.yields_list_iff.1 hother)
    exact hle hfact
  · intro operations' limits' start end' hfacts hrules hrun'
    have hother := (madeFrom_performAll symbols operations').run_ok hrun'
    have hsame : leastModel symbols (addedRules operations')
        {fact | fact ∈ addedFacts operations'} = world.facts.toSet := by
      rw [hworld]
      apply Set.Subset.antisymm
      · exact leastModel_mono (fun rule => (hrules rule).1) fun fact => (hfacts fact).1
      · exact leastModel_mono (fun rule => (hrules rule).2) fun fact => (hfacts fact).2
    intro fact
    rw [← FactSet.mem_toSet, hother, hsame, FactSet.mem_toSet]
  · intro rules hrules limits' start
    exact run_of_closed ⟨world.facts, rules⟩ (hclosed.of_subset hrules) limits' start

/-- Edges between numbers, and rules for the paths along them, the second one recursive. A first
    run is cut short, and an edge comes after it. -/
def pathOperations : List Operation :=
  let edge (i j : Int64) : Fact := ⟨0, [.integer i, .integer j]⟩
  [.addFact (edge 1 2), .addFact (edge 2 3),
    .addRule ⟨⟨1, [.var 0, .var 1]⟩, [⟨0, [.var 0, .var 1]⟩], []⟩,
    .addRule ⟨⟨1, [.var 0, .var 2]⟩, [⟨1, [.var 0, .var 1]⟩, ⟨0, [.var 1, .var 2]⟩], []⟩,
    .run { maxIterations := 1 } ⟨none⟩, .addFact (edge 3 4)]

theorem run_pathOperations_isLeast :
    ((performAll .empty pathOperations .empty).run .empty {} ⟨none⟩).2 = .ok ⟨none⟩ ∧
      ∀ others : FactSet, (∀ fact ∈ addedFacts pathOperations, fact ∈ others) →
        (∀ rule ∈ addedRules pathOperations, ∀ fact ∈ rule.apply .empty others.facts,
          fact ∈ others) →
        (⟨1, [.integer 1, .integer 4]⟩ : Fact) ∈ others := by
  have hrun : ((performAll .empty pathOperations .empty).run .empty {} ⟨none⟩).2 = .ok ⟨none⟩ := by
    decide
  obtain ⟨_, _, hleast, _⟩ := run_performAll_isLeast .empty pathOperations {} ⟨none⟩ ⟨none⟩ hrun
  exact ⟨hrun, fun others hothers happly => hleast others hothers happly _ (by decide)⟩

end World

end Warrant
