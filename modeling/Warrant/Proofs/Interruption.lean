import Warrant.Proofs.Operations
import Warrant.Proofs.Stopping

namespace Warrant.Verifier

/-- A query that a limit stops leaves what the run of the rules has come to. -/
theorem run_of_queryUntil_eq_error {v : Verifier} (hrules : v.world.rules = [])
    {rule : Source.Rule} {limits : Limits} {clock : Clock} {cause : RunLimitError}
    (h : (v.queryUntil rule limits clock).2 = .error (.runLimit cause)) :
    let after := (v.queryUntil rule limits clock).1
    let run := World.run ⟨v.world.facts, v.rules⟩ after.symbols limits clock
    after.world = ⟨run.1.facts, []⟩ ∧ run.2 = .error cause := by
  rw [queryUntil_fst]
  rw [queryUntil] at h
  generalize (RuleOf.intern rule).run v.symbols = interned at h ⊢
  obtain ⟨rule, symbols⟩ := interned
  dsimp only [World.run] at h ⊢
  rw [hrules, List.nil_append] at h ⊢
  split at h
  next cause' houtcome =>
    cases h
    exact ⟨rfl, houtcome⟩
  next => cases h

/-- A query that a limit stops leaves no rule behind, but all that the rounds before have derived:
    the facts are those after the last round that has been completed. So they are as before the
    query exactly if no round has been. -/
theorem queryUntil_stopsAfter (v : Verifier) (rule : Source.Rule) (limits : Limits) (clock : Clock)
    (hrules : v.world.rules = []) {cause : RunLimitError}
    (hlimit : (v.queryUntil rule limits clock).2 = .error (.runLimit cause)) :
    let after := (v.queryUntil rule limits clock).1
    let facts := afterRounds after.symbols v.rules v.world.facts.toSet
    after.world.rules = [] ∧
      ∃ rounds, ComesThrough facts limits rounds ∧
        StopsAfter facts limits rounds clock (.error cause) ∧
        after.world.facts.toSet = facts rounds ∧
        (after.world.facts.toSet = v.world.facts.toSet ↔ rounds = 0) := by
  intro after facts
  obtain ⟨hworld, houtcome⟩ := run_of_queryUntil_eq_error hrules hlimit
  obtain ⟨rounds, hcomes, hstops, hfacts⟩ :=
    World.exists_stop_of_run ⟨v.world.facts, v.rules⟩ after.symbols limits clock
  have hafter : after.world.facts.toSet = facts rounds := by
    rw [hworld]
    exact hfacts
  refine ⟨by rw [hworld], rounds, hcomes, houtcome ▸ hstops, hafter, ?_⟩
  rw [hafter]
  exact hcomes.eq_iff

/-- Two rules, of which the second one applies to what the first one derives. -/
def chainVerifier : Verifier where
  world := ⟨.ofList [⟨7, [.integer 1]⟩], []⟩
  symbols := .ofList (SymbolTable.standard.names ++ ["a", "b", "c", "x"])
  rules := [⟨⟨8, [.var 10]⟩, [⟨7, [.var 10]⟩], []⟩, ⟨⟨9, [.var 10]⟩, [⟨8, [.var 10]⟩], []⟩]
  checks := []
  policies := []
  token := none

/-- What the rule of the last predicate derives. -/
def chainQuery : Source.Rule := ⟨⟨"q", [.var "x"]⟩, [⟨"c", [.var "x"]⟩], []⟩

theorem chainVerifier_queryUntil_stopsAfter :
    (chainVerifier.queryUntil chainQuery { maxFacts := 2 } ⟨none⟩).2 =
        .error (.runLimit .tooManyFacts) ∧
      (chainVerifier.queryUntil chainQuery { maxFacts := 2 } ⟨none⟩).1.world.rules = [] ∧
      ∃ rounds ≠ 0,
        (chainVerifier.queryUntil chainQuery { maxFacts := 2 } ⟨none⟩).1.world.facts.toSet =
          afterRounds (chainVerifier.queryUntil chainQuery { maxFacts := 2 } ⟨none⟩).1.symbols
            chainVerifier.rules chainVerifier.world.facts.toSet rounds := by
  have hlimit : (chainVerifier.queryUntil chainQuery { maxFacts := 2 } ⟨none⟩).2 =
      .error (.runLimit .tooManyFacts) := by decide
  have hderived : (⟨8, [.integer 1]⟩ : Fact) ∈
      (chainVerifier.queryUntil chainQuery { maxFacts := 2 } ⟨none⟩).1.world.facts := by decide
  have hgiven : (⟨8, [.integer 1]⟩ : Fact) ∉ chainVerifier.world.facts := by decide
  obtain ⟨hnone, rounds, _, _, hfacts, hsame⟩ :=
    chainVerifier.queryUntil_stopsAfter chainQuery { maxFacts := 2 } ⟨none⟩ rfl hlimit
  exact ⟨hlimit, hnone, rounds, fun hzero => hgiven ((hsame.2 hzero).le hderived), hfacts⟩

/-- A query that may run for one round only, and leaves what this round has derived. -/
theorem chainVerifier_query_leaves_derived :
    chainVerifier.world.rules = [] ∧
      (chainVerifier.query chainQuery { maxIterations := 1 }).2 =
        .error (.runLimit .tooManyIterations) ∧
      (⟨8, [.integer 1]⟩ : Fact) ∈
        (chainVerifier.query chainQuery { maxIterations := 1 }).1.world.facts ∧
      (⟨8, [.integer 1]⟩ : Fact) ∉ chainVerifier.world.facts := by
  decide

end Warrant.Verifier
