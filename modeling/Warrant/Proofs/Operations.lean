import Warrant.Proofs.Execution
import Warrant.Proofs.Loops
import Warrant.Verification

namespace Warrant.Verifier

variable {scheme : Scheme}

theorem addToken_of_execute {v : Verifier} {token : Token scheme} {loaded : LoadedToken}
    {symbols : SymbolTable} (htoken : v.token = none)
    (h : execute (Renumbering.token token) v.symbols = (.ok loaded, symbols)) :
    v.addToken token = ({ v with symbols := symbols, token := some loaded }, .ok ()) := by
  change (Renumbering.token token).run.run v.symbols = (.ok loaded, symbols) at h
  simp [addToken, htoken, h]

theorem addToken_of_execute_error {v : Verifier} {token : Token scheme} {e : Error}
    {symbols : SymbolTable} (htoken : v.token = none)
    (h : execute (Renumbering.token token) v.symbols = (.error e, symbols)) :
    v.addToken token = ({ v with symbols := symbols }, .error e) := by
  change (Renumbering.token token).run.run v.symbols = (.error e, symbols) at h
  simp [addToken, htoken, h]

theorem exists_of_addToken {v : Verifier} {token : Token scheme}
    (h : (v.addToken token).2 = .ok ()) :
    v.token = none ∧ ∃ loaded symbols,
      execute (Renumbering.token token) v.symbols = (.ok loaded, symbols) := by
  cases htoken : v.token with
  | some _ => simp [addToken, htoken] at h
  | none =>
    refine ⟨rfl, ?_⟩
    rcases hrun : (Renumbering.token token).run.run v.symbols with ⟨_ | loaded, symbols⟩
    · simp [addToken, htoken, hrun] at h
    · exact ⟨loaded, symbols, hrun⟩

theorem addToken_world (v : Verifier) (token : Token scheme) :
    (v.addToken token).1.world = v.world := by
  rw [addToken]
  split
  · rfl
  · split
    · rfl
    · rfl

/-- The verifier with a fact in its world, unless the fact has variables. -/
def withGround (v : Verifier) (fact : Fact) : Verifier :=
  { v with world := if fact.isGround then v.world.addFact fact else v.world }

theorem push_fact_fst (fact : Source.Fact) (v : Verifier) :
    (v.push (.fact fact)).1 =
      { v.withGround ((PredicateOf.intern fact).run v.symbols).1 with
        symbols := ((PredicateOf.intern fact).run v.symbols).2 } := by
  change (v.addFact fact).1 = _
  rw [addFact]
  generalize (PredicateOf.intern fact).run v.symbols = result
  obtain ⟨numbered, symbols⟩ := result
  dsimp only [withGround]
  cases numbered.isGround <;> rfl

/-- A query leaves what a run of the rules has come to, and none of the rules. -/
theorem queryUntil_fst (v : Verifier) (rule : Source.Rule) (limits : Limits) (clock : Clock) :
    (v.queryUntil rule limits clock).1 =
      let symbols := ((RuleOf.intern rule).run v.symbols).2
      let run := saturate symbols limits (v.world.rules ++ v.rules) (max 1 limits.maxIterations)
        v.world.facts clock
      { v with symbols := symbols, world := ⟨run.facts, []⟩ } := by
  rw [queryUntil]
  generalize (RuleOf.intern rule).run v.symbols = interned
  obtain ⟨rule, symbols⟩ := interned
  dsimp only [World.run]
  split
  · rfl
  · rfl

end Warrant.Verifier
