import Mathlib.Data.List.Find
import Warrant.Proofs.Mirror
import Warrant.Proofs.Stages

namespace Warrant.Verification

open Classical

theorem failing_eq_nil_iff {symbols : SymbolTable} {known : Set Fact} {block : Option Nat}
    {checks : List Check} :
    failing symbols known block checks = [] ↔
      ∀ check ∈ checks, Passes symbols known check.queries := by
  rw [failing, List.filterMap_eq_nil_iff]
  constructor
  · intro h check hcheck
    obtain ⟨index, hindex⟩ := List.getElem?_of_mem hcheck
    have hnone := h (check, index) (List.mk_mem_zipIdx_iff_getElem?.2 hindex)
    by_contra hfails
    simp [hfails] at hnone
  · rintro h ⟨check, index⟩ hmem
    simp [h check (List.mem_of_getElem? (List.mk_mem_zipIdx_iff_getElem?.1 hmem))]

/-- Where the clock never stops, what is observed is found. -/
theorem Observes.of_endless {α : Type} {p : Progress} {a : α} {result : Except Error α × Progress}
    (h : Observes p a result) (hclock : p.clock.readings = none) : result = (.ok a, p) := by
  cases h with
  | found hsame => rw [hsame hclock]
  | late hlate => exact absurd hclock hlate

/-- A value that has been found is the observed one. -/
theorem Observes.eq_ok {α : Type} {p q : Progress} {a b : α} (h : Observes p a (.ok b, q)) :
    b = a ∧ ∃ clock, q = { p with clock := clock } := by
  cases h with
  | found _ => exact ⟨rfl, _, rfl⟩

theorem outcome_eq_ok {failed : List FailedCheck} {decided : Option (Nat × PolicyKind)}
    {policy : Nat} (h : outcome failed decided = .ok policy) :
    failed = [] ∧ decided = some (policy, .allow) := by
  rcases failed with _ | ⟨first, rest⟩
  · rcases decided with _ | ⟨policy', _ | _⟩
    · cases h
    · cases h
      exact ⟨rfl, rfl⟩
    · cases h
  · cases h

/-- Two verifications that have come to the same point, the first with an endless clock, where
    the second differs only in symbols and revocation facts that no rule and no query knows of. -/
structure InStep (base left right : SymbolTable) (r r' : UInt64) (p p' : Progress) : Prop where
  leftSymbols : p.symbols = left
  rightSymbols : p'.symbols = right
  clock : p.clock.readings = none
  leftRules : p.world.rules = []
  rightRules : p'.world.rules = []
  mirrors : Mirrors base r r' (known p) (known p')

variable {base left right : SymbolTable} {r r' : UInt64} (hfork : Fork base left right r r')

include hfork in
theorem passes_iff {facts facts' : Set Fact}
    (h : Mirrors base r r' facts facts') {queries : List Rule}
    (hqueries : ∀ query ∈ queries, QueryOver base query) :
    Passes left facts queries ↔ Passes right facts' queries := by
  constructor
  · rintro ⟨query, hquery, hmatches⟩
    exact ⟨query, hquery, (h.matches_iff hfork (hqueries query hquery)).1 hmatches⟩
  · rintro ⟨query, hquery, hmatches⟩
    exact ⟨query, hquery, (h.matches_iff hfork (hqueries query hquery)).2 hmatches⟩

namespace InStep

variable {p p' : Progress} (h : InStep base left right r r' p p')

theorem of_clock (h : InStep base left right r r' p p') (clock : Clock) :
    InStep base left right r r' p { p' with clock := clock } :=
  ⟨h.leftSymbols, h.rightSymbols, h.clock, h.leftRules, h.rightRules, h.mirrors⟩

include hfork h

/-- Checks that all pass in the second verification all pass in the first. -/
theorem failedChecks {checks : List Check}
    (hchecks : ∀ check ∈ checks, ∀ query ∈ check.queries, QueryOver base query)
    {block : Option Nat} {q' : Progress}
    (hrun : execute (Verification.failedChecks block 0 checks) p' = (.ok [], q')) :
    execute (Verification.failedChecks block 0 checks) p = (.ok [], p) ∧
      InStep base left right r r' p q' := by
  have hright := observes_failing p' block checks
  rw [hrun] at hright
  obtain ⟨hpass, clock, rfl⟩ := hright.eq_ok
  have hnone : failing p.symbols (known p) block checks = [] := by
    rw [failing_eq_nil_iff]
    intro check hcheck
    have hpasses := failing_eq_nil_iff.1 hpass.symm check hcheck
    rw [h.rightSymbols] at hpasses
    rw [h.leftSymbols]
    exact (passes_iff hfork h.mirrors (hchecks check hcheck)).2 hpasses
  have hleft := (observes_failing p block checks).of_endless h.clock
  rw [hnone] at hleft
  exact ⟨hleft, h.of_clock clock⟩

/-- Both verifications find the same policy. -/
theorem decision {policies : List Policy}
    (hpolicies : ∀ policy ∈ policies, ∀ query ∈ policy.queries, QueryOver base query)
    {decided : Option (Nat × PolicyKind)} {q' : Progress}
    (hrun : execute (Verification.decision 0 policies) p' = (.ok decided, q')) :
    execute (Verification.decision 0 policies) p = (.ok decided, p) ∧
      InStep base left right r r' p q' := by
  have hright := observes_firstPolicy p' policies
  rw [hrun] at hright
  obtain ⟨rfl, clock, rfl⟩ := hright.eq_ok
  have hsame : firstPolicy p.symbols (known p) policies =
      firstPolicy p'.symbols (known p') policies := by
    rw [firstPolicy, firstPolicy, List.find?_congr]
    rintro ⟨policy, index⟩ hmem
    have hpolicy := List.mem_of_getElem? (List.mk_mem_zipIdx_iff_getElem?.1 hmem)
    rw [h.leftSymbols, h.rightSymbols, decide_eq_decide]
    exact passes_iff hfork h.mirrors (hpolicies policy hpolicy)
  rw [← hsame]
  exact ⟨(observes_firstPolicy p policies).of_endless h.clock, h.of_clock clock⟩

/-- Where the second verification derives facts within the limits, the first does. -/
theorem derive {limits : Limits} {rules : List Rule} (hrules : ∀ rule ∈ rules, RuleOver base rule)
    {world' : World} {q' : Progress}
    (hrun : execute (Verification.derive limits rules) p' = (.ok world', q')) :
    ∃ world, execute (Verification.derive limits rules) p = (.ok world, p) ∧
      InStep base left right r r' { p with world := world } { q' with world := world' } := by
  cases houtcome : (derivation limits rules p').outcome with
  | error cause =>
    rw [execute_derive_error h.rightRules houtcome] at hrun
    cases hrun
  | ok last =>
    rw [execute_derive_ok h.rightRules houtcome] at hrun
    cases hrun
    obtain ⟨hleft, hmirrors⟩ : (derivation limits rules p).outcome = .ok p.clock ∧
        Mirrors base r r' (derivation limits rules p).facts.toSet
          (derivation limits rules p').facts.toSet := by
      rw [derivation, derivation, h.rightSymbols] at *
      rw [h.leftSymbols]
      exact h.mirrors.saturate hfork hrules _ h.clock houtcome
    refine ⟨_, execute_derive_ok h.leftRules hleft, ?_⟩
    exact ⟨h.leftSymbols, h.rightSymbols, h.clock, rfl, rfl, hmirrors⟩

theorem addFacts {facts : List Fact} (hfacts : ∀ fact ∈ facts, FactOver base fact) :
    InStep base left right r r' { p with world := facts.foldl World.addFact p.world }
      { p' with world := facts.foldl World.addFact p'.world } where
  leftSymbols := h.leftSymbols
  rightSymbols := h.rightSymbols
  clock := h.clock
  leftRules := (rules_foldl_addFact facts p.world).trans h.leftRules
  rightRules := (rules_foldl_addFact facts p'.world).trans h.rightRules
  mirrors := by
    rw [known, known, toSet_foldl_addFact, toSet_foldl_addFact]
    exact h.mirrors.union hfork hfacts

end InStep

/-- Whether a block has a fault as it is written does not depend on the symbols. -/
theorem blockFault_eq_none_of {tags : Tags} {symbols symbols' : SymbolTable} {number : Nat}
    {block : Block} (h : blockFault tags symbols' number block = none) :
    blockFault tags symbols number block = none := by
  rw [blockFault] at h ⊢
  cases hfact : block.facts.find? tags.mark with
  | some fact =>
    rw [hfact] at h
    cases h
  | none =>
    rw [hfact] at h
    rw [Option.map_eq_none_iff] at h ⊢
    exact h

include hfork in
/-- Where no rule tags in the second world, none tags in the first. -/
theorem taggingRule?_eq_none_of {world world' : World}
    (h : Mirrors base r r' world.facts.toSet world'.facts.toSet) {rules : List Rule}
    (hrules : ∀ rule ∈ rules, RuleOver base rule) {tags : Tags}
    (hnone : taggingRule? tags right world' rules = none) :
    taggingRule? tags left world rules = none := by
  rw [taggingRule?, List.find?_eq_none] at hnone ⊢
  intro rule hrule htags
  refine hnone rule hrule ?_
  rw [Bool.and_eq_true, List.any_eq_true] at htags ⊢
  obtain ⟨hvariable, fact, hfact, hmark⟩ := htags
  refine ⟨hvariable, fact, ?_, hmark⟩
  have hyields : rule.Yields left world.facts.toSet fact := RuleOf.yields_list_iff.2 hfact
  exact RuleOf.yields_list_iff.1 ((h.yields_iff hfork (hrules rule hrule)).1 hyields)

namespace InStep

variable {p p' : Progress} (h : InStep base left right r r' p p')
include hfork h

/-- A block that the second verification takes in with all checks passing is taken in so by the
    first. -/
theorem addBlock {tags : Tags} {limits : Limits} {number : Nat} {block : Block}
    (hblock : block.Over (fun _ => True) (base.Has fun _ => True)
      (base.Has (· ≠ "revocation_id")))
    {q' : Progress}
    (hrun : execute (Verification.addBlock tags limits number block) p' = (.ok [], q')) :
    ∃ q, execute (Verification.addBlock tags limits number block) p = (.ok [], q) ∧
      InStep base left right r r' q q' := by
  rw [Verification.addBlock, execute_bind_ok (execute_get p')] at hrun
  rw [Verification.addBlock, execute_bind_ok (execute_get p)]
  dsimp only at hrun ⊢
  cases hfault : blockFault tags p'.symbols number block with
  | some fault =>
    rw [hfault] at hrun
    cases hrun
  | none =>
    rw [hfault] at hrun
    rw [blockFault_eq_none_of hfault]
    dsimp only at hrun ⊢
    rw [execute_bind_ok (execute_addFacts _ _)] at hrun ⊢
    have hadded := h.addFacts hfork hblock.facts
    obtain ⟨world', s', hderive', hrun⟩ := exists_of_execute_bind hrun
    obtain ⟨world, hderive, hderived⟩ := hadded.derive hfork hblock.rules hderive'
    rw [execute_bind_ok hderive]
    cases htagging : taggingRule? tags p'.symbols world' block.rules with
    | some rule =>
      rw [htagging] at hrun
      cases hrun
    | none =>
      rw [htagging] at hrun
      have hnone : taggingRule? tags p.symbols world block.rules = none := by
        rw [h.rightSymbols] at htagging
        rw [h.leftSymbols]
        exact taggingRule?_eq_none_of hfork hderived.mirrors hblock.rules htagging
      rw [hnone]
      dsimp only at hrun ⊢
      rw [execute_bind_ok (execute_setWorld _ _)] at hrun ⊢
      obtain ⟨hchecks, hstep⟩ := hderived.failedChecks hfork hblock.checks hrun
      exact ⟨_, hchecks, hstep⟩

/-- The first verification takes in the blocks that the second takes in first. -/
theorem addBlocks {tags : Tags} {limits : Limits} {number : Nat} {blocks rest : List Block}
    (hblocks : ∀ block ∈ blocks, block.Over (fun _ => True) (base.Has fun _ => True)
      (base.Has (· ≠ "revocation_id")))
    {q' : Progress}
    (hrun : execute (Verification.addBlocks tags limits number (blocks ++ rest)) p' =
      (.ok [], q')) :
    ∃ q, execute (Verification.addBlocks tags limits number blocks) p = (.ok [], q) := by
  induction blocks generalizing number p p' with
  | nil => exact ⟨p, rfl⟩
  | cons block blocks ih =>
    rw [List.cons_append, Verification.addBlocks] at hrun
    obtain ⟨failed, s', hblock', hrun⟩ := exists_of_execute_bind hrun
    obtain ⟨others, t', hothers', hrun⟩ := exists_of_execute_bind hrun
    rw [execute_pure, Prod.mk.injEq, Except.ok.injEq, List.append_eq_nil_iff] at hrun
    obtain ⟨⟨rfl, rfl⟩, rfl⟩ := hrun
    obtain ⟨s, hblock, hstep⟩ := h.addBlock hfork (hblocks block List.mem_cons_self) hblock'
    obtain ⟨q, hothers⟩ :=
      ih hstep (fun other hother => hblocks other (List.mem_cons_of_mem block hother)) hothers'
    rw [Verification.addBlocks, execute_bind_ok hblock, execute_bind_ok hothers]
    exact ⟨q, rfl⟩

end InStep

end Warrant.Verification
