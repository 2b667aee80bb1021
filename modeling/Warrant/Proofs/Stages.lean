import Warrant.Proofs.Tags

namespace Warrant.Verification

open Classical

/-- The run of some rules on the facts of the world. -/
def derivation (limits : Limits) (rules : List Rule) (p : Progress) : Run :=
  saturate p.symbols limits rules (max 1 limits.maxIterations) p.world.facts p.clock

/-- Deriving leaves the rules of the world out, whether or not a limit stops it. -/
theorem execute_derive (limits : Limits) (rules : List Rule) (p : Progress) :
    execute (derive limits rules) p =
      match derivation limits (p.world.rules ++ rules) p with
      | ⟨_, .error cause⟩ => (.error (.runLimit cause), p)
      | ⟨facts, .ok clock⟩ => (.ok ⟨facts, []⟩, { p with clock := clock }) := by
  rw [derive, execute_bind_ok (execute_get p), derivation]
  dsimp only [World.run]
  generalize saturate p.symbols limits (p.world.rules ++ rules) (max 1 limits.maxIterations)
    p.world.facts p.clock = run
  obtain ⟨facts, _ | clock⟩ := run <;> rfl

section

variable {limits : Limits} {rules : List Rule} {p : Progress} (hrules : p.world.rules = [])
include hrules

theorem execute_derive_ok {clock : Clock} (h : (derivation limits rules p).outcome = .ok clock) :
    execute (derive limits rules) p =
      (.ok ⟨(derivation limits rules p).facts, []⟩, { p with clock := clock }) := by
  rw [execute_derive, hrules, List.nil_append]
  generalize derivation limits rules p = run at h ⊢
  obtain ⟨facts, outcome⟩ := run
  cases h
  rfl

theorem execute_derive_error {cause : RunLimitError}
    (h : (derivation limits rules p).outcome = .error cause) :
    execute (derive limits rules) p = (.error (.runLimit cause), p) := by
  rw [execute_derive, hrules, List.nil_append]
  generalize derivation limits rules p = run at h ⊢
  obtain ⟨facts, outcome⟩ := run
  cases h
  rfl

variable (limits rules) in
/-- Deriving either trips a limit or finds the least set that is closed under the rules. -/
theorem derive_cases :
    (∃ cause, execute (derive limits rules) p = (.error (.runLimit cause), p)) ∨
      ∃ (world : World) (clock : Clock),
        execute (derive limits rules) p = (.ok world, { p with clock := clock }) ∧
        world.rules = [] ∧ world.facts.toSet = leastModel p.symbols rules (known p) := by
  cases houtcome : (derivation limits rules p).outcome with
  | error cause => exact .inl ⟨cause, execute_derive_error hrules houtcome⟩
  | ok clock =>
    exact .inr ⟨_, clock, execute_derive_ok hrules houtcome, rfl, saturate_eq_leastModel houtcome⟩

end

theorem execute_addFacts (facts : List Fact) (p : Progress) :
    execute (addFacts facts) p =
      (.ok (), { p with world := facts.foldl World.addFact p.world }) := rfl

theorem execute_setWorld (world : World) (p : Progress) :
    execute (setWorld world) p = (.ok (), { p with world := world }) := rfl

theorem foldl_addFact (facts : List Fact) (world : World) :
    facts.foldl World.addFact world = ⟨facts.foldl FactSet.insert world.facts, world.rules⟩ := by
  induction facts generalizing world with
  | nil => rfl
  | cons fact rest ih => exact ih (world.addFact fact)

theorem toSet_foldl_addFact (facts : List Fact) (world : World) :
    (facts.foldl World.addFact world).facts.toSet =
      world.facts.toSet ∪ {fact | fact ∈ facts} := by
  ext fact
  rw [foldl_addFact]
  simp [FactSet.mem_foldl_insert, or_comm]

theorem rules_foldl_addFact (facts : List Fact) (world : World) :
    (facts.foldl World.addFact world).rules = world.rules := by
  rw [foldl_addFact]

theorem mem_revocationFacts {symbol : UInt64} {index : Nat} {ids : List (List UInt8)}
    {fact : Fact} :
    fact ∈ revocationFacts symbol index ids ↔ ∃ i id, ids[i]? = some id ∧
      fact = ⟨symbol, [.integer (Int64.ofNat (index + i)), .bytes id]⟩ := by
  induction ids generalizing index with
  | nil => simp [revocationFacts]
  | cons id rest ih =>
    rw [revocationFacts, List.mem_cons, ih]
    constructor
    · rintro (rfl | ⟨i, id', hid, rfl⟩)
      · exact ⟨0, id, rfl, rfl⟩
      · exact ⟨i + 1, id', hid, by rw [Nat.add_right_comm, Nat.add_assoc]⟩
    · rintro ⟨_ | i, id', hid, rfl⟩
      · exact .inl (by rw [Option.some.inj hid, Nat.add_zero])
      · exact .inr ⟨i, id', hid, by rw [Nat.add_right_comm, Nat.add_assoc]⟩

/-- The first block is refused for a rule, or taken in with the identifiers of all blocks. -/
theorem execute_addAuthority (token : LoadedToken) (p : Progress) :
    execute (addAuthority token) p =
      match token.authority.rules.find? fun rule => !rule.isRangeRestricted with
      | some rule => (.error (.logic (.invalidRule 0 (rule.render p.symbols))), p)
      | none =>
        (.ok (),
          { p with
            world := (revocationFacts ((SymbolTable.intern "revocation_id").run p.symbols).1 0
              token.revocationIds).foldl World.addFact
                (token.authority.facts.foldl World.addFact p.world)
            symbols := ((SymbolTable.intern "revocation_id").run p.symbols).2 }) := by
  rw [addAuthority, execute_bind_ok (execute_get p)]
  cases token.authority.rules.find? fun rule => !rule.isRangeRestricted with
  | some rule => rfl
  | none => rfl

/-- What becomes of taking in the first block of the token in a verifier, if it has one. -/
inductive LoadOutcome (v : Verifier) (clock : Clock) : Except Error PUnit × Progress → Prop where
  /-- A rule of the block has a variable that its body has not. -/
  | refused {rule : Rule}
      (hrule : v.authorityRules.find? (fun rule => ¬ rule.RangeRestricted) = some rule) :
      LoadOutcome v clock (.error (.logic (.invalidRule 0 (rule.render v.symbols))),
        ⟨v.world, v.symbols, clock⟩)
  /-- The block has been taken in, with the identifiers of all blocks. -/
  | loaded {world : World}
      (hrestricted : v.authorityRules.find? (fun rule => ¬ rule.RangeRestricted) = none)
      (hrules : world.rules = v.world.rules) (hfacts : world.facts.toSet = v.givenFacts) :
      LoadOutcome v clock (.ok (), ⟨world, v.stageSymbols, clock⟩)

theorem loadOutcome_addAuthority (v : Verifier) (clock : Clock) :
    LoadOutcome v clock (execute (v.token.forM addAuthority) ⟨v.world, v.symbols, clock⟩) := by
  cases htoken : v.token with
  | none =>
    have h : LoadOutcome v clock (.ok (), ⟨v.world, v.stageSymbols, clock⟩) := by
      refine .loaded ?_ rfl ?_
      · simp [Verifier.authorityRules, htoken]
      · simp [Verifier.givenFacts, htoken]
    have hsymbols : v.stageSymbols = v.symbols := by simp [Verifier.stageSymbols, htoken]
    rw [hsymbols] at h
    exact h
  | some token =>
    have hauthority : v.authorityRules = token.authority.rules := by
      simp [Verifier.authorityRules, htoken]
    have hfind : (token.authority.rules.find? fun rule => !rule.isRangeRestricted) =
        v.authorityRules.find? fun rule => ¬ rule.RangeRestricted := by
      rw [hauthority]
      refine congrArg (List.find? · token.authority.rules) (funext fun rule => ?_)
      rw [Bool.eq_iff_iff, decide_eq_true_iff, Bool.not_eq_true', ← Bool.not_eq_true,
        RuleOf.isRangeRestricted_iff]
    change LoadOutcome v clock (execute (addAuthority token) ⟨v.world, v.symbols, clock⟩)
    rw [execute_addAuthority, hfind]
    cases hrule : v.authorityRules.find? fun rule => ¬ rule.RangeRestricted with
    | some rule => exact .refused hrule
    | none =>
      have hsymbols : v.stageSymbols = v.revocation.2 := by simp [Verifier.stageSymbols, htoken]
      have h : LoadOutcome v clock (.ok (),
          ⟨(revocationFacts v.revocation.1 0 token.revocationIds).foldl World.addFact
            (token.authority.facts.foldl World.addFact v.world), v.stageSymbols, clock⟩) := by
        refine .loaded hrule ?_ ?_
        · rw [rules_foldl_addFact, rules_foldl_addFact]
        · ext fact
          simp [toSet_foldl_addFact, Verifier.givenFacts, htoken, LoadedToken.broughtFacts,
            mem_revocationFacts, or_assoc]
      rw [hsymbols] at h
      exact h

/-- Without tags there is no verification. -/
theorem execute_ofVerifier_of_no_tags {v : Verifier} (limits : Limits) (clock : Clock)
    (htags : Tags.ofSymbols v.symbols = none) :
    execute (ofVerifier v limits) ⟨v.world, v.symbols, clock⟩ =
      (.error .missingSymbols, ⟨v.world, v.symbols, clock⟩) := by
  rw [ofVerifier, execute_bind_ok (execute_get _)]
  dsimp only
  rw [htags]
  rfl

/-- Loading, deriving and the later blocks follow each other in a verification. -/
theorem execute_ofVerifier {v : Verifier} {tags : Tags} (limits : Limits) (clock : Clock)
    (htags : Tags.ofSymbols v.symbols = some tags) :
    execute (ofVerifier v limits) ⟨v.world, v.symbols, clock⟩ =
      execute (do
        v.token.forM addAuthority
        setWorld (← derive limits v.firstRules)
        let failedHere ← failedChecks none 0 v.checks
        let failedThere ← failedChecks (some 0) 0 v.authorityChecks
        let decided ← decision 0 v.policies
        let failedLater ← addBlocks tags limits 1 v.laterBlocks
        match outcome (failedHere ++ failedThere ++ failedLater) decided with
        | .error cause => throw (.logic cause)
        | .ok policy => return policy) ⟨v.world, v.symbols, clock⟩ := by
  have hfirst : (v.token.map LoadedToken.authority).toList.flatMap Block.rules ++ v.rules =
      v.firstRules := by
    rw [Verifier.firstRules, Verifier.authorityRules]
    cases v.token <;> simp
  have hchecks : (v.token.map LoadedToken.authority).toList.flatMap Block.checks =
      v.authorityChecks := by
    rw [Verifier.authorityChecks]
    cases v.token <;> simp
  rw [ofVerifier, execute_bind_ok (execute_get _)]
  dsimp only
  rw [htags]
  dsimp only
  rw [hfirst, hchecks]
  rfl

/-- What becomes of taking in a block. -/
inductive BlockOutcome (tags : Tags) (number : Nat) (block : Block) (p : Progress) :
    Except Error (List FailedCheck) × Progress → Prop where
  /-- The block has a fault as it is written. -/
  | faulty {fault : LogicError} (hfault : blockFault tags p.symbols number block = some fault) :
      BlockOutcome tags number block p (.error (.logic fault), p)
  /-- Deriving trips a limit; the facts of the block stay. -/
  | limit {cause : RunLimitError} (hfault : blockFault tags p.symbols number block = none) :
      BlockOutcome tags number block p
        (.error (.runLimit cause), { p with world := block.facts.foldl World.addFact p.world })
  /-- A rule yields a tagged fact; the facts of the block stay, and what it derived does not. -/
  | tagging {world : World} {clock : Clock} {rule : Rule}
      (hfault : blockFault tags p.symbols number block = none)
      (hworld : world.facts.toSet =
        leastModel p.symbols block.rules (known p ∪ {fact | fact ∈ block.facts}))
      (hrule : taggingRule? tags p.symbols world block.rules = some rule) :
      BlockOutcome tags number block p
        (.error (.logic (.invalidRule number (rule.render p.symbols))),
          ⟨block.facts.foldl World.addFact p.world, p.symbols, clock⟩)
  /-- The time is over while the checks of the block are tried. -/
  | late {world : World} {clock : Clock} (hrules : world.rules = [])
      (hfault : blockFault tags p.symbols number block = none)
      (hworld : world.facts.toSet =
        leastModel p.symbols block.rules (known p ∪ {fact | fact ∈ block.facts}))
      (htagging : taggingRule? tags p.symbols world block.rules = none) :
      BlockOutcome tags number block p (.error (.runLimit .timeout), ⟨world, p.symbols, clock⟩)
  /-- The block has been taken in. -/
  | done {world : World} {clock : Clock} (hrules : world.rules = [])
      (hfault : blockFault tags p.symbols number block = none)
      (hworld : world.facts.toSet =
        leastModel p.symbols block.rules (known p ∪ {fact | fact ∈ block.facts}))
      (htagging : taggingRule? tags p.symbols world block.rules = none) :
      BlockOutcome tags number block p
        (.ok (failing p.symbols world.facts.toSet (some number) block.checks),
          ⟨world, p.symbols, clock⟩)

theorem blockOutcome_addBlock (tags : Tags) (limits : Limits) (number : Nat) (block : Block)
    (p : Progress) (hrules : p.world.rules = []) :
    BlockOutcome tags number block p (execute (addBlock tags limits number block) p) := by
  rw [addBlock, execute_bind_ok (execute_get p)]
  dsimp only
  cases hfault : blockFault tags p.symbols number block with
  | some fault => exact .faulty hfault
  | none =>
    dsimp only
    rw [execute_bind_ok (execute_addFacts block.facts p)]
    have hadded := rules_foldl_addFact block.facts p.world
    have hbase := toSet_foldl_addFact block.facts p.world
    have hstart : ({ p with world := block.facts.foldl World.addFact p.world } :
        Progress).world.rules = [] := hadded.trans hrules
    rcases derive_cases limits block.rules hstart with
      ⟨cause, hderive⟩ | ⟨world, clock, hderive, hcleared, hworld⟩
    · rw [execute_bind_error hderive]
      exact .limit hfault
    · have hworld : world.facts.toSet =
          leastModel p.symbols block.rules (known p ∪ {fact | fact ∈ block.facts}) := by
        rw [hworld, known, hbase]
      rw [execute_bind_ok hderive]
      dsimp only
      cases htagging : taggingRule? tags p.symbols world block.rules with
      | some rule => exact .tagging hfault hworld htagging
      | none =>
        dsimp only
        rw [execute_bind_ok (execute_setWorld world _)]
        have hchecks := observes_failing ⟨world, p.symbols, clock⟩ (some number) block.checks
        generalize execute (failedChecks (some number) 0 block.checks)
          ⟨world, p.symbols, clock⟩ = result at hchecks
        cases hchecks with
        | found _ => exact .done hcleared hfault hworld htagging
        | late _ => exact .late hcleared hfault hworld htagging

section

variable {kept : World → Prop} {tags : Tags}

/-- What taking in each of some blocks keeps is kept however taking them in ends. -/
theorem kept_addBlocks {symbols : SymbolTable} {blocks : List Block}
    (hblock : ∀ number, ∀ block ∈ blocks, ∀ world clock result, kept world →
      BlockOutcome tags number block ⟨world, symbols, clock⟩ result → kept result.2.world)
    (limits : Limits) (number : Nat) {world : World} (hrules : world.rules = [])
    (hworld : kept world) (clock : Clock) :
    kept (execute (addBlocks tags limits number blocks) ⟨world, symbols, clock⟩).2.world := by
  induction blocks generalizing number world clock with
  | nil => exact hworld
  | cons block rest ih =>
    have hadded := blockOutcome_addBlock tags limits number block ⟨world, symbols, clock⟩ hrules
    have hkept := hblock number block List.mem_cons_self world clock _ hworld hadded
    rw [addBlocks]
    generalize hresult : execute (addBlock tags limits number block) ⟨world, symbols, clock⟩ =
      result at hadded hkept
    cases hadded with
    | faulty _ | limit _ | tagging _ _ _ | late _ _ _ _ =>
      rw [execute_bind_error hresult]
      exact hkept
    | @done world' clock' hcleared _ _ _ =>
      rw [execute_bind_ok hresult, execute_bind]
      have hlater := ih (fun number other hother => hblock number other (.tail block hother))
        (number + 1) hcleared hkept clock'
      generalize execute (addBlocks tags limits (number + 1) rest) ⟨world', symbols, clock'⟩ =
        result at hlater ⊢
      obtain ⟨_ | _, q⟩ := result
      · exact hlater
      · exact hlater

/-- An invariant of the world in a verification, however it ends: it holds of what is given, holds
    of what the first rules derive, and is kept by the later blocks. -/
theorem kept_ofVerifier {v : Verifier} (htags : Tags.ofSymbols v.symbols = some tags)
    (hrules : v.world.rules = [])
    (hgiven : ∀ world : World, world.rules = [] → world.facts.toSet ⊆ v.givenFacts → kept world)
    (hderived : ∀ world : World, world.rules = [] → world.facts.toSet = v.knowledge 0 →
      kept world)
    (hblock : ∀ number, ∀ block ∈ v.laterBlocks, ∀ world clock result, kept world →
      BlockOutcome tags number block ⟨world, v.stageSymbols, clock⟩ result → kept result.2.world)
    (limits : Limits) (clock : Clock) :
    kept (execute (ofVerifier v limits) ⟨v.world, v.symbols, clock⟩).2.world := by
  rw [execute_ofVerifier limits clock htags]
  have hload := loadOutcome_addAuthority v clock
  generalize hresult : execute (v.token.forM addAuthority) ⟨v.world, v.symbols, clock⟩ =
    result at hload
  cases hload with
  | refused _ =>
    rw [execute_bind_error hresult]
    exact hgiven v.world hrules Set.subset_union_left
  | @loaded world _ hsame hfacts =>
    rw [execute_bind_ok hresult]
    have hstart : (⟨world, v.stageSymbols, clock⟩ : Progress).world.rules = [] :=
      hsame.trans hrules
    rcases derive_cases limits v.firstRules hstart with
      ⟨cause, hderive⟩ | ⟨world', clock', hderive, hcleared, hworld⟩
    · rw [execute_bind_error hderive]
      exact hgiven world hstart hfacts.le
    · have hkept : kept world' := by
        apply hderived world' hcleared
        rw [hworld, known, hfacts, Verifier.knowledge]
      rw [execute_bind_ok hderive, execute_bind_ok (execute_setWorld _ _)]
      let motive (result : Except Error Nat × Progress) : Prop := kept result.2.world
      refine (observes_failing _ none v.checks).bind_cases (motive := motive)
        (fun clock => ?_) fun _ => hkept
      refine (observes_failing _ (some 0) v.authorityChecks).bind_cases (motive := motive)
        (fun clock => ?_) fun _ => hkept
      refine (observes_firstPolicy _ v.policies).bind_cases (motive := motive)
        (fun clock => ?_) fun _ => hkept
      have hlater := kept_addBlocks hblock limits 1 hcleared hkept clock
      rw [execute_bind]
      generalize execute (addBlocks tags limits 1 v.laterBlocks) _ = result at hlater ⊢
      obtain ⟨_ | failed, q⟩ := result
      · exact hlater
      · dsimp only
        split
        · exact hlater
        · exact hlater

end

end Warrant.Verification
