import Warrant.Proofs.Stages

namespace Warrant

/-- A predicate that stands for a tagged fact is tagged, unless its first argument is a variable. -/
theorem tagged_of_substitute {symbols : SymbolTable} {σ : Valuation} {p : Predicate} {fact : Fact}
    (h : p.substitute σ = some fact) (htagged : Tagged symbols fact) :
    Tagged symbols p ∨ ∃ v rest, p.terms = .var v :: rest := by
  obtain ⟨_, hterms⟩ := PredicateOf.substitute_eq_some_iff.1 h
  obtain ⟨symbol, rest, hfact, hsymbol⟩ := htagged
  rw [hfact] at hterms
  cases hp : p.terms with
  | nil =>
    rw [hp] at hterms
    cases hterms
  | cons pattern patterns =>
    rw [hp] at hterms
    obtain ⟨hpattern, _⟩ := List.forall₂_cons.1 hterms
    cases pattern with
    | var v => exact .inr ⟨v, patterns, rfl⟩
    | str symbol' =>
      cases hpattern
      exact .inl ⟨symbol, patterns, hp, hsymbol⟩
    | _ => cases hpattern

namespace Verification

/-- Whether all tagged facts of a world are among some. -/
def Unforged (symbols : SymbolTable) (genuine : Set Fact) (world : World) : Prop :=
  ∀ fact ∈ world.facts, Tagged symbols fact → fact ∈ genuine

variable {symbols : SymbolTable} {genuine : Set Fact} {tags : Tags}

theorem Unforged.addFacts {world : World} (h : Unforged symbols genuine world) {facts : List Fact}
    (hfacts : ∀ fact ∈ facts, ¬ Tagged symbols fact) :
    Unforged symbols genuine (facts.foldl World.addFact world) := by
  intro fact hfact htagged
  rw [← FactSet.mem_toSet, toSet_foldl_addFact] at hfact
  rcases hfact with hfact | hfact
  · exact h fact hfact htagged
  · exact absurd htagged (hfacts fact hfact)

/-- The rules of a block without defect derive no tagged fact. For a head that starts with a
    variable this has been tested where all facts of the block are known, hence it holds for all
    smaller sets of facts. -/
theorem Unforged.leastModel {block : Block} {number : Nat} {before after : World}
    (htags : Tags.ofSymbols symbols = some tags) (h : Unforged symbols genuine before)
    (hfault : blockFault tags symbols number block = none)
    (hafter : after.facts.toSet =
      leastModel symbols block.rules (before.facts.toSet ∪ {fact | fact ∈ block.facts}))
    (htagging : taggingRule? tags symbols after block.rules = none) :
    Unforged symbols genuine after := by
  obtain ⟨hfacts, hrules⟩ := (blockFault_eq_none_iff htags).1 hfault
  simp only [taggingRule?_eq htags, List.find?_eq_none, decide_eq_true_eq] at htagging
  have hclosed : ClosedUnder symbols block.rules after.facts.toSet := by
    rw [hafter]
    exact closedUnder_leastModel
  have hbase : before.facts.toSet ∪ {fact | fact ∈ block.facts} ⊆ after.facts.toSet := by
    rw [hafter]
    exact subset_leastModel
  have hbelow : after.facts.toSet ⊆
      {fact | fact ∈ after.facts ∧ (Tagged symbols fact → fact ∈ genuine)} := by
    conv_lhs => rw [hafter]
    refine leastModel_subset ?_ ?_
    · rintro fact hfact
      refine ⟨hbase hfact, fun htagged => ?_⟩
      rcases hfact with hfact | hfact
      · exact h fact hfact htagged
      · exact absurd htagged (hfacts fact hfact)
    · intro rule hrule fact hyields
      have hyields : rule.Yields symbols after.facts.toSet fact :=
        hyields.mono fun other hother => hother.1
      refine ⟨hclosed rule hrule fact hyields, fun htagged => ?_⟩
      obtain ⟨σ, _, hhead⟩ := RuleOf.yields_iff.1 hyields
      rcases tagged_of_substitute hhead htagged with hconstant | hvariable
      · exact absurd hconstant (hrules rule hrule).1
      · have hbinds : rule.BindsTag symbols after.facts.toSet :=
          ⟨hvariable, fact, hyields, htagged⟩
        exact absurd hbinds (htagging rule hrule)
  exact fun fact hfact => (hbelow hfact).2

/-- Taking in a block forges no fact, however it ends. -/
theorem BlockOutcome.unforged {number : Nat} {block : Block} {p : Progress}
    {result : Except Error (List FailedCheck) × Progress}
    (htags : Tags.ofSymbols p.symbols = some tags) (h : BlockOutcome tags number block p result)
    (hp : Unforged p.symbols genuine p.world) : Unforged p.symbols genuine result.2.world := by
  have hadded (hfault : blockFault tags p.symbols number block = none) :
      Unforged p.symbols genuine (block.facts.foldl World.addFact p.world) :=
    hp.addFacts ((blockFault_eq_none_iff htags).1 hfault).1
  cases h with
  | faulty _ => exact hp
  | limit hfault => exact hadded hfault
  | tagging hfault _ _ => exact hadded hfault
  | late _ hfault hworld htagging => exact hp.leastModel htags hfault hworld htagging
  | done _ hfault hworld htagging => exact hp.leastModel htags hfault hworld htagging

theorem unforged_ofVerifier {v : Verifier} (limits : Limits) (clock : Clock)
    (htags : Tags.ofSymbols v.symbols = some tags) (hrules : v.world.rules = []) :
    Unforged v.stageSymbols (v.knowledge 0)
      (execute (ofVerifier v limits) ⟨v.world, v.symbols, clock⟩).2.world := by
  refine kept_ofVerifier htags hrules ?_ ?_ ?_ limits clock
  · exact fun world _ hworld fact hfact _ => subset_leastModel (hworld hfact)
  · exact fun world _ hworld fact hfact _ => hworld.le hfact
  · intro number block _ world clock result hunforged houtcome
    exact houtcome.unforged (Tags.ofSymbols_stageSymbols htags) hunforged

end Verification

namespace Verifier

/-- However a verification ends, the tagged facts that the verifier then has follow from its own
    facts and rules, those of the first block and the revocation facts. The later blocks, whatever
    facts and rules they have, add none. -/
theorem tagged_mem_leastModel (v : Verifier) (limits : Limits) (clock : Clock)
    (hrules : v.world.rules = []) {fact : Fact}
    (hfact : fact ∈ (v.verifyUntil limits clock).1.world.facts) (htagged : Tagged v.symbols fact) :
    fact ∈ leastModel v.stageSymbols v.firstRules v.givenFacts := by
  cases htags : Verification.Tags.ofSymbols v.symbols with
  | none =>
    have hsame : (v.verifyUntil limits clock).1.world = v.world :=
      congrArg (fun result => result.2.world)
        (Verification.execute_ofVerifier_of_no_tags limits clock htags)
    rw [hsame] at hfact
    exact subset_leastModel (.inl hfact)
  | some tags =>
    refine Verification.unforged_ofVerifier limits clock htags hrules fact hfact ?_
    rw [← Verification.Tags.mark_iff (Verification.Tags.ofSymbols_stageSymbols htags),
      Verification.Tags.mark_iff htags]
    exact htagged

/-- A request to read a file, under a token whose second block tries to get a tag through a
    variable. -/
def forgingRequest : Verifier :=
  { readRequest with token := readRequest.token.map fun token => { token with blocks :=
      [{ symbols := .empty
         facts := [⟨10, [.str 7, .str 0]⟩]
         rules := [⟨⟨4, [.var 0, .str 7, .str 3]⟩, [⟨10, [.str 7, .var 0]⟩], []⟩]
         checks := []
         context := none
         version := Block.currentVersion }] } }

theorem forgingRequest_tagged_mem_leastModel :
    ∃ fact, Tagged forgingRequest.symbols fact ∧
      fact ∈ (forgingRequest.verifyUntil {} ⟨none⟩).1.world.facts ∧
      fact ∈ leastModel forgingRequest.stageSymbols forgingRequest.firstRules
        forgingRequest.givenFacts := by
  have hfact : (⟨4, [.str 0, .str 7, .str 8]⟩ : Fact) ∈
      (forgingRequest.verifyUntil {} ⟨none⟩).1.world.facts := by decide
  have htagged : Tagged forgingRequest.symbols ⟨4, [.str 0, .str 7, .str 8]⟩ :=
    ⟨0, [.str 7, .str 8], rfl, .inl (by decide)⟩
  exact ⟨_, htagged, hfact, tagged_mem_leastModel forgingRequest {} ⟨none⟩ rfl hfact htagged⟩

end Verifier

end Warrant
