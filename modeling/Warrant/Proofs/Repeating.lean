import Warrant.Proofs.Endings
import Warrant.Proofs.Lockstep

namespace Warrant

theorem World.addFact_of_mem {world : World} {fact : Fact} (h : fact ∈ world.facts) :
    world.addFact fact = world := by
  rw [addFact, FactSet.insert_of_mem h]

theorem World.foldl_addFact_of_mem {facts : List Fact} {world : World}
    (h : ∀ fact ∈ facts, fact ∈ world.facts) : facts.foldl addFact world = world := by
  induction facts with
  | nil => rfl
  | cons first rest ih =>
    rw [List.foldl_cons, addFact_of_mem (h first List.mem_cons_self)]
    exact ih fun fact hfact => h fact (List.mem_cons_of_mem first hfact)

namespace Verification

/-- Whether there is nothing left to take in from the first block of a token. -/
def TakenIn (token : LoadedToken) (p : Progress) : Prop :=
  (∀ rule ∈ token.authority.rules, rule.isRangeRestricted = true) ∧
    ∃ symbol, p.symbols.find? "revocation_id" = some symbol ∧
      ∀ fact, fact ∈ token.authority.facts ∨ fact ∈ revocationFacts symbol 0 token.revocationIds →
        fact ∈ p.world.facts

theorem TakenIn.of_world {token : LoadedToken} {p : Progress} (h : TakenIn token p) {world : World}
    (hworld : p.world.facts.toSet ⊆ world.facts.toSet) :
    TakenIn token { p with world := world } := by
  obtain ⟨hrules, symbol, hsymbol, hfacts⟩ := h
  exact ⟨hrules, symbol, hsymbol, fun fact hfact => hworld (hfacts fact hfact)⟩

/-- The first block is refused, or nothing of it is left to be taken in. -/
theorem execute_addAuthority_cases (token : LoadedToken) (p : Progress) :
    (∃ e, execute (addAuthority token) p = (.error e, p)) ∨
      ∃ q, execute (addAuthority token) p = (.ok (), q) ∧ q.clock = p.clock ∧
        q.world.rules = p.world.rules ∧ TakenIn token q := by
  rw [execute_addAuthority]
  cases hfind : token.authority.rules.find? fun rule => !rule.isRangeRestricted with
  | some rule => exact .inl ⟨_, rfl⟩
  | none =>
    refine .inr ⟨_, rfl, rfl, ?_, ?_, _, SymbolTable.find?_intern _ _, fun fact hfact => ?_⟩
    · rw [rules_foldl_addFact, rules_foldl_addFact]
    · simpa using hfind
    · change fact ∈ FactSet.toSet _
      rw [toSet_foldl_addFact, toSet_foldl_addFact]
      rcases hfact with hfact | hfact
      · exact .inl (.inr hfact)
      · exact .inr hfact

/-- What has been taken in changes nothing when it is taken in again. -/
theorem TakenIn.execute {token : LoadedToken} {p : Progress} (h : TakenIn token p) :
    execute (addAuthority token) p = (.ok (), p) := by
  obtain ⟨hrules, symbol, hsymbol, hfacts⟩ := h
  have hfind : (token.authority.rules.find? fun rule => !rule.isRangeRestricted) = none := by
    simpa using hrules
  rw [execute_addAuthority, hfind, SymbolTable.run_intern_of_find? hsymbol]
  dsimp only
  rw [World.foldl_addFact_of_mem fun fact hfact => hfacts fact (.inl hfact),
    World.foldl_addFact_of_mem fun fact hfact => hfacts fact (.inr hfact)]

section

variable {limits : Limits} {rules : List Rule} {p : Progress}
  (hclock : p.clock.readings = none) (hrules : p.world.rules = [])
include hclock hrules

/-- From facts that the rules do not enlarge nothing is derived, and no limit is tripped. -/
theorem execute_derive_of_closed (hclosed : ClosedUnder p.symbols rules p.world.facts.toSet) :
    execute (derive limits rules) p = (.ok p.world, p) := by
  obtain ⟨rounds, hrounds⟩ : ∃ rounds, max 1 limits.maxIterations = rounds + 1 :=
    ⟨max 1 limits.maxIterations - 1, by omega⟩
  obtain ⟨fresh, hfresh, hrun⟩ :=
    exists_saturate_succ p.symbols limits rules rounds p.world.facts hclock
  have hempty : fresh.size = 0 := FactSet.size_eq_zero_iff.2 fun fact hfact => by
    have hnew : fact ∈ newFacts p.symbols rules p.world.facts := hfresh.le hfact
    exact hnew.1 (newFacts_subset subset_rfl hclosed hnew)
  rw [execute_derive, hrules, List.nil_append, derivation, hrounds, hrun, if_pos hempty]
  rw [← hrules]

/-- What has been derived is derived again from itself. -/
theorem execute_derive_again {world : World} {q : Progress}
    (h : execute (derive limits rules) p = (.ok world, q)) :
    q = p ∧ p.world.facts.toSet ⊆ world.facts.toSet ∧
      execute (derive limits rules) { p with world := world } =
        (.ok world, { p with world := world }) := by
  cases houtcome : (derivation limits rules p).outcome with
  | error cause =>
    rw [execute_derive_error hrules houtcome] at h
    cases h
  | ok clock =>
    rw [execute_derive_ok hrules houtcome] at h
    obtain rfl : clock = p.clock := clock_of_saturate_ok hclock houtcome
    cases h
    refine ⟨rfl, ?_, ?_⟩
    · exact (saturate_between limits p.clock subset_leastModel closedUnder_leastModel _).1
    · exact execute_derive_of_closed hclock rfl (closedUnder_of_saturate_ok houtcome)

end

/-- The checks and policies of the first stage change nothing. -/
theorem exists_execute_tests (v : Verifier) {p : Progress} (hclock : p.clock.readings = none) :
    ∃ found, execute (do
      let failedHere ← failedChecks none 0 v.checks
      let failedThere ← failedChecks (some 0) 0 v.authorityChecks
      let decided ← decision 0 v.policies
      return (failedHere ++ failedThere, decided)) p = (.ok found, p) := by
  rw [execute_bind_ok ((observes_failing p none v.checks).of_endless hclock),
    execute_bind_ok ((observes_failing p (some 0) v.authorityChecks).of_endless hclock),
    execute_bind_ok ((observes_firstPolicy p v.policies).of_endless hclock)]
  exact ⟨_, rfl⟩

/-- Where the first block of the token is not refused, taking it in again later changes nothing. -/
theorem execute_load_cases (v : Verifier) (p : Progress) :
    (∃ e, execute (v.token.forM addAuthority) p = (.error e, p)) ∨
      ∃ q, execute (v.token.forM addAuthority) p = (.ok (), q) ∧ q.clock = p.clock ∧
        q.world.rules = p.world.rules ∧
        ∀ world : World, q.world.facts.toSet ⊆ world.facts.toSet →
          execute (v.token.forM addAuthority) { q with world := world } =
            (.ok (), { q with world := world }) := by
  cases v.token with
  | none => exact .inr ⟨p, rfl, rfl, rfl, fun world _ => rfl⟩
  | some token =>
    rcases execute_addAuthority_cases token p with hrefused | ⟨q, hload, hclock, hrules, htaken⟩
    · exact .inl hrefused
    · exact .inr ⟨q, hload, hclock, hrules, fun world hworld => (htaken.of_world hworld).execute⟩

/-- From where it has ended the first stage ends in the same way and changes nothing, whether it
    was refused, tripped a limit or came to its end. -/
theorem firstStage_again (v : Verifier) (limits : Limits) {p q : Progress}
    {result : Except Error (List FailedCheck × Option (Nat × PolicyKind))}
    (hclock : p.clock.readings = none) (hrules : p.world.rules = [])
    (h : execute (firstStage v limits) p = (result, q)) :
    q.clock = p.clock ∧ execute (firstStage v limits) q = (result, q) := by
  rw [firstStage] at h ⊢
  rcases execute_load_cases v p with
    ⟨e, hrefused⟩ | ⟨loaded, hload, hloadedClock, hloadedRules, hreload⟩
  · rw [execute_bind_error hrefused] at h
    cases h
    exact ⟨rfl, execute_bind_error hrefused⟩
  · have hendless : loaded.clock.readings = none := by rw [hloadedClock, hclock]
    rw [hrules] at hloadedRules
    rw [execute_bind_ok hload] at h
    rcases execute_derive_cases limits v.firstRules loaded with
      ⟨cause, hderive⟩ | ⟨world, clock, _, hderive⟩
    · rw [execute_bind_error hderive] at h
      cases h
      exact ⟨hloadedClock, (execute_bind_ok (hreload _ subset_rfl)).trans
        (execute_bind_error hderive)⟩
    · obtain ⟨hsame, hgrown, hagain⟩ := execute_derive_again hendless hloadedRules hderive
      obtain ⟨found, htests⟩ := exists_execute_tests v
        (show ({ loaded with world := world } : Progress).clock.readings = none from hendless)
      rw [execute_bind_ok hderive, hsame, execute_bind_ok (execute_setWorld world loaded),
        htests] at h
      cases h
      refine ⟨hloadedClock, (execute_bind_ok (hreload world hgrown)).trans ?_⟩
      rw [execute_bind_ok hagain, execute_bind_ok (execute_setWorld world _)]
      exact htests

/-- What a verification makes of its first stage, where no blocks follow. -/
def conclude (found : Except Error (List FailedCheck × Option (Nat × PolicyKind))) :
    Except Error Nat :=
  found.bind fun (failed, decided) => (outcome failed decided).mapError .logic

theorem execute_ofVerifier_of_no_blocks {v : Verifier} {tags : Tags} (limits : Limits)
    (clock : Clock) (htags : Tags.ofSymbols v.symbols = some tags) (hblocks : v.laterBlocks = []) :
    execute (ofVerifier v limits) ⟨v.world, v.symbols, clock⟩ =
      (conclude (execute (firstStage v limits) ⟨v.world, v.symbols, clock⟩).1,
        (execute (firstStage v limits) ⟨v.world, v.symbols, clock⟩).2) := by
  rw [ofVerifier_eq limits clock htags, hblocks]
  generalize hfirst : execute (firstStage v limits) ⟨v.world, v.symbols, clock⟩ = ending
  obtain ⟨e | ⟨failed, decided⟩, q⟩ := ending
  · exact execute_bind_error hfirst
  · rw [execute_bind_ok hfirst]
    have hnone : execute (addBlocks tags limits 1 []) q = (.ok [], q) := rfl
    dsimp only
    rw [execute_bind_ok hnone, List.append_nil, conclude, Except.bind]
    dsimp only
    cases outcome failed decided <;> rfl

theorem ofSymbols_of_firstStage {v : Verifier} {tags : Tags} (limits : Limits) (clock : Clock)
    (htags : Tags.ofSymbols v.symbols = some tags) :
    Tags.ofSymbols (execute (firstStage v limits) ⟨v.world, v.symbols, clock⟩).2.symbols =
      some tags := by
  have hfirst := firstOutcome_firstStage v limits clock
  generalize execute (firstStage v limits) ⟨v.world, v.symbols, clock⟩ = ending at hfirst
  cases hfirst with
  | refused => exact htags
  | trips | tried => exact Tags.ofSymbols_stageSymbols htags

end Verification

namespace Verifier

open Verification

/-- Without later blocks a verification whose time never ends can be repeated: from what it leaves,
    however it has ended, it comes to the same result and leaves the same verifier. -/
theorem verifyUntil_verifyUntil {v : Verifier} (limits : Limits) {clock : Clock}
    (hclock : clock.readings = none) (hrules : v.world.rules = []) (hblocks : v.laterBlocks = []) :
    (v.verifyUntil limits clock).1.verifyUntil limits clock = v.verifyUntil limits clock := by
  generalize hrun : execute (ofVerifier v limits) ⟨v.world, v.symbols, clock⟩ = ending
  obtain ⟨result, q⟩ := ending
  rw [verifyUntil_of_execute hrun]
  suffices hagain : execute (ofVerifier { v with world := q.world, symbols := q.symbols } limits)
      ⟨q.world, q.symbols, clock⟩ = (result, q) from verifyUntil_of_execute hagain
  cases htags : Tags.ofSymbols v.symbols with
  | none =>
    rw [execute_ofVerifier_of_no_tags limits clock htags] at hrun
    cases hrun
    exact execute_ofVerifier_of_no_tags limits clock htags
  | some tags =>
    have hsymbols := ofSymbols_of_firstStage limits clock htags
    rw [execute_ofVerifier_of_no_blocks limits clock htags hblocks] at hrun
    generalize hfirst : execute (firstStage v limits) ⟨v.world, v.symbols, clock⟩ = ending
      at hrun hsymbols
    obtain ⟨found, r⟩ := ending
    cases hrun
    obtain ⟨hsame, hagain⟩ := firstStage_again v limits hclock hrules hfirst
    obtain ⟨world, symbols, clock'⟩ := r
    obtain rfl : clock = clock' := hsame.symm
    have hrest := execute_ofVerifier_of_no_blocks
      (v := { v with world := world, symbols := symbols }) limits clock hsymbols hblocks
    rw [hrest]
    exact congrArg (fun ending => (conclude (Prod.fst ending), Prod.snd ending)) hagain

/-- The request to read a file under a token that has not been attenuated. -/
def plainReadRequest : Verifier :=
  { readRequest with
    token := readRequest.token.map fun token =>
      { token with blocks := [], revocationIds := [[1]] } }

theorem plainReadRequest_verifyUntil_verifyUntil :
    ((plainReadRequest.verifyUntil {} ⟨none⟩).2 = .ok 0 ∧
      ⟨9, [.str 7]⟩ ∈ (plainReadRequest.verifyUntil {} ⟨none⟩).1.world.facts ∧
      (plainReadRequest.verifyUntil {} ⟨none⟩).1.verifyUntil {} ⟨none⟩ =
        plainReadRequest.verifyUntil {} ⟨none⟩) ∧
    (plainReadRequest.verifyUntil { maxFacts := 2 } ⟨none⟩).2 = .error (.runLimit .tooManyFacts) ∧
      (plainReadRequest.verifyUntil { maxFacts := 2 } ⟨none⟩).1.verifyUntil { maxFacts := 2 }
        ⟨none⟩ = plainReadRequest.verifyUntil { maxFacts := 2 } ⟨none⟩ :=
  ⟨⟨rfl, by decide, verifyUntil_verifyUntil {} rfl rfl rfl⟩, rfl,
    verifyUntil_verifyUntil { maxFacts := 2 } rfl rfl rfl⟩

end Verifier

end Warrant
