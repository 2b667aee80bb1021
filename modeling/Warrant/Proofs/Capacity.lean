import Warrant.Proofs.Endings
import Warrant.Proofs.Rounds

namespace Warrant

namespace FactSet

theorem size_le_of_subset {facts others : FactSet} (h : facts.toSet ⊆ others.toSet) :
    facts.size ≤ others.size := by
  rw [← ncard_toSet, ← ncard_toSet]
  exact Set.ncard_le_ncard h others.finite_toSet

theorem size_insert_le (facts : FactSet) (fact : Fact) :
    (facts.insert fact).size ≤ facts.size + 1 := by
  by_cases hfact : fact ∈ facts
  · rw [insert_of_mem hfact]
    exact Nat.le_succ facts.size
  · rw [size_insert hfact]

theorem size_foldl_insert_le (added : List Fact) (facts : FactSet) :
    (added.foldl insert facts).size ≤ facts.size + added.length := by
  induction added generalizing facts with
  | nil => exact le_rfl
  | cons fact rest ih =>
    have hrest := ih (facts.insert fact)
    have hfirst := facts.size_insert_le fact
    rw [List.foldl_cons, List.length_cons]
    omega

end FactSet

/-- Whether facts come from others that they include by adding only as many as a limit admits. -/
structure GrownWithin (limits : Limits) (start facts : FactSet) : Prop where
  kept : start.toSet ⊆ facts.toSet
  room : facts = start ∨ facts.size ≤ limits.maxFacts

namespace GrownWithin

variable {limits : Limits} {start facts : FactSet}

theorem refl (limits : Limits) (facts : FactSet) : GrownWithin limits facts facts :=
  ⟨subset_rfl, .inl rfl⟩

theorem size_le (h : GrownWithin limits start facts) :
    facts.size ≤ max limits.maxFacts start.size := by
  rcases h.room with rfl | hfits
  · exact le_max_right _ _
  · exact hfits.trans (le_max_left _ _)

/-- Facts are too many only where those that they come from are. -/
theorem size_le_iff (h : GrownWithin limits start facts) :
    facts.size ≤ limits.maxFacts ↔ start.size ≤ limits.maxFacts := by
  refine ⟨(FactSet.size_le_of_subset h.kept).trans, fun hstart => ?_⟩
  rcases h.room with rfl | hfits
  · exact hstart
  · exact hfits

end GrownWithin

/-- A run adds to the facts it starts with only as many as the limit admits. -/
theorem grownWithin_saturate (symbols : SymbolTable) (limits : Limits) (rules : List Rule)
    (rounds : Nat) (facts : FactSet) (clock : Clock) :
    GrownWithin limits facts (saturate symbols limits rules rounds facts clock).facts := by
  have hclosed : ClosedUnder symbols rules (leastModel symbols rules facts.toSet) :=
    closedUnder_leastModel
  refine ⟨(saturate_between limits clock subset_leastModel hclosed rounds).1, ?_⟩
  clear hclosed
  induction rounds generalizing facts clock with
  | zero => exact .inl rfl
  | succ rounds ih =>
    have hstep := saturateStep_saturate symbols limits rules rounds facts clock
    generalize saturate symbols limits rules (rounds + 1) facts clock = run at hstep
    cases hstep with
    | full _ _ _ | late _ | settled _ _ => exact .inl rfl
    | @grown fresh _ hfresh _ hroom hrun =>
      have hfits : (facts.union fresh).size ≤ limits.maxFacts := by
        rw [size_union_fresh (Set.ext hfresh)]
        exact hroom
      rcases hrun with ⟨_, rfl⟩ | ⟨_, rfl⟩ | ⟨clock', _, _, rfl⟩
      · exact .inr hfits
      · exact .inr hfits
      · -- What the later rounds leave as it is has been tested in this one.
        rcases ih (facts.union fresh) clock' with hsame | hfits'
        · rw [hsame]
          exact .inr hfits
        · exact .inr hfits'

namespace Verification

variable {v : Verifier} {limits : Limits} {clock : Clock}

theorem grownWithin_derive {rules : List Rule} {p q : Progress} {world : World}
    (h : execute (derive limits rules) p = (.ok world, q)) :
    GrownWithin limits p.world.facts world.facts := by
  rw [execute_derive] at h
  have hgrown := grownWithin_saturate p.symbols limits (p.world.rules ++ rules)
    (max 1 limits.maxIterations) p.world.facts p.clock
  rw [derivation] at h
  generalize saturate p.symbols limits (p.world.rules ++ rules) (max 1 limits.maxIterations)
    p.world.facts p.clock = run at h hgrown
  obtain ⟨facts, cause | clock⟩ := run
  · cases h
  · cases h
    exact hgrown

/-- Whether a verification begins with some facts, or comes to run the rules of a stage on them.
    They have been put in or were known after the stage before. -/
def StartsFrom (v : Verifier) (limits : Limits) (clock : Clock) (facts : FactSet) : Prop :=
  facts = v.world.facts ∨ ∃ stage p, ReachesRules v limits clock stage p ∧ p.world.facts = facts

theorem Completes.exists_start {stage : Nat} {world : World}
    (h : Completes v limits clock stage world) :
    ∃ start, StartsFrom v limits clock start ∧ GrownWithin limits start world.facts := by
  obtain ⟨p, clock', hreaches, hderive⟩ := h
  exact ⟨p.world.facts, .inr ⟨stage, p, hreaches, rfl⟩, grownWithin_derive hderive⟩

theorem Ending.exists_start {result : Except Error Nat × Progress}
    (h : Ending v limits clock result) :
    ∃ start, StartsFrom v limits clock start ∧
      GrownWithin limits start result.2.world.facts := by
  cases h with
  | untagged _ | refused _ _ => exact ⟨_, .inl rfl, .refl limits v.world.facts⟩
  | trips hreaches _ | tagging hreaches _ _ _ =>
    exact ⟨_, .inr ⟨_, _, hreaches, rfl⟩, .refl limits _⟩
  | late _ hcompletes | faulty hcompletes _ _ _ | decided _ _ hcompletes =>
    exact hcompletes.exists_start

/-- Whether some facts are still there when a step has ended, however it has. -/
def Retains {α : Type} (facts : Set Fact) (result : Except Error α × Progress) : Prop :=
  facts ⊆ known result.2

theorem Retains.bind {α β : Type} {facts : Set Fact} {x : Verification α} {f : α → Verification β}
    {p : Progress} (hx : Retains facts (execute x p))
    (hf : ∀ a q, facts ⊆ known q → Retains facts (execute (f a) q)) :
    Retains facts (execute (x >>= f) p) := by
  rw [execute_bind]
  generalize execute x p = result at hx
  obtain ⟨e | a, q⟩ := result
  · exact hx
  · exact hf a q hx

theorem retains_closeBlock {facts : Set Fact} (tags : Tags) (limits : Limits) (number : Nat)
    (block : Block) {p : Progress} (hp : facts ⊆ known p) :
    Retains facts (execute (closeBlock tags limits number block) p) := by
  have houtcome := closeOutcome_closeBlock tags limits number block p
  generalize execute (closeBlock tags limits number block) p = result at houtcome
  cases houtcome with
  | trips _ | tagging _ _ => exact hp
  | tried hderive _ => exact hp.trans (grownWithin_derive hderive).kept

theorem retains_openBlock {facts : Set Fact} (tags : Tags) (number : Nat) (block : Block)
    {p : Progress} (hp : facts ⊆ known p) :
    Retains facts (execute (openBlock tags number block) p) := by
  rw [execute_openBlock]
  cases blockFault tags p.symbols number block with
  | some fault => exact hp
  | none =>
    refine hp.trans ?_
    dsimp only [known]
    rw [toSet_foldl_addFact]
    exact Set.subset_union_left

theorem retains_addBlock {facts : Set Fact} (tags : Tags) (limits : Limits) (number : Nat)
    (block : Block) {p : Progress} (hp : facts ⊆ known p) :
    Retains facts (execute (addBlock tags limits number block) p) := by
  rw [addBlock_eq]
  exact (retains_openBlock tags number block hp).bind fun _ q hq =>
    retains_closeBlock tags limits number block hq

theorem retains_addBlocks {facts : Set Fact} (tags : Tags) (limits : Limits) (number : Nat)
    (blocks : List Block) {p : Progress} (hp : facts ⊆ known p) :
    Retains facts (execute (addBlocks tags limits number blocks) p) := by
  induction blocks generalizing number p with
  | nil => exact hp
  | cons block rest ih =>
    rw [addBlocks]
    refine (retains_addBlock tags limits number block hp).bind fun failed q hq => ?_
    exact (ih (number + 1) hq).bind fun others r hr => hr

/-- What is still there when the later blocks have been taken in is there at the end. -/
theorem retains_ofVerifier {tags : Tags} (htags : Tags.ofSymbols v.symbols = some tags)
    {facts : Set Fact} {found : List FailedCheck × Option (Nat × PolicyKind)} {p : Progress}
    (hfirst : execute (firstStage v limits) ⟨v.world, v.symbols, clock⟩ = (.ok found, p))
    (hlater : Retains facts (execute (addBlocks tags limits 1 v.laterBlocks) p)) :
    Retains facts (execute (ofVerifier v limits) ⟨v.world, v.symbols, clock⟩) := by
  rw [ofVerifier_eq limits clock htags, execute_bind_ok hfirst]
  obtain ⟨failed, decided⟩ := found
  refine hlater.bind fun later q hq => ?_
  cases outcome (failed ++ later) decided with
  | error cause => exact hq
  | ok policy => exact hq

/-- The facts that the rules of a stage are run on are there when the verification has ended. -/
theorem retains_of_reachesRules {stage : Nat} {p : Progress}
    (h : ReachesRules v limits clock stage p) :
    Retains (known p) (execute (ofVerifier v limits) ⟨v.world, v.symbols, clock⟩) := by
  obtain ⟨hstage, tags, htags, hload⟩ := id h
  cases stage with
  | zero =>
    have houtcome := firstOutcome_firstStage v limits clock
    generalize hfirst : execute (firstStage v limits) ⟨v.world, v.symbols, clock⟩ =
      result at houtcome
    have hkept : Retains (known p) result := by
      cases houtcome with
      | refused hload' _ => cases hload.symm.trans hload'
      | trips hload' _ =>
        cases hload.symm.trans hload'
        exact subset_rfl
      | tried hload' hderive _ =>
        cases hload.symm.trans hload'
        exact (grownWithin_derive hderive).kept
    obtain ⟨e | found, q⟩ := result
    · rw [ofVerifier_eq limits clock htags, execute_bind_error hfirst]
      exact hkept
    · exact retains_ofVerifier htags hfirst (retains_addBlocks tags limits 1 v.laterBlocks hkept)
  | succ k =>
    have hblock := List.getElem?_eq_getElem hstage
    obtain ⟨r, ⟨found, r', failed, hfirst, hbefore⟩, hopen⟩ :=
      (reachesRules_succ_iff htags hblock).1 h
    have hadded : Retains (known p)
        (execute (addBlock tags limits (k + 1) v.laterBlocks[k]) r) := by
      rw [addBlock_eq, execute_bind_ok hopen]
      exact retains_closeBlock tags limits (k + 1) v.laterBlocks[k] subset_rfl
    have htaken : Retains (known p)
        (execute (addBlocks tags limits 1 (v.laterBlocks.take (k + 1))) r') := by
      rw [execute_addBlocks_take_succ hblock, execute_bind_ok hbefore]
      exact hadded.bind fun later q hq => hq
    refine retains_ofVerifier htags hfirst ?_
    rw [← List.take_append_drop (k + 1) v.laterBlocks, addBlocks_append]
    refine htaken.bind fun failed q hq => ?_
    exact (retains_addBlocks tags limits _ (v.laterBlocks.drop (k + 1)) hq).bind
      fun later q' hq' => hq'

/-- What the verifier has before is there when the first block has been taken in. -/
theorem subset_of_addAuthority {p : Progress}
    (h : execute (v.token.forM addAuthority) ⟨v.world, v.symbols, clock⟩ = (.ok (), p)) :
    v.world.facts.toSet ⊆ known p := by
  obtain ⟨_, _, hfacts⟩ := of_execute_addAuthority h
  exact Set.subset_union_left.trans hfacts.ge

theorem retains_firstStage (v : Verifier) (limits : Limits) (clock : Clock) :
    Retains v.world.facts.toSet (execute (firstStage v limits) ⟨v.world, v.symbols, clock⟩) := by
  have houtcome := firstOutcome_firstStage v limits clock
  generalize execute (firstStage v limits) ⟨v.world, v.symbols, clock⟩ = result at houtcome
  cases houtcome with
  | refused _ _ => exact subset_rfl
  | trips hload _ => exact subset_of_addAuthority hload
  | tried hload hderive _ =>
    exact (subset_of_addAuthority hload).trans (grownWithin_derive hderive).kept

theorem subset_of_reachesRules {stage : Nat} {p : Progress}
    (h : ReachesRules v limits clock stage p) : v.world.facts.toSet ⊆ known p := by
  obtain ⟨hstage, tags, htags, hload⟩ := id h
  cases stage with
  | zero => exact subset_of_addAuthority hload
  | succ k =>
    have hblock := List.getElem?_eq_getElem hstage
    obtain ⟨r, ⟨found, r', failed, hfirst, hbefore⟩, hopen⟩ :=
      (reachesRules_succ_iff htags hblock).1 h
    have hkept := retains_firstStage v limits clock
    rw [hfirst] at hkept
    replace hkept := retains_addBlocks tags limits 1 (v.laterBlocks.take k) hkept
    rw [hbefore] at hkept
    replace hkept := retains_openBlock tags (k + 1) v.laterBlocks[k] hkept
    rw [hopen] at hkept
    exact hkept

/-- All facts that a verification starts from are there when it has ended. -/
theorem StartsFrom.retains {facts : FactSet} (h : StartsFrom v limits clock facts) :
    Retains facts.toSet (execute (ofVerifier v limits) ⟨v.world, v.symbols, clock⟩) := by
  rcases h with rfl | ⟨stage, p, hreaches, rfl⟩
  · -- Whatever stage is the last one, the facts that it starts from include the first ones.
    obtain ⟨start, hstart, hgrown⟩ := (ending_ofVerifier v limits clock).exists_start
    refine subset_trans ?_ hgrown.kept
    rcases hstart with rfl | ⟨stage, p, hreaches, rfl⟩
    · exact subset_rfl
    · exact subset_of_reachesRules hreaches
  · exact retains_of_reachesRules hreaches

theorem finite_givenFacts (v : Verifier) : v.givenFacts.Finite := by
  rw [Verifier.givenFacts]
  refine v.world.facts.finite_toSet.union ?_
  cases v.token with
  | none => exact Set.finite_empty
  | some token =>
    refine (token.authority.facts ++
      revocationFacts v.revocation.1 0 token.revocationIds).finite_toSet.subset ?_
    rintro fact (hfact | ⟨index, id, hid, rfl⟩)
    · exact List.mem_append_left _ hfact
    · exact List.mem_append_right _ (mem_revocationFacts.2 ⟨index, id, hid, by rw [Nat.zero_add]⟩)

/-- How many facts some blocks have. -/
def factCount (blocks : List Block) : Nat := (blocks.map fun block => block.facts.length).sum

theorem factCount_append (blocks others : List Block) :
    factCount (blocks ++ others) = factCount blocks + factCount others := by
  rw [factCount, List.map_append, List.sum_append, factCount, factCount]

theorem factCount_take_le (blocks : List Block) (count : Nat) :
    factCount (blocks.take count) ≤ factCount blocks := by
  have hsplit := factCount_append (blocks.take count) (blocks.drop count)
  rw [List.take_append_drop] at hsplit
  omega

/-- Each stage adds up to the limit, and then what its block has. -/
theorem size_of_reachesRules {stage : Nat} {p : Progress}
    (h : ReachesRules v limits clock stage p) :
    p.world.facts.size ≤
      max limits.maxFacts v.givenFacts.ncard + factCount (v.laterBlocks.take stage) := by
  induction stage generalizing p with
  | zero =>
    obtain ⟨_, tags, _, hload⟩ := h
    obtain ⟨_, _, hfacts⟩ := of_execute_addAuthority hload
    rw [← FactSet.ncard_toSet, hfacts]
    exact (le_max_right _ _).trans (Nat.le_add_right _ _)
  | succ k ih =>
    obtain ⟨hk, tags, htags, _⟩ := id h
    have hblock := List.getElem?_eq_getElem hk
    obtain ⟨q, htaken, hopen⟩ := (reachesRules_succ_iff htags hblock).1 h
    obtain ⟨⟨r, clock', hreaches, hderive⟩, _⟩ :=
      completes_of_takesIn htags (Nat.le_of_succ_le hk) htaken
    have hbefore := ih hreaches
    have hgrown := (grownWithin_derive hderive).size_le
    have hadded := FactSet.size_foldl_insert_le v.laterBlocks[k].facts q.world.facts
    have hcount : factCount (v.laterBlocks.take (k + 1)) =
        factCount (v.laterBlocks.take k) + v.laterBlocks[k].facts.length := by
      rw [List.take_add_one, hblock, factCount_append]
      rfl
    rw [execute_openBlock] at hopen
    split at hopen
    · cases hopen
    · cases hopen
      rw [foldl_addFact, hcount]
      dsimp only
      omega

theorem StartsFrom.size_le {facts : FactSet} (h : StartsFrom v limits clock facts) :
    facts.size ≤ max limits.maxFacts v.givenFacts.ncard + factCount v.laterBlocks := by
  rcases h with rfl | ⟨stage, p, hreaches, rfl⟩
  · have hgiven : v.world.facts.size ≤ v.givenFacts.ncard := by
      rw [← FactSet.ncard_toSet]
      exact Set.ncard_le_ncard Set.subset_union_left (finite_givenFacts v)
    omega
  · have hsize := size_of_reachesRules hreaches
    have hcount := factCount_take_le v.laterBlocks stage
    omega

end Verification

namespace Verifier

open Verification

/-- The limit on facts bounds what rules derive, and not what is put in. However a verification
    ends, the verifier has no more facts then than the limit exactly if the verification has
    started from no more, in any of its stages; if it has more, rules have added nothing to the
    last ones that it has started from. -/
theorem size_verifyUntil_le_iff (v : Verifier) (limits : Limits) (clock : Clock) :
    let after := (v.verifyUntil limits clock).1.world.facts
    (after.size ≤ limits.maxFacts ↔
      ∀ start, StartsFrom v limits clock start → start.size ≤ limits.maxFacts) ∧
    (limits.maxFacts < after.size → StartsFrom v limits clock after) ∧
    after.size ≤ max limits.maxFacts v.givenFacts.ncard + factCount v.laterBlocks := by
  obtain ⟨start, hstart, hgrown⟩ := (ending_ofVerifier v limits clock).exists_start
  dsimp only
  have hafter : (v.verifyUntil limits clock).1.world.facts =
      (execute (ofVerifier v limits) ⟨v.world, v.symbols, clock⟩).2.world.facts := rfl
  rw [← hafter] at hgrown
  refine ⟨⟨fun hfits other hother => ?_, fun hall => ?_⟩, fun hmore => ?_, ?_⟩
  · exact (FactSet.size_le_of_subset hother.retains).trans hfits
  · exact hgrown.size_le_iff.2 (hall start hstart)
  · rwa [hgrown.room.resolve_right (Nat.not_le_of_lt hmore)]
  · have hsize := hstart.size_le
    have hgrowth := hgrown.size_le
    omega

/-- A request that anybody may make, under a token with three facts. -/
def crowdedRequest : Verifier where
  world := ⟨.empty, []⟩
  symbols := .ofList (SymbolTable.standard.names ++ ["a"])
  rules := []
  checks := []
  policies := [⟨[⟨⟨7, []⟩, [], [[.value (.bool true)]]⟩], .allow⟩]
  token := some
    { authority :=
        { symbols := .empty
          facts := [⟨7, [.integer 1]⟩, ⟨7, [.integer 2]⟩, ⟨7, [.integer 3]⟩]
          rules := []
          checks := []
          context := none
          version := Block.currentVersion }
      blocks := []
      revocationIds := [[1]] }

/-- A request is allowed under a limit that its facts exceed. -/
theorem crowdedRequest_verify_exceeds :
    (crowdedRequest.verify { maxFacts := 2 }).2 = .ok 0 ∧
      (crowdedRequest.verify { maxFacts := 2 }).1.world.facts.size = 4 := by
  decide

end Verifier

end Warrant
