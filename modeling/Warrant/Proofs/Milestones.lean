import Warrant.Proofs.Agreement

namespace Warrant

namespace Verifier

/-- The rules that are run in a stage: those of the first block and of the verifier, and in each
    stage after it those of one block more. -/
def stageRules (v : Verifier) : Nat → List Rule
  | 0 => v.firstRules
  | k + 1 => v.laterBlocks[k]?.elim [] Block.rules

/-- The facts that the rules of a stage are run on: what is known after the stage before, and what
    is brought to the stage. -/
def stageFacts (v : Verifier) : Nat → Set Fact
  | 0 => v.givenFacts
  | k + 1 => v.knowledge k ∪ {fact | fact ∈ v.laterBlocks[k]?.elim [] Block.facts}

theorem stageRules_succ {v : Verifier} {k : Nat} {block : Block}
    (hblock : v.laterBlocks[k]? = some block) : v.stageRules (k + 1) = block.rules := by
  rw [stageRules, hblock, Option.elim_some]

theorem stageFacts_succ {v : Verifier} {k : Nat} {block : Block}
    (hblock : v.laterBlocks[k]? = some block) :
    v.stageFacts (k + 1) = v.knowledge k ∪ {fact | fact ∈ block.facts} := by
  rw [stageFacts, hblock, Option.elim_some]

/-- What is known after a stage follows from its facts by its rules. -/
theorem knowledge_eq_leastModel {v : Verifier} {stage : Nat} (h : stage ≤ v.laterBlocks.length) :
    v.knowledge stage = leastModel v.stageSymbols (v.stageRules stage) (v.stageFacts stage) := by
  cases stage with
  | zero => rfl
  | succ k =>
    have hblock := List.getElem?_eq_getElem h
    rw [Verification.knowledge_succ hblock, stageRules_succ hblock, stageFacts_succ hblock]

end Verifier

namespace Verification

open Classical

/-- Takes in the facts of a block, unless it has a fault as it is written. -/
def openBlock (tags : Tags) (number : Nat) (block : Block) : Verification Unit := do
  match blockFault tags (← get).symbols number block with
  | some fault => throw (.logic fault)
  | none => pure ()
  addFacts block.facts

/-- Runs the rules of a block, unless they give a tag, and returns the checks of the block that do
    not pass. -/
def closeBlock (tags : Tags) (limits : Limits) (number : Nat) (block : Block) :
    Verification (List FailedCheck) := do
  let symbols := (← get).symbols
  let world ← derive limits block.rules
  match taggingRule? tags symbols world block.rules with
  | some rule => throw (.logic (.invalidRule number (rule.render symbols)))
  | none => pure ()
  setWorld world
  failedChecks (some number) 0 block.checks

/-- What the first block and the verifier have to say: their checks that do not pass, and the
    decision of the policies. -/
def firstStage (v : Verifier) (limits : Limits) :
    Verification (List FailedCheck × Option (Nat × PolicyKind)) := do
  v.token.forM addAuthority
  setWorld (← derive limits v.firstRules)
  let failedHere ← failedChecks none 0 v.checks
  let failedThere ← failedChecks (some 0) 0 v.authorityChecks
  let decided ← decision 0 v.policies
  return (failedHere ++ failedThere, decided)

/-- What is done in a verification before the rules of a stage are run. -/
def beforeRules (v : Verifier) (tags : Tags) (limits : Limits) : Nat → Verification Unit
  | 0 => v.token.forM addAuthority
  | k + 1 => do
    let _ ← firstStage v limits
    let _ ← addBlocks tags limits 1 (v.laterBlocks.take k)
    v.laterBlocks[k]?.forM (openBlock tags (k + 1))

/-- Whether a verification comes to run the rules of a stage, and from which progress. -/
def ReachesRules (v : Verifier) (limits : Limits) (clock : Clock) (stage : Nat) (p : Progress) :
    Prop :=
  stage ≤ v.laterBlocks.length ∧ ∃ tags, Tags.ofSymbols v.symbols = some tags ∧
    execute (beforeRules v tags limits stage) ⟨v.world, v.symbols, clock⟩ = (.ok (), p)

theorem execute_openBlock (tags : Tags) (number : Nat) (block : Block) (p : Progress) :
    execute (openBlock tags number block) p =
      match blockFault tags p.symbols number block with
      | some fault => (.error (.logic fault), p)
      | none => (.ok (), { p with world := block.facts.foldl World.addFact p.world }) := by
  rw [openBlock, execute_bind_ok (execute_get p)]
  cases blockFault tags p.symbols number block with
  | some fault => rfl
  | none => rfl

/-- Taking in a block is to open it and to close it. -/
theorem addBlock_eq (tags : Tags) (limits : Limits) (number : Nat) (block : Block)
    (p : Progress) :
    execute (addBlock tags limits number block) p =
      execute (do openBlock tags number block; closeBlock tags limits number block) p := by
  have hopen := execute_openBlock tags number block p
  rw [addBlock, execute_bind_ok (execute_get p)]
  dsimp only
  cases hfault : blockFault tags p.symbols number block with
  | some fault =>
    rw [hfault] at hopen
    rw [execute_bind_error hopen]
    rfl
  | none =>
    rw [hfault] at hopen
    rw [execute_bind_ok hopen, closeBlock, execute_bind_ok (execute_get _)]
    exact execute_bind_ok (execute_addFacts block.facts p)

theorem addBlocks_append (tags : Tags) (limits : Limits) (number : Nat)
    (blocks others : List Block) :
    addBlocks tags limits number (blocks ++ others) = do
      let failed ← addBlocks tags limits number blocks
      let later ← addBlocks tags limits (number + blocks.length) others
      return failed ++ later := by
  induction blocks generalizing number with
  | nil => simp [addBlocks]
  | cons block rest ih =>
    simp only [List.cons_append, addBlocks, ih, bind_assoc, pure_bind, List.append_assoc,
      List.length_cons, Nat.add_assoc, Nat.add_comm 1]

theorem firstStage_bind {α : Type} (v : Verifier) (limits : Limits)
    (f : List FailedCheck × Option (Nat × PolicyKind) → Verification α) :
    firstStage v limits >>= f = (do
      v.token.forM addAuthority
      setWorld (← derive limits v.firstRules)
      let failedHere ← failedChecks none 0 v.checks
      let failedThere ← failedChecks (some 0) 0 v.authorityChecks
      let decided ← decision 0 v.policies
      f (failedHere ++ failedThere, decided)) := by
  simp only [firstStage, bind_assoc, pure_bind]

/-- The first stage and the later blocks follow each other in a verification. -/
theorem ofVerifier_eq {v : Verifier} {tags : Tags} (limits : Limits) (clock : Clock)
    (htags : Tags.ofSymbols v.symbols = some tags) :
    execute (ofVerifier v limits) ⟨v.world, v.symbols, clock⟩ =
      execute (do
        let (failed, decided) ← firstStage v limits
        let later ← addBlocks tags limits 1 v.laterBlocks
        match outcome (failed ++ later) decided with
        | .error cause => throw (.logic cause)
        | .ok policy => return policy) ⟨v.world, v.symbols, clock⟩ := by
  rw [firstStage_bind]
  exact execute_ofVerifier limits clock htags

/-- Deriving either trips a limit or leaves a world without rules, and changes nothing but the
    clock. -/
theorem execute_derive_cases (limits : Limits) (rules : List Rule) (p : Progress) :
    (∃ cause, execute (derive limits rules) p = (.error (.runLimit cause), p)) ∨
      ∃ (world : World) (clock : Clock), world.rules = [] ∧
        execute (derive limits rules) p = (.ok world, { p with clock := clock }) := by
  rw [execute_derive]
  generalize derivation limits (p.world.rules ++ rules) p = run
  obtain ⟨facts, cause | clock⟩ := run
  · exact .inl ⟨cause, rfl⟩
  · exact .inr ⟨⟨facts, []⟩, clock, rfl, rfl⟩

/-- What becomes of the rules and checks of a block once its facts have been taken in. -/
inductive CloseOutcome (tags : Tags) (limits : Limits) (number : Nat) (block : Block)
    (p : Progress) : Except Error (List FailedCheck) × Progress → Prop where
  | trips {cause : RunLimitError}
      (hderive : execute (derive limits block.rules) p = (.error (.runLimit cause), p)) :
      CloseOutcome tags limits number block p (.error (.runLimit cause), p)
  | tagging {world : World} {clock : Clock} {rule : Rule}
      (hderive : execute (derive limits block.rules) p = (.ok world, { p with clock := clock }))
      (hrule : taggingRule? tags p.symbols world block.rules = some rule) :
      CloseOutcome tags limits number block p
        (.error (.logic (.invalidRule number (rule.render p.symbols))), { p with clock := clock })
  /-- The rules have been run and the checks are tried; the time may be over before all are. -/
  | tried {world : World} {clock clock' : Clock} {result : Except Error (List FailedCheck)}
      (hderive : execute (derive limits block.rules) p = (.ok world, { p with clock := clock }))
      (hresult : ∀ e, result = .error e → e = .runLimit .timeout) :
      CloseOutcome tags limits number block p (result, ⟨world, p.symbols, clock'⟩)

theorem closeOutcome_closeBlock (tags : Tags) (limits : Limits) (number : Nat) (block : Block)
    (p : Progress) :
    CloseOutcome tags limits number block p (execute (closeBlock tags limits number block) p) := by
  rw [closeBlock, execute_bind_ok (execute_get p)]
  dsimp only
  rcases execute_derive_cases limits block.rules p with
    ⟨cause, hderive⟩ | ⟨world, clock, _, hderive⟩
  · rw [execute_bind_error hderive]
    exact .trips hderive
  · rw [execute_bind_ok hderive]
    cases htagging : taggingRule? tags p.symbols world block.rules with
    | some rule => exact .tagging hderive htagging
    | none =>
      dsimp only
      rw [execute_bind_ok (execute_setWorld world _)]
      have hchecks := observes_failing ⟨world, p.symbols, clock⟩ (some number) block.checks
      generalize execute (failedChecks (some number) 0 block.checks)
        ⟨world, p.symbols, clock⟩ = result at hchecks
      cases hchecks with
      | found _ => exact .tried hderive nofun
      | late _ => exact .tried hderive fun e he => by cases he; rfl

/-- What becomes of the first stage. -/
inductive FirstOutcome (v : Verifier) (limits : Limits) (clock : Clock) :
    Except Error (List FailedCheck × Option (Nat × PolicyKind)) × Progress → Prop where
  | refused {rule : Rule}
      (hload : execute (v.token.forM addAuthority) ⟨v.world, v.symbols, clock⟩ =
        (.error (.logic (.invalidRule 0 (rule.render v.symbols))), ⟨v.world, v.symbols, clock⟩))
      (hrule : v.authorityRules.find? (fun rule => ¬ rule.RangeRestricted) = some rule) :
      FirstOutcome v limits clock (.error (.logic (.invalidRule 0 (rule.render v.symbols))),
        ⟨v.world, v.symbols, clock⟩)
  | trips {world : World} {cause : RunLimitError}
      (hload : execute (v.token.forM addAuthority) ⟨v.world, v.symbols, clock⟩ =
        (.ok (), ⟨world, v.stageSymbols, clock⟩))
      (hderive : execute (derive limits v.firstRules) ⟨world, v.stageSymbols, clock⟩ =
        (.error (.runLimit cause), ⟨world, v.stageSymbols, clock⟩)) :
      FirstOutcome v limits clock (.error (.runLimit cause), ⟨world, v.stageSymbols, clock⟩)
  /-- The rules have been run, and the checks and policies are tried; the time may be over before
      all are. -/
  | tried {world world' : World} {clock' clock'' : Clock}
      {result : Except Error (List FailedCheck × Option (Nat × PolicyKind))}
      (hload : execute (v.token.forM addAuthority) ⟨v.world, v.symbols, clock⟩ =
        (.ok (), ⟨world, v.stageSymbols, clock⟩))
      (hderive : execute (derive limits v.firstRules) ⟨world, v.stageSymbols, clock⟩ =
        (.ok world', ⟨world, v.stageSymbols, clock'⟩))
      (hresult : ∀ e, result = .error e → e = .runLimit .timeout) :
      FirstOutcome v limits clock (result, ⟨world', v.stageSymbols, clock''⟩)

theorem firstOutcome_firstStage (v : Verifier) (limits : Limits) (clock : Clock) :
    FirstOutcome v limits clock
      (execute (firstStage v limits) ⟨v.world, v.symbols, clock⟩) := by
  rw [firstStage]
  have hload := loadOutcome_addAuthority v clock
  generalize hresult : execute (v.token.forM addAuthority) ⟨v.world, v.symbols, clock⟩ =
    result at hload
  cases hload with
  | refused hrule =>
    rw [execute_bind_error hresult]
    exact .refused hresult hrule
  | @loaded world _ _ _ =>
    rw [execute_bind_ok hresult]
    rcases execute_derive_cases limits v.firstRules ⟨world, v.stageSymbols, clock⟩ with
      ⟨cause, hderive⟩ | ⟨world', clock', _, hderive⟩
    · rw [execute_bind_error hderive]
      exact .trips hresult hderive
    · rw [execute_bind_ok hderive, execute_bind_ok (execute_setWorld world' _)]
      have hlate (clock'' : Clock) : FirstOutcome v limits clock
          (.error (.runLimit .timeout), ⟨world', v.stageSymbols, clock''⟩) :=
        .tried hresult hderive fun e he => by cases he; rfl
      refine (observes_failing _ none v.checks).bind_cases (fun clock => ?_) hlate
      refine (observes_failing _ (some 0) v.authorityChecks).bind_cases (fun clock => ?_) hlate
      refine (observes_firstPolicy _ v.policies).bind_cases (fun clock => ?_) hlate
      exact .tried hresult hderive nofun

/-- Whether a verification takes in the first block and a number of later ones, and comes to some
    progress. -/
def TakesIn (v : Verifier) (tags : Tags) (limits : Limits) (clock : Clock) (count : Nat)
    (q : Progress) : Prop :=
  ∃ decided p failed,
    execute (firstStage v limits) ⟨v.world, v.symbols, clock⟩ = (.ok decided, p) ∧
    execute (addBlocks tags limits 1 (v.laterBlocks.take count)) p = (.ok failed, q)

/-- Whether a verification runs the rules of a stage to their end, and to which world. -/
def Completes (v : Verifier) (limits : Limits) (clock : Clock) (stage : Nat) (world : World) :
    Prop :=
  ∃ p clock', ReachesRules v limits clock stage p ∧
    execute (derive limits (v.stageRules stage)) p = (.ok world, { p with clock := clock' })

section

variable {v : Verifier} {tags : Tags} {limits : Limits} {clock : Clock}

theorem takesIn_zero_iff {q : Progress} : TakesIn v tags limits clock 0 q ↔
    ∃ decided, execute (firstStage v limits) ⟨v.world, v.symbols, clock⟩ = (.ok decided, q) := by
  constructor
  · rintro ⟨decided, p, failed, hfirst, hblocks⟩
    cases hblocks
    exact ⟨decided, hfirst⟩
  · rintro ⟨decided, hfirst⟩
    exact ⟨decided, q, [], hfirst, rfl⟩

theorem execute_addBlocks_take_succ {k : Nat} {block : Block}
    (hblock : v.laterBlocks[k]? = some block) (p : Progress) :
    execute (addBlocks tags limits 1 (v.laterBlocks.take (k + 1))) p =
      execute (do
        let failed ← addBlocks tags limits 1 (v.laterBlocks.take k)
        let later ← addBlock tags limits (k + 1) block
        return failed ++ later) p := by
  have hlength : (v.laterBlocks.take k).length = k := by
    rw [List.length_take]
    have := (List.getElem?_eq_some_iff.1 hblock).1
    omega
  rw [List.take_add_one, hblock, Option.toList_some, addBlocks_append, hlength]
  simp [addBlocks, Nat.add_comm]

theorem takesIn_succ_iff {k : Nat} {block : Block} (hblock : v.laterBlocks[k]? = some block)
    {q : Progress} : TakesIn v tags limits clock (k + 1) q ↔
      ∃ p failed, TakesIn v tags limits clock k p ∧
        execute (addBlock tags limits (k + 1) block) p = (.ok failed, q) := by
  constructor
  · rintro ⟨decided, p, failed, hfirst, hblocks⟩
    rw [execute_addBlocks_take_succ hblock] at hblocks
    obtain ⟨failed', r, hbefore, hblocks⟩ := exists_of_execute_bind hblocks
    obtain ⟨later, r', hlast, hblocks⟩ := exists_of_execute_bind hblocks
    cases hblocks
    exact ⟨r, later, ⟨decided, p, failed', hfirst, hbefore⟩, hlast⟩
  · rintro ⟨r, later, ⟨decided, p, failed, hfirst, hbefore⟩, hlast⟩
    refine ⟨decided, p, failed ++ later, hfirst, ?_⟩
    rw [execute_addBlocks_take_succ hblock, execute_bind_ok hbefore, execute_bind_ok hlast]
    rfl

theorem execute_beforeRules_succ_iff {k : Nat} {block : Block}
    (hblock : v.laterBlocks[k]? = some block) {p : Progress} :
    execute (beforeRules v tags limits (k + 1)) ⟨v.world, v.symbols, clock⟩ = (.ok (), p) ↔
      ∃ q, TakesIn v tags limits clock k q ∧
        execute (openBlock tags (k + 1) block) q = (.ok (), p) := by
  rw [beforeRules, hblock]
  constructor
  · intro h
    obtain ⟨decided, q, hfirst, h⟩ := exists_of_execute_bind h
    obtain ⟨failed, r, hblocks, hopen⟩ := exists_of_execute_bind h
    exact ⟨r, ⟨decided, q, failed, hfirst, hblocks⟩, hopen⟩
  · rintro ⟨r, ⟨decided, q, failed, hfirst, hblocks⟩, hopen⟩
    rw [execute_bind_ok hfirst, execute_bind_ok hblocks]
    exact hopen

theorem reachesRules_succ_iff (htags : Tags.ofSymbols v.symbols = some tags) {k : Nat}
    {block : Block} (hblock : v.laterBlocks[k]? = some block) {p : Progress} :
    ReachesRules v limits clock (k + 1) p ↔
      ∃ q, TakesIn v tags limits clock k q ∧
        execute (openBlock tags (k + 1) block) q = (.ok (), p) := by
  rw [← execute_beforeRules_succ_iff hblock]
  constructor
  · rintro ⟨_, tags', htags', h⟩
    cases htags.symm.trans htags'
    exact h
  · exact fun h => ⟨(List.getElem?_eq_some_iff.1 hblock).1, tags, htags, h⟩

/-- A block that has been taken in has had its rules run to their end. -/
theorem completes_succ (htags : Tags.ofSymbols v.symbols = some tags) {k : Nat} {block : Block}
    (hblock : v.laterBlocks[k]? = some block) {p q : Progress} {failed : List FailedCheck}
    (hbefore : TakesIn v tags limits clock k p)
    (hadded : execute (addBlock tags limits (k + 1) block) p = (.ok failed, q)) :
    Completes v limits clock (k + 1) q.world ∧ q.symbols = p.symbols := by
  rw [addBlock_eq] at hadded
  obtain ⟨_, r, hopen, hclose⟩ := exists_of_execute_bind hadded
  have hreaches : ReachesRules v limits clock (k + 1) r :=
    (reachesRules_succ_iff htags hblock).2 ⟨p, hbefore, hopen⟩
  have hsymbols : r.symbols = p.symbols := by
    rw [execute_openBlock] at hopen
    split at hopen
    · cases hopen
    · cases hopen
      rfl
  have houtcome := closeOutcome_closeBlock tags limits (k + 1) block r
  rw [hclose] at houtcome
  cases houtcome with
  | @tried _ clock' _ _ hderive _ =>
    refine ⟨⟨r, clock', hreaches, ?_⟩, hsymbols⟩
    rwa [Verifier.stageRules_succ hblock]

/-- Blocks that have been taken in have had their rules run to their end, the last ones to the
    world that there is. -/
theorem completes_of_takesIn (htags : Tags.ofSymbols v.symbols = some tags) {count : Nat}
    (hcount : count ≤ v.laterBlocks.length) {q : Progress}
    (h : TakesIn v tags limits clock count q) :
    Completes v limits clock count q.world ∧ q.symbols = v.stageSymbols := by
  induction count generalizing q with
  | zero =>
    obtain ⟨decided, hfirst⟩ := takesIn_zero_iff.1 h
    have houtcome := firstOutcome_firstStage v limits clock
    rw [hfirst] at houtcome
    cases houtcome with
    | tried hload hderive _ =>
      exact ⟨⟨_, _, ⟨Nat.zero_le _, tags, htags, hload⟩, hderive⟩, rfl⟩
  | succ k ih =>
    have hblock := List.getElem?_eq_getElem hcount
    obtain ⟨p, failed, hbefore, hadded⟩ := (takesIn_succ_iff hblock).1 h
    obtain ⟨hcompletes, hsymbols⟩ := completes_succ htags hblock hbefore hadded
    exact ⟨hcompletes, hsymbols.trans (ih (Nat.le_of_succ_le hcount) hbefore).2⟩

end

/-- Where the first block is taken in, it brings its facts and the identifiers of all blocks. -/
theorem of_execute_addAuthority {v : Verifier} {clock : Clock} {p : Progress}
    (h : execute (v.token.forM addAuthority) ⟨v.world, v.symbols, clock⟩ = (.ok (), p)) :
    p.world.rules = v.world.rules ∧ p.symbols = v.stageSymbols ∧
      p.world.facts.toSet = v.givenFacts := by
  have houtcome := loadOutcome_addAuthority v clock
  rw [h] at houtcome
  cases houtcome with
  | loaded _ hkept hfacts => exact ⟨hkept, rfl, hfacts⟩

/-- Whether a verification is where the rules of a stage are to be run: the world has the facts of
    the stage, and no rules. -/
structure AtStage (v : Verifier) (stage : Nat) (p : Progress) : Prop where
  rules : p.world.rules = []
  symbols : p.symbols = v.stageSymbols
  facts : p.world.facts.toSet = v.stageFacts stage

/-- What the rules of a stage come to there is what is known after the stage. -/
theorem AtStage.knowledge {v : Verifier} {limits : Limits} {stage : Nat} {p q : Progress}
    {world : World} (h : AtStage v stage p) (hstage : stage ≤ v.laterBlocks.length)
    (hderive : execute (derive limits (v.stageRules stage)) p = (.ok world, q)) :
    world.rules = [] ∧ world.facts.toSet = v.knowledge stage := by
  rcases derive_cases limits (v.stageRules stage) h.rules with
    ⟨cause, hderive'⟩ | ⟨world', clock, hderive', hcleared, hworld⟩
  · cases hderive.symm.trans hderive'
  · cases hderive.symm.trans hderive'
    refine ⟨hcleared, ?_⟩
    rw [hworld, h.symbols, Verifier.knowledge_eq_leastModel hstage, ← h.facts]

section

variable {v : Verifier} {limits : Limits} {clock : Clock} (hrules : v.world.rules = [])
include hrules

/-- A verification that comes to run the rules of a stage does so on the facts of the stage. -/
theorem atStage_of_reachesRules {stage : Nat} {p : Progress}
    (h : ReachesRules v limits clock stage p) : AtStage v stage p := by
  induction stage generalizing p with
  | zero =>
    obtain ⟨_, tags, _, hload⟩ := h
    obtain ⟨hkept, hsymbols, hfacts⟩ := of_execute_addAuthority hload
    exact ⟨hkept.trans hrules, hsymbols, hfacts⟩
  | succ k ih =>
    obtain ⟨hk, tags, htags, _⟩ := id h
    have hblock := List.getElem?_eq_getElem hk
    obtain ⟨q, htaken, hopen⟩ := (reachesRules_succ_iff htags hblock).1 h
    -- The block is opened where the rules of the stage before have been run to their end.
    obtain ⟨⟨r, clock', hreaches, hderive⟩, hsymbols⟩ :=
      completes_of_takesIn htags (Nat.le_of_succ_le hk) htaken
    obtain ⟨hcleared, hknown⟩ := (ih hreaches).knowledge (Nat.le_of_succ_le hk) hderive
    rw [execute_openBlock] at hopen
    split at hopen
    · cases hopen
    · cases hopen
      refine ⟨(rules_foldl_addFact _ _).trans hcleared, hsymbols, ?_⟩
      rw [toSet_foldl_addFact, hknown, Verifier.stageFacts_succ hblock]

theorem knowledge_of_completes {stage : Nat} {world : World}
    (h : Completes v limits clock stage world) :
    world.rules = [] ∧ world.facts.toSet = v.knowledge stage := by
  obtain ⟨p, clock', hreaches, hderive⟩ := h
  exact (atStage_of_reachesRules hrules hreaches).knowledge hreaches.1 hderive

end

end Verification

end Warrant
