import Warrant.Proofs.Milestones

namespace Warrant

namespace Verification

open Classical

/-- Where taking in some blocks fails, it fails at one of them, and those before are taken in. -/
theorem exists_failing_block {tags : Tags} {limits : Limits} {number : Nat} {blocks : List Block}
    {p q : Progress} {e : Error}
    (h : execute (addBlocks tags limits number blocks) p = (.error e, q)) :
    ∃ k block r failed, blocks[k]? = some block ∧
      execute (addBlocks tags limits number (blocks.take k)) p = (.ok failed, r) ∧
      execute (addBlock tags limits (number + k) block) r = (.error e, q) := by
  induction blocks generalizing number p with
  | nil => cases h
  | cons block rest ih =>
    rw [addBlocks, execute_bind] at h
    generalize hfirst : execute (addBlock tags limits number block) p = result at h
    obtain ⟨e' | failed, r⟩ := result
    · cases h
      exact ⟨0, block, p, [], rfl, rfl, hfirst⟩
    · dsimp only at h
      rw [execute_bind] at h
      generalize hrest : execute (addBlocks tags limits (number + 1) rest) r = result at h
      obtain ⟨e' | others, r'⟩ := result
      · cases h
        obtain ⟨k, other, s, failed', hother, hbefore, hlast⟩ := ih hrest
        refine ⟨k + 1, other, s, failed ++ failed', hother, ?_, ?_⟩
        · rw [List.take_succ_cons, addBlocks, execute_bind_ok hfirst, execute_bind_ok hbefore]
          rfl
        · rw [← Nat.add_assoc, Nat.add_right_comm]
          exact hlast
      · cases h

/-- How a verification ends, and what it leaves. -/
inductive Ending (v : Verifier) (limits : Limits) (clock : Clock) :
    Except Error Nat × Progress → Prop where
  | untagged (htags : Tags.ofSymbols v.symbols = none) :
      Ending v limits clock (.error .missingSymbols, ⟨v.world, v.symbols, clock⟩)
  | refused {rule : Rule} (hrule : rule ∈ v.authorityRules) (hopen : ¬ rule.RangeRestricted) :
      Ending v limits clock (.error (.logic (.invalidRule 0 (rule.render v.symbols))),
        ⟨v.world, v.symbols, clock⟩)
  | trips {stage : Nat} {p : Progress} {cause : RunLimitError}
      (hreaches : ReachesRules v limits clock stage p)
      (hderive : execute (derive limits (v.stageRules stage)) p = (.error (.runLimit cause), p)) :
      Ending v limits clock (.error (.runLimit cause), p)
  | tagging {stage : Nat} {p : Progress} {world : World} {clock' : Clock} {tags : Tags}
      {rule : Rule} (hreaches : ReachesRules v limits clock (stage + 1) p)
      (hderive : execute (derive limits (v.stageRules (stage + 1))) p =
        (.ok world, { p with clock := clock' }))
      (htags : Tags.ofSymbols v.symbols = some tags)
      (hrule : taggingRule? tags p.symbols world (v.stageRules (stage + 1)) = some rule) :
      Ending v limits clock (.error (.logic (.invalidRule (stage + 1) (rule.render p.symbols))),
        { p with clock := clock' })
  /-- The time is over while checks or policies are tried. -/
  | late {stage : Nat} {world : World} {clock' : Clock} (hstage : stage ≤ v.laterBlocks.length)
      (hcompletes : Completes v limits clock stage world) :
      Ending v limits clock (.error (.runLimit .timeout), ⟨world, v.stageSymbols, clock'⟩)
  /-- The block of the next stage has a fault as it is written. -/
  | faulty {stage : Nat} {world : World} {clock' : Clock} {tags : Tags} {block : Block}
      {fault : LogicError} (hcompletes : Completes v limits clock stage world)
      (hblock : v.laterBlocks[stage]? = some block)
      (htags : Tags.ofSymbols v.symbols = some tags)
      (hfault : blockFault tags v.stageSymbols (stage + 1) block = some fault) :
      Ending v limits clock (.error (.logic fault), ⟨world, v.stageSymbols, clock'⟩)
  | decided {world : World} {clock' : Clock} (failed : List FailedCheck)
      (decided : Option (Nat × PolicyKind))
      (hcompletes : Completes v limits clock v.laterBlocks.length world) :
      Ending v limits clock
        ((outcome failed decided).mapError .logic, ⟨world, v.stageSymbols, clock'⟩)

section

variable {v : Verifier} {tags : Tags} {limits : Limits} {clock : Clock}
  (htags : Tags.ofSymbols v.symbols = some tags)
include htags

/-- Where taking in the later blocks fails, it does so in one of the ways in which a verification
    ends. -/
theorem ending_of_addBlocks {found : List FailedCheck × Option (Nat × PolicyKind)}
    {p q : Progress} {e : Error}
    (hfirst : execute (firstStage v limits) ⟨v.world, v.symbols, clock⟩ = (.ok found, p))
    (hlater : execute (addBlocks tags limits 1 v.laterBlocks) p = (.error e, q)) :
    Ending v limits clock (.error e, q) := by
  obtain ⟨k, block, r, failed, hblock, hbefore, hfailing⟩ := exists_failing_block hlater
  have hk : k + 1 ≤ v.laterBlocks.length := (List.getElem?_eq_some_iff.1 hblock).1
  have htaken : TakesIn v tags limits clock k r := ⟨found, p, failed, hfirst, hbefore⟩
  obtain ⟨hcompletes, hsymbols⟩ := completes_of_takesIn htags (Nat.le_of_succ_le hk) htaken
  obtain ⟨world, symbols, clock'⟩ := r
  obtain rfl : symbols = v.stageSymbols := hsymbols
  have hopen := execute_openBlock tags (k + 1) block ⟨world, v.stageSymbols, clock'⟩
  rw [addBlock_eq, Nat.add_comm] at hfailing
  cases hfault : blockFault tags v.stageSymbols (k + 1) block with
  | some fault =>
    simp only [hfault] at hopen
    rw [execute_bind_error hopen] at hfailing
    cases hfailing
    exact .faulty hcompletes hblock htags hfault
  | none =>
    simp only [hfault] at hopen
    rw [execute_bind_ok hopen] at hfailing
    have hreaches := (reachesRules_succ_iff htags hblock).2 ⟨_, htaken, hopen⟩
    have houtcome := closeOutcome_closeBlock tags limits (k + 1) block
      ⟨block.facts.foldl World.addFact world, v.stageSymbols, clock'⟩
    rw [hfailing] at houtcome
    cases houtcome with
    | trips hderive =>
      rw [← Verifier.stageRules_succ hblock] at hderive
      exact .trips hreaches hderive
    | tagging hderive hrule =>
      rw [← Verifier.stageRules_succ hblock] at hderive hrule
      exact .tagging hreaches hderive htags hrule
    | tried hderive hresult =>
      cases hresult e rfl
      rw [← Verifier.stageRules_succ hblock] at hderive
      exact .late hk ⟨_, _, hreaches, hderive⟩

/-- A verification ends where closing a block fails. -/
theorem execute_ofVerifier_of_closeBlock {k : Nat} {block : Block}
    (hblock : v.laterBlocks[k]? = some block) {p q : Progress} {e : Error}
    (hreaches : ReachesRules v limits clock (k + 1) p)
    (hclose : execute (closeBlock tags limits (k + 1) block) p = (.error e, q)) :
    execute (ofVerifier v limits) ⟨v.world, v.symbols, clock⟩ = (.error e, q) := by
  obtain ⟨r, ⟨found, r', failed, hfirst, hbefore⟩, hopen⟩ :=
    (reachesRules_succ_iff htags hblock).1 hreaches
  have htaken : execute (addBlocks tags limits 1 (v.laterBlocks.take (k + 1))) r' =
      (.error e, q) := by
    rw [execute_addBlocks_take_succ hblock, execute_bind_ok hbefore]
    apply execute_bind_error
    rw [addBlock_eq, execute_bind_ok hopen, hclose]
  have hlater : execute (addBlocks tags limits 1 v.laterBlocks) r' = (.error e, q) := by
    rw [← List.take_append_drop (k + 1) v.laterBlocks, addBlocks_append,
      execute_bind_error htaken]
  rw [ofVerifier_eq limits clock htags, execute_bind_ok hfirst]
  exact execute_bind_error hlater

end

theorem ending_ofVerifier (v : Verifier) (limits : Limits) (clock : Clock) :
    Ending v limits clock (execute (ofVerifier v limits) ⟨v.world, v.symbols, clock⟩) := by
  cases htags : Tags.ofSymbols v.symbols with
  | none =>
    rw [execute_ofVerifier_of_no_tags limits clock htags]
    exact .untagged htags
  | some tags =>
    rw [ofVerifier_eq limits clock htags]
    have houtcome := firstOutcome_firstStage v limits clock
    generalize hfirst : execute (firstStage v limits) ⟨v.world, v.symbols, clock⟩ =
      result at houtcome
    cases houtcome with
    | refused _ hrule =>
      rw [execute_bind_error hfirst]
      refine .refused (List.mem_of_find?_eq_some hrule) ?_
      simpa using List.find?_some hrule
    | trips hload hderive =>
      rw [execute_bind_error hfirst]
      exact .trips ⟨Nat.zero_le _, tags, htags, hload⟩ hderive
    | @tried _ _ clock' clock'' result hload hderive hresult =>
      cases result with
      | error e =>
        cases hresult e rfl
        rw [execute_bind_error hfirst]
        exact .late (Nat.zero_le _) ⟨_, clock', ⟨Nat.zero_le _, tags, htags, hload⟩, hderive⟩
      | ok found =>
        rw [execute_bind_ok hfirst]
        obtain ⟨failed, decided⟩ := found
        dsimp only
        rw [execute_bind]
        generalize hlater : execute (addBlocks tags limits 1 v.laterBlocks) _ = result
        obtain ⟨e | later, q⟩ := result
        · exact ending_of_addBlocks htags hfirst hlater
        · have htaken : TakesIn v tags limits clock v.laterBlocks.length q :=
            ⟨_, _, later, hfirst, by rwa [List.take_length]⟩
          obtain ⟨hcompletes, hsymbols⟩ := completes_of_takesIn htags le_rfl htaken
          obtain ⟨world, symbols, clock'⟩ := q
          obtain rfl : symbols = v.stageSymbols := hsymbols
          have hdecided : Ending v limits clock
              ((outcome (failed ++ later) decided).mapError .logic,
                ⟨world, v.stageSymbols, clock'⟩) := .decided _ _ hcompletes
          dsimp only
          cases houtcome : outcome (failed ++ later) decided with
          | error _ | ok _ =>
            rw [houtcome] at hdecided
            exact hdecided

/-- Whether a limit is tripped while the rules of a stage are run. -/
def TripsAt (v : Verifier) (limits : Limits) (clock : Clock) (stage : Nat)
    (cause : RunLimitError) : Prop :=
  ∃ p, ReachesRules v limits clock stage p ∧
    (execute (derive limits (v.stageRules stage)) p).1 = .error (.runLimit cause)

/-- Whether the rules of a later block have been run to their end and one of them, the first that
    does, has put a tag where its head has a variable. -/
def TagsAt (v : Verifier) (limits : Limits) (clock : Clock) (stage : Nat) (rule : Rule) : Prop :=
  1 ≤ stage ∧ ∃ world, Completes v limits clock stage world ∧
    (v.stageRules stage).find? (fun rule => rule.BindsTag v.stageSymbols world.facts.toSet) =
      some rule

theorem execute_derive_of_trip {limits : Limits} {rules : List Rule} {p : Progress}
    {cause : RunLimitError}
    (h : (execute (derive limits rules) p).1 = .error (.runLimit cause)) :
    execute (derive limits rules) p = (.error (.runLimit cause), p) := by
  rcases execute_derive_cases limits rules p with ⟨cause', hderive⟩ | ⟨world, clock, _, hderive⟩
  · rw [hderive] at h ⊢
    cases h
    rfl
  · rw [hderive] at h
    cases h

theorem outcome_ne_invalidRule {failed : List FailedCheck}
    {decided : Option (Nat × PolicyKind)} {number : Nat} {text : String} :
    outcome failed decided ≠ .error (.invalidRule number text) := by
  rw [outcome_eq]
  split
  · split <;> nofun
  · nofun

/-- A rule that is a fault of its block has a tag in its head, or does not bind its variables. -/
theorem exists_rule_of_blockFault {tags : Tags} {symbols : SymbolTable}
    (htags : Tags.ofSymbols symbols = some tags) {number number' : Nat} {block : Block}
    {text : String}
    (h : blockFault tags symbols number block = some (.invalidRule number' text)) :
    number' = number ∧ ∃ rule ∈ block.rules, Tagged symbols rule.head ∨ ¬ rule.RangeRestricted := by
  rw [blockFault] at h
  split at h
  · cases h
  · rw [Option.map_eq_some_iff] at h
    obtain ⟨rule, hrule, hfault⟩ := h
    cases hfault
    refine ⟨rfl, rule, List.mem_of_find?_eq_some hrule, ?_⟩
    have hcondition := List.find?_some hrule
    rw [Bool.or_eq_true, Tags.mark_iff htags, Bool.not_eq_true', ← Bool.not_eq_true,
      RuleOf.isRangeRestricted_iff] at hcondition
    exact hcondition

section

variable {v : Verifier} {limits : Limits} {clock : Clock}

/-- A verification ends in the stage where a limit is tripped, and leaves what the stage has
    started from. -/
theorem execute_ofVerifier_of_tripsAt {stage : Nat} {cause : RunLimitError}
    (h : TripsAt v limits clock stage cause) :
    ∃ p, ReachesRules v limits clock stage p ∧
      execute (ofVerifier v limits) ⟨v.world, v.symbols, clock⟩ =
        (.error (.runLimit cause), p) := by
  obtain ⟨p, hreaches, hderive⟩ := h
  replace hderive := execute_derive_of_trip hderive
  refine ⟨p, hreaches, ?_⟩
  obtain ⟨hstage, tags, htags, hload⟩ := id hreaches
  cases stage with
  | zero =>
    rw [beforeRules] at hload
    rw [execute_ofVerifier limits clock htags, execute_bind_ok hload]
    exact execute_bind_error hderive
  | succ k =>
    have hblock := List.getElem?_eq_getElem hstage
    refine execute_ofVerifier_of_closeBlock htags hblock hreaches ?_
    rw [Verifier.stageRules_succ hblock] at hderive
    rw [closeBlock, execute_bind_ok (execute_get p)]
    exact execute_bind_error hderive

/-- A verification ends in the stage where a rule puts a tag, and leaves what the stage has
    started from. -/
theorem execute_ofVerifier_of_tagsAt (hrules : v.world.rules = []) {stage : Nat} {rule : Rule}
    (h : TagsAt v limits clock stage rule) :
    ∃ p clock', ReachesRules v limits clock stage p ∧
      execute (ofVerifier v limits) ⟨v.world, v.symbols, clock⟩ =
        (.error (.logic (.invalidRule stage (rule.render v.stageSymbols))),
          { p with clock := clock' }) := by
  obtain ⟨hstage, world, ⟨p, clock', hreaches, hderive⟩, hrule⟩ := h
  obtain ⟨k, rfl⟩ := Nat.exists_eq_add_of_le' hstage
  obtain ⟨hk, tags, htags, _⟩ := id hreaches
  have hblock := List.getElem?_eq_getElem hk
  have hsymbols := (atStage_of_reachesRules hrules hreaches).symbols
  refine ⟨p, clock', hreaches, execute_ofVerifier_of_closeBlock htags hblock hreaches ?_⟩
  rw [← taggingRule?_eq (Tags.ofSymbols_stageSymbols htags), ← hsymbols] at hrule
  rw [Verifier.stageRules_succ hblock] at hderive hrule
  rw [closeBlock, execute_bind_ok (execute_get p)]
  dsimp only
  rw [execute_bind_ok hderive, hrule, hsymbols]
  rfl

theorem Ending.rules_eq_nil (hrules : v.world.rules = []) {result : Except Error Nat × Progress}
    (h : Ending v limits clock result) : result.2.world.rules = [] := by
  cases h with
  | untagged _ | refused _ _ => exact hrules
  | trips hreaches _ | tagging hreaches _ _ _ =>
    exact (atStage_of_reachesRules hrules hreaches).rules
  | late _ hcompletes | faulty hcompletes _ _ _ | decided _ _ hcompletes =>
    exact (knowledge_of_completes hrules hcompletes).1

/-- A verification that a limit breaks off does so in the rules of a stage, or because the time is
    over after a stage. -/
theorem Ending.of_limit (hrules : v.world.rules = []) {cause : RunLimitError} {q : Progress}
    (h : Ending v limits clock (.error (.runLimit cause), q)) :
    (∃ stage, TripsAt v limits clock stage cause) ∨
      cause = .timeout ∧ ∃ stage ≤ v.laterBlocks.length,
        q.world.facts.toSet = v.knowledge stage := by
  generalize hresult : (.error (.runLimit cause) : Except Error Nat) = result at h
  cases h with
  | untagged _ | refused _ _ | tagging _ _ _ _ | faulty _ _ _ _ => cases hresult
  | trips hreaches hderive =>
    cases hresult
    exact .inl ⟨_, _, hreaches, by rw [hderive]⟩
  | late hstage hcompletes =>
    cases hresult
    exact .inr ⟨rfl, _, hstage, (knowledge_of_completes hrules hcompletes).2⟩
  | decided failed decided _ =>
    cases houtcome : outcome failed decided with
    | error _ | ok _ =>
      rw [houtcome] at hresult
      cases hresult

/-- Rules that a verification finds invalid put a tag where they have a variable, or are invalid as
    they are written. -/
theorem Ending.of_invalidRule (hrules : v.world.rules = []) {number : Nat} {text : String}
    {q : Progress} (h : Ending v limits clock (.error (.logic (.invalidRule number text)), q)) :
    (∃ rule, TagsAt v limits clock number rule) ∨
      ∃ rule ∈ v.stageRules number, Tagged v.stageSymbols rule.head ∨ ¬ rule.RangeRestricted := by
  generalize hresult : (.error (.logic (.invalidRule number text)) : Except Error Nat) = result at h
  cases h with
  | untagged _ | trips _ _ | late _ _ => cases hresult
  | @refused rule hrule hopen =>
    cases hresult
    exact .inr ⟨rule, List.mem_append_left _ hrule, .inr hopen⟩
  | tagging hreaches hderive htags hrule =>
    cases hresult
    rw [(atStage_of_reachesRules hrules hreaches).symbols,
      taggingRule?_eq (Tags.ofSymbols_stageSymbols htags)] at hrule
    exact .inl ⟨_, Nat.le_add_left _ _, _, ⟨_, _, hreaches, hderive⟩, hrule⟩
  | faulty _ hblock htags hfault =>
    cases hresult
    obtain ⟨rfl, hrule⟩ := exists_rule_of_blockFault (Tags.ofSymbols_stageSymbols htags) hfault
    rw [Verifier.stageRules_succ hblock]
    exact .inr hrule
  | decided failed decided _ =>
    cases houtcome : outcome failed decided with
    | error cause =>
      rw [houtcome] at hresult
      cases hresult
      exact absurd houtcome outcome_ne_invalidRule
    | ok policy =>
      rw [houtcome] at hresult
      cases hresult

end

end Verification

namespace Verifier

open Classical Verification

theorem verifyUntil_of_execute {v : Verifier} {limits : Limits} {clock : Clock}
    {result : Except Error Nat} {p : Progress}
    (h : execute (ofVerifier v limits) ⟨v.world, v.symbols, clock⟩ = (result, p)) :
    v.verifyUntil limits clock = ({ v with world := p.world, symbols := p.symbols }, result) := by
  have hverify : v.verifyUntil limits clock =
      ({ v with
          world := (execute (ofVerifier v limits) ⟨v.world, v.symbols, clock⟩).2.world
          symbols := (execute (ofVerifier v limits) ⟨v.world, v.symbols, clock⟩).2.symbols },
        (execute (ofVerifier v limits) ⟨v.world, v.symbols, clock⟩).1) := rfl
  rw [hverify, h]

/-- A verification leaves no rules in the world. If a limit is tripped while the rules of a stage
    are run, or if the rules of a block put a tag where they have a variable, it keeps what was
    known after the stage before and what is brought to the stage, and nothing that the stage has
    derived. It breaks off at no other limit, but for the time while it tries checks and policies,
    and it finds no other rules invalid, but for those that are so as they are written. -/
theorem verifyUntil_keeps_complete_stages (v : Verifier) (limits : Limits) (clock : Clock)
    (hrules : v.world.rules = []) :
    let after := (v.verifyUntil limits clock).1
    let result := (v.verifyUntil limits clock).2
    (after.world.rules = [] ∧ after.rules = v.rules ∧ after.checks = v.checks ∧
      after.policies = v.policies ∧ after.token = v.token) ∧
    (∀ stage cause, TripsAt v limits clock stage cause →
      result = .error (.runLimit cause) ∧ after.world.facts.toSet = v.stageFacts stage) ∧
    (∀ stage rule, TagsAt v limits clock stage rule →
      result = .error (.logic (.invalidRule stage (rule.render v.stageSymbols))) ∧
        after.world.facts.toSet = v.stageFacts stage) ∧
    (∀ cause, result = .error (.runLimit cause) →
      (∃ stage, TripsAt v limits clock stage cause) ∨
        cause = .timeout ∧ ∃ stage ≤ v.laterBlocks.length,
          after.world.facts.toSet = v.knowledge stage) ∧
    (∀ number text, result = .error (.logic (.invalidRule number text)) →
      (∃ rule, TagsAt v limits clock number rule) ∨
        ∃ rule ∈ v.stageRules number, Tagged v.stageSymbols rule.head ∨ ¬ rule.RangeRestricted) := by
  generalize hexecute : execute (ofVerifier v limits) ⟨v.world, v.symbols, clock⟩ = ending
  obtain ⟨result, q⟩ := ending
  have hending := ending_ofVerifier v limits clock
  rw [hexecute] at hending
  rw [verifyUntil_of_execute hexecute]
  dsimp only
  refine ⟨⟨hending.rules_eq_nil hrules, rfl, rfl, rfl, rfl⟩, ?trips, ?tags, ?limit, ?invalid⟩
  case trips =>
    intro stage cause htrips
    obtain ⟨p, hreaches, hexecute'⟩ := execute_ofVerifier_of_tripsAt htrips
    cases hexecute.symm.trans hexecute'
    exact ⟨rfl, (atStage_of_reachesRules hrules hreaches).facts⟩
  case tags =>
    intro stage rule htags
    obtain ⟨p, clock', hreaches, hexecute'⟩ := execute_ofVerifier_of_tagsAt hrules htags
    cases hexecute.symm.trans hexecute'
    exact ⟨rfl, (atStage_of_reachesRules hrules hreaches).facts⟩
  case limit =>
    rintro cause rfl
    exact hending.of_limit hrules
  case invalid =>
    rintro number text rfl
    exact hending.of_invalidRule hrules

/-- A request whose token derives a fact in its first block and would derive another one in its
    second block. -/
def steppingRequest : Verifier where
  world := ⟨.empty, []⟩
  symbols := .ofList (SymbolTable.standard.names ++ ["a", "b", "c", "d"])
  rules := []
  checks := []
  policies := []
  token := some
    { authority :=
        { symbols := .empty
          facts := [⟨7, [.integer 1]⟩]
          rules := [⟨⟨8, [.var 0]⟩, [⟨7, [.var 0]⟩], []⟩]
          checks := []
          context := none
          version := Block.currentVersion }
      blocks :=
        [{ symbols := .empty
           facts := [⟨9, [.integer 2]⟩]
           rules := [⟨⟨10, [.var 0]⟩, [⟨9, [.var 0]⟩], []⟩]
           checks := []
           context := none
           version := Block.currentVersion }]
      revocationIds := [] }

theorem steppingRequest_keeps_complete_stages :
    let after := (steppingRequest.verifyUntil { maxFacts := 3 } ⟨none⟩).1
    TripsAt steppingRequest { maxFacts := 3 } ⟨none⟩ 1 .tooManyFacts ∧
      (steppingRequest.verifyUntil { maxFacts := 3 } ⟨none⟩).2 =
        .error (.runLimit .tooManyFacts) ∧
      after.world.facts.toSet = steppingRequest.stageFacts 1 ∧
      ⟨8, [.integer 1]⟩ ∈ after.world.facts ∧ ⟨9, [.integer 2]⟩ ∈ after.world.facts ∧
      ⟨10, [.integer 2]⟩ ∉ after.world.facts := by
  have htrips : TripsAt steppingRequest { maxFacts := 3 } ⟨none⟩ 1 .tooManyFacts :=
    ⟨_, ⟨by decide, ⟨0, 1⟩, rfl, rfl⟩, rfl⟩
  obtain ⟨_, htrip, _⟩ :=
    steppingRequest.verifyUntil_keeps_complete_stages { maxFacts := 3 } ⟨none⟩ rfl
  obtain ⟨hresult, hfacts⟩ := htrip 1 .tooManyFacts htrips
  exact ⟨htrips, hresult, hfacts, by decide, by decide, by decide⟩

end Verifier

end Warrant
