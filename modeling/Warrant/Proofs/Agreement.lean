import Warrant.Proofs.Stages

namespace Warrant.Verification

open Classical

/-- Whether a step comes to what it should, unless it trips a limit. -/
def Agrees {α : Type} (expected : Except LogicError α) (result : Except Error α) : Prop :=
  (∃ cause, result = .error (.runLimit cause)) ∨ result = expected.mapError .logic

/-- What is found out from an observed value agrees where it agrees for that value. -/
theorem Agrees.of_observes {α β : Type} {p : Progress} {x : Verification α} {a : α}
    {f : α → Verification β} {expected : Except LogicError β}
    (hx : Observes p a (execute x p))
    (hf : ∀ clock, Agrees expected (execute (f a) { p with clock := clock }).1) :
    Agrees expected (execute (x >>= f) p).1 :=
  hx.bind_cases (motive := fun result => Agrees expected result.1) hf
    fun _ => .inl ⟨.timeout, rfl⟩

theorem knowledge_succ {v : Verifier} {k : Nat} {block : Block}
    (hblock : v.laterBlocks[k]? = some block) :
    v.knowledge (k + 1) =
      leastModel v.stageSymbols block.rules (v.knowledge k ∪ {fact | fact ∈ block.facts}) := by
  rw [Verifier.knowledge, hblock]

/-- Taking in the remaining blocks ends in the first defect of them or in their checks that
    fail. -/
theorem agrees_addBlocks {v : Verifier} {tags : Tags}
    (htags : Tags.ofSymbols v.stageSymbols = some tags) (limits : Limits) (rest : List Block)
    {k : Nat} (hrest : v.laterBlocks.drop k = rest) {world : World} (hrules : world.rules = [])
    (hknown : world.facts.toSet = v.knowledge k) (clock : Clock) :
    Agrees
      (match (rest.zipIdx k).findSome? fun (block, k) =>
          blockDefect v.stageSymbols (k + 1) block (v.knowledge (k + 1)) with
        | some defect => .error defect
        | none => .ok ((rest.zipIdx k).flatMap fun (block, k) =>
            failing v.stageSymbols (v.knowledge (k + 1)) (some (k + 1)) block.checks))
      (execute (addBlocks tags limits (k + 1) rest) ⟨world, v.stageSymbols, clock⟩).1 := by
  induction rest generalizing k world clock with
  | nil => exact .inr rfl
  | cons block rest ih =>
    have hblock : v.laterBlocks[k]? = some block := by
      rw [← List.head?_drop, hrest, List.head?_cons]
    have hrest' : v.laterBlocks.drop (k + 1) = rest := by
      rw [← List.tail_drop, hrest, List.tail_cons]
    have hbase : known ⟨world, v.stageSymbols, clock⟩ = v.knowledge k := hknown
    rw [List.zipIdx_cons, List.findSome?_cons, List.flatMap_cons, addBlocks]
    dsimp only
    have hadded := blockOutcome_addBlock tags limits (k + 1) block ⟨world, v.stageSymbols, clock⟩
      hrules
    generalize hresult : execute (addBlock tags limits (k + 1) block)
      ⟨world, v.stageSymbols, clock⟩ = result at hadded
    cases hadded with
    | faulty hfault =>
      rw [execute_bind_error hresult, blockDefect_of_fault htags hfault]
      exact .inr rfl
    | limit _ =>
      rw [execute_bind_error hresult]
      exact .inl ⟨_, rfl⟩
    | tagging hfault hworld hrule =>
      rw [hbase, ← knowledge_succ hblock] at hworld
      rw [execute_bind_error hresult, ← hworld, blockDefect_of_no_fault htags hfault, hrule]
      exact .inr rfl
    | late _ _ _ _ =>
      rw [execute_bind_error hresult]
      exact .inl ⟨_, rfl⟩
    | @done world' clock' hcleared hfault hworld htagging =>
      rw [hbase, ← knowledge_succ hblock] at hworld
      have hdefect : blockDefect v.stageSymbols (k + 1) block (v.knowledge (k + 1)) = none := by
        rw [← hworld, blockDefect_of_no_fault htags hfault, htagging, Option.map_none]
      rw [execute_bind_ok hresult, hdefect]
      dsimp only
      have hothers := ih hrest' hcleared hworld clock'
      rw [execute_bind]
      generalize execute (addBlocks tags limits (k + 1 + 1) rest)
        ⟨world', v.stageSymbols, clock'⟩ = result at hothers ⊢
      obtain ⟨others, q⟩ := result
      generalize (rest.zipIdx (k + 1)).findSome? _ = defect? at hothers ⊢
      rw [hworld]
      rcases hothers with ⟨cause, rfl⟩ | hothers
      · exact .inl ⟨cause, rfl⟩
      · subst hothers
        cases defect? with
        | some defect => exact .inr rfl
        | none => exact .inr rfl

/-- The outcome of the whole from what its stages have found. -/
theorem outcome_eq (failed : List FailedCheck) (decided : Option (Nat × PolicyKind)) :
    outcome failed decided =
      if failed = [] then
        match decided with
        | some (policy, .allow) => .ok policy
        | some (policy, .deny) => .error (.denied policy)
        | none => .error .noMatchingPolicy
      else .error (.failedChecks failed) := by
  cases failed with
  | nil =>
    rcases decided with _ | ⟨policy, _ | _⟩
    · rfl
    · rfl
    · rfl
  | cons first rest => rfl

theorem agrees_ofVerifier {v : Verifier} {tags : Tags} (limits : Limits) (clock : Clock)
    (htags : Tags.ofSymbols v.symbols = some tags) (hrules : v.world.rules = []) :
    Agrees v.decision (execute (ofVerifier v limits) ⟨v.world, v.symbols, clock⟩).1 := by
  rw [execute_ofVerifier limits clock htags, Verifier.decision]
  have hload := loadOutcome_addAuthority v clock
  generalize hresult : execute (v.token.forM addAuthority) ⟨v.world, v.symbols, clock⟩ =
    result at hload
  cases hload with
  | refused hrule =>
    rw [execute_bind_error hresult, hrule]
    exact .inr rfl
  | @loaded world hrestricted hkept hfacts =>
    rw [execute_bind_ok hresult, hrestricted]
    dsimp only
    have hstart : (⟨world, v.stageSymbols, clock⟩ : Progress).world.rules = [] :=
      hkept.trans hrules
    rcases derive_cases limits v.firstRules hstart with
      ⟨cause, hderive⟩ | ⟨world', clock', hderive, hcleared, hworld⟩
    · rw [execute_bind_error hderive]
      exact .inl ⟨cause, rfl⟩
    · have hknown : world'.facts.toSet = v.knowledge 0 := by
        rw [hworld, known, hfacts, Verifier.knowledge]
      rw [execute_bind_ok hderive, execute_bind_ok (execute_setWorld _ _)]
      refine .of_observes (observes_failing _ none v.checks) fun clock => ?_
      refine .of_observes (observes_failing _ (some 0) v.authorityChecks) fun clock => ?_
      refine .of_observes (observes_firstPolicy _ v.policies) fun clock => ?_
      have hlater := agrees_addBlocks (Tags.ofSymbols_stageSymbols htags) limits v.laterBlocks
        List.drop_zero hcleared hknown clock
      rw [execute_bind]
      generalize execute (addBlocks tags limits 1 v.laterBlocks) _ = result at hlater ⊢
      obtain ⟨failed, q⟩ := result
      have hdefect : (v.laterBlocks.zipIdx 0).findSome? (fun (block, k) =>
          blockDefect v.stageSymbols (k + 1) block (v.knowledge (k + 1))) = v.firstDefect := rfl
      rw [hdefect] at hlater
      rcases hlater with ⟨cause, rfl⟩ | hlater
      · exact .inl ⟨cause, rfl⟩
      · subst hlater
        cases v.firstDefect with
        | some defect => exact .inr rfl
        | none =>
          dsimp only [Except.mapError, known]
          have hfailures : failing v.stageSymbols (v.knowledge 0) none v.checks ++
              failing v.stageSymbols (v.knowledge 0) (some 0) v.authorityChecks ++
              v.laterBlocks.zipIdx.flatMap (fun (block, k) =>
                failing v.stageSymbols (v.knowledge (k + 1)) (some (k + 1)) block.checks) =
              v.failures := rfl
          rw [hknown, hfailures, outcome_eq]
          refine .inr ?_
          generalize (if v.failures = [] then _ else _ : Except LogicError Nat) = decided
          cases decided with
          | error cause => rfl
          | ok policy => rfl

end Warrant.Verification

namespace Warrant.Verifier

/-- Verification takes the decision that its stages define, whenever no stage trips a limit and
    the clock does not stop. -/
theorem verifyUntil_eq_decision (v : Verifier) (limits : Limits) (clock : Clock)
    (hauthority : "authority" ∈ v.symbols.names) (hambient : "ambient" ∈ v.symbols.names)
    (hrules : v.world.rules = [])
    (hlimits : ∀ cause, (v.verifyUntil limits clock).2 ≠ .error (.runLimit cause)) :
    (v.verifyUntil limits clock).2 = v.decision.mapError .logic := by
  obtain ⟨tags, htags⟩ := Verification.Tags.exists_ofSymbols hauthority hambient
  rcases Verification.agrees_ofVerifier limits clock htags hrules with ⟨cause, hcause⟩ | hagrees
  · exact absurd hcause (hlimits cause)
  · exact hagrees

theorem verifyUntil_readRequest_eq_decision :
    (readRequest.verifyUntil {} ⟨none⟩).2 = readRequest.decision.mapError .logic ∧
      readRequest.decision = .ok 0 := by
  have hresult : (readRequest.verifyUntil {} ⟨none⟩).2 = .ok 0 := by decide
  have hdecision := verifyUntil_eq_decision readRequest {} ⟨none⟩ (by decide) (by decide) rfl
    fun cause hcause => by cases hresult.symm.trans hcause
  refine ⟨hdecision, ?_⟩
  rw [hresult] at hdecision
  generalize readRequest.decision = decided at hdecision
  cases decided with
  | error cause => cases hdecision
  | ok policy => exact congrArg Except.ok (Except.ok.inj hdecision).symm

end Warrant.Verifier
