import Warrant.Proofs.Lockstep
import Warrant.Proofs.Verdict

namespace Warrant

variable {f : Equiv.Perm UInt32} {g : Equiv.Perm UInt64} {left right : SymbolTable}

namespace Verification

/-- A table that has a name for identifiers of blocks stays as it is. -/
theorem execute_revocationSymbol {symbol : UInt64} {p : Progress}
    (h : p.symbols.find? "revocation_id" = some symbol) :
    execute revocationSymbol p = (.ok symbol, p) := by
  rw [revocationSymbol, execute_bind_ok (execute_get p), SymbolTable.run_intern_of_find? h]
  rfl

theorem revocationFacts_numbered (symbol : UInt64) (index : Nat) (ids : List (List UInt8)) :
    revocationFacts (g symbol) index ids =
      (revocationFacts symbol index ids).map (PredicateOf.numbered f g) := by
  induction ids generalizing index with
  | nil => rfl
  | cons id ids ih =>
    rw [revocationFacts, ih, revocationFacts, List.map_cons, PredicateOf.numbered]
    simp only [List.map_cons, List.map_nil, TermOf.numbered]

theorem settled_of_mem_revocationFacts {symbol : UInt64} {index : Nat} {ids : List (List UInt8)}
    {fact : Fact} (h : fact ∈ revocationFacts symbol index ids) : fact.Settled := by
  obtain ⟨i, id, _, rfl⟩ := mem_revocationFacts.1 h
  simp [PredicateOf.settled_iff, TermOf.Settled, TermOf.numbered]

/-- The same rule is the first one that leaves a variable unbound. -/
theorem find?_not_isRangeRestricted_numbered (rules : List Rule) :
    (rules.map (RuleOf.numbered f g)).find? (fun rule => !rule.isRangeRestricted) =
      (rules.find? fun rule => !rule.isRangeRestricted).map (RuleOf.numbered f g) := by
  rw [List.find?_map]
  simp only [Function.comp_def, RuleOf.isRangeRestricted_numbered]

/-- Two verifications that have come to the same point with exchanged numbers. -/
structure Abreast (f : Equiv.Perm UInt32) (g : Equiv.Perm UInt64) (left right : SymbolTable)
    (p p' : Progress) : Prop where
  leftSymbols : p.symbols = left
  rightSymbols : p'.symbols = right
  leftClock : p.clock = ⟨none⟩
  rightClock : p'.clock = ⟨none⟩
  leftRules : p.world.rules = []
  rightRules : p'.world.rules = []
  known : FactsExchanged f g (known p) (known p')

/-- Whether two steps end alike: by errors that differ in texts only, or abreast with values of
    which one goes with the other. -/
inductive Alike {α : Type} (f : Equiv.Perm UInt32) (g : Equiv.Perm UInt64)
    (left right : SymbolTable) (goes : α → α → Prop) :
    Except Error α × Progress → Except Error α × Progress → Prop
  | failed {e e' : Error} {q q' : Progress} (h : e.withoutTexts = e'.withoutTexts) :
      Alike f g left right goes (.error e, q) (.error e', q')
  | done {a a' : α} {q q' : Progress} (hvalue : goes a a') (h : Abreast f g left right q q') :
      Alike f g left right goes (.ok a, q) (.ok a', q')

/-- Steps that end alike go on alike where what follows does. -/
theorem Alike.bind {α β : Type} {goes : α → α → Prop} {goes' : β → β → Prop}
    {x x' : Verification α} {y y' : α → Verification β} {p p' : Progress}
    (hx : Alike f g left right goes (execute x p) (execute x' p'))
    (hy : ∀ a a' q q', goes a a' → Abreast f g left right q q' →
      Alike f g left right goes' (execute (y a) q) (execute (y' a') q')) :
    Alike f g left right goes' (execute (x >>= y) p) (execute (x' >>= y') p') := by
  rw [execute_bind, execute_bind]
  generalize execute x p = result at hx ⊢
  generalize execute x' p' = result' at hx ⊢
  cases hx with
  | failed h => exact .failed h
  | done hvalue h => exact hy _ _ _ _ hvalue h

namespace Abreast

variable {p p' : Progress} (h : Abreast f g left right p p')
  (hmoved : SymbolTable.Moved g left right)
include h

theorem addFacts {facts facts' : List Fact}
    (hfacts : FactsExchanged f g {fact | fact ∈ facts} {fact | fact ∈ facts'}) :
    Alike f g left right (fun _ _ => True) (execute (Verification.addFacts facts) p)
      (execute (Verification.addFacts facts') p') := by
  rw [execute_addFacts, execute_addFacts]
  refine .done trivial ⟨h.leftSymbols, h.rightSymbols, h.leftClock, h.rightClock,
    (rules_foldl_addFact _ _).trans h.leftRules, (rules_foldl_addFact _ _).trans h.rightRules, ?_⟩
  rw [Verification.known, Verification.known, toSet_foldl_addFact, toSet_foldl_addFact]
  exact h.known.union hfacts

include hmoved

/-- Deriving facts stops by the same limit or comes to the same facts. -/
theorem derive (limits : Limits) {rules rules' : List Rule}
    (hrules : RulesExchanged f g rules rules') :
    Alike f g left right
      (fun world world' => world.rules = [] ∧ world'.rules = [] ∧
        FactsExchanged f g world.facts.toSet world'.facts.toSet)
      (execute (Verification.derive limits rules) p)
      (execute (Verification.derive limits rules') p') := by
  have hendless : p.clock.readings = none := by rw [h.leftClock]
  obtain ⟨houtcome, hfacts⟩ : (derivation limits rules' p').outcome =
        (derivation limits rules p).outcome ∧
      FactsExchanged f g (derivation limits rules p).facts.toSet
        (derivation limits rules' p').facts.toSet := by
    rw [derivation, derivation, h.leftSymbols, h.rightSymbols, h.rightClock, ← h.leftClock]
    exact h.known.saturate hmoved hrules limits _ hendless
  cases hleft : (derivation limits rules p).outcome with
  | error cause =>
    rw [execute_derive_error h.leftRules hleft,
      execute_derive_error h.rightRules (houtcome.trans hleft)]
    exact .failed rfl
  | ok clock =>
    obtain rfl := clock_of_saturate_ok hendless hleft
    rw [execute_derive_ok h.leftRules hleft, execute_derive_ok h.rightRules (houtcome.trans hleft)]
    refine .done ⟨rfl, rfl, hfacts⟩ ?_
    exact ⟨h.leftSymbols, h.rightSymbols, h.leftClock, h.leftClock, h.leftRules, h.rightRules,
      h.known⟩

omit hmoved in
theorem setWorld {world world' : World} (hrules : world.rules = []) (hrules' : world'.rules = [])
    (hworld : FactsExchanged f g world.facts.toSet world'.facts.toSet) :
    Alike f g left right (fun _ _ => True) (execute (Verification.setWorld world) p)
      (execute (Verification.setWorld world') p') := by
  rw [execute_setWorld, execute_setWorld]
  exact .done trivial ⟨h.leftSymbols, h.rightSymbols, h.leftClock, h.rightClock, hrules, hrules',
    hworld⟩

/-- The same checks fail. -/
theorem failedChecks {checks : List Check}
    (hchecks : ∀ check ∈ checks, ∀ query ∈ check.queries, query.Settled) (block : Option Nat) :
    Alike f g left right SameFailures
      (execute (Verification.failedChecks block 0 checks) p)
      (execute (Verification.failedChecks block 0 (checks.map (CheckOf.numbered f g))) p') := by
  rw [(observes_failing p block checks).of_endless (by rw [h.leftClock]),
    (observes_failing p' block _).of_endless (by rw [h.rightClock]), h.leftSymbols, h.rightSymbols]
  exact .done (failing_numbered hmoved h.known hchecks block) h

/-- The same policy matches first. -/
theorem decision {policies : List Policy}
    (hpolicies : ∀ policy ∈ policies, ∀ query ∈ policy.queries, query.Settled) :
    Alike f g left right Eq
      (execute (Verification.decision 0 policies) p)
      (execute (Verification.decision 0 (policies.map (PolicyOf.numbered f g))) p') := by
  rw [(observes_firstPolicy p policies).of_endless (by rw [h.leftClock]),
    (observes_firstPolicy p' _).of_endless (by rw [h.rightClock]), h.leftSymbols, h.rightSymbols]
  exact .done (firstPolicy_numbered hmoved h.known hpolicies).symm h

/-- A block is taken in alike, with the same checks failing. -/
theorem addBlock {tags tags' : Tags} (htags : Tags.ofSymbols left = some tags)
    (htags' : Tags.ofSymbols right = some tags') (limits : Limits) (number : Nat) {block : Block}
    (hblock : block.Settled) :
    Alike f g left right SameFailures
      (execute (Verification.addBlock tags limits number block) p)
      (execute (Verification.addBlock tags' limits number (block.numbered f g)) p') := by
  rw [Verification.addBlock, execute_bind_ok (execute_get p), Verification.addBlock,
    execute_bind_ok (execute_get p')]
  dsimp only
  have hfault := blockFault_numbered (f := f) hmoved htags htags' number block
  rw [h.leftSymbols, h.rightSymbols]
  cases hleft : blockFault tags left number block with
  | some fault =>
    rw [hleft, Option.map_some, Option.map_eq_some_iff] at hfault
    obtain ⟨fault', hright, hsame⟩ := hfault
    rw [hright]
    exact .failed (congrArg Error.logic hsame.symm)
  | none =>
    rw [hleft, Option.map_none, Option.map_eq_none_iff] at hfault
    rw [hfault]
    refine (h.addFacts (.of_settled hblock.facts)).bind fun _ _ q q' _ hadded => ?_
    refine (hadded.derive hmoved limits (.of_settled hblock.rules)).bind ?_
    rintro world world' r r' ⟨hrules, hrules', hworld⟩ hderived
    have htagging := taggingRule?_numbered hmoved htags htags' hworld hblock.rules
    change taggingRule? tags' _ world' (block.numbered f g).rules = _ at htagging
    rw [htagging]
    cases taggingRule? tags left world block.rules with
    | some rule => exact .failed (by simp only [Error.withoutTexts, LogicError.withoutTexts])
    | none =>
      refine (hderived.setWorld hrules hrules' hworld).bind fun _ _ s s' _ hset => ?_
      exact hset.failedChecks hmoved hblock.checks _

/-- Blocks are taken in alike one after another. -/
theorem addBlocks {tags tags' : Tags} (htags : Tags.ofSymbols left = some tags)
    (htags' : Tags.ofSymbols right = some tags') (limits : Limits) (number : Nat)
    {blocks : List Block} (hblocks : ∀ block ∈ blocks, block.Settled) :
    Alike f g left right SameFailures
      (execute (Verification.addBlocks tags limits number blocks) p)
      (execute (Verification.addBlocks tags' limits number (blocks.map (Block.numbered f g)))
        p') := by
  induction blocks generalizing number p p' with
  | nil => exact .done rfl h
  | cons block blocks ih =>
    obtain ⟨hblock, hblocks⟩ := List.forall_mem_cons.1 hblocks
    rw [List.map_cons, Verification.addBlocks, Verification.addBlocks]
    refine (h.addBlock hmoved htags htags' limits number hblock).bind ?_
    intro failed failed' q q' hfailed hadded
    refine (ih hadded (number + 1) hblocks).bind ?_
    intro others others' r r' hothers hdone
    exact .done (hfailed.append hothers) hdone

omit hmoved in
/-- The first block is taken in alike, and the identifiers of all blocks. -/
theorem addAuthority {symbol : UInt64} (hsymbol : left.find? "revocation_id" = some symbol)
    (hmoved : SymbolTable.Moved g left right) {token : LoadedToken}
    (htoken : token.authority.Settled) :
    Alike f g left right (fun _ _ => True) (execute (Verification.addAuthority token) p)
      (execute (Verification.addAuthority (token.numbered f g)) p') := by
  have hsymbol' : right.find? "revocation_id" = some (g symbol) := by
    rw [hmoved.find, hsymbol, Option.map_some]
  rw [Verification.addAuthority, execute_bind_ok (execute_get p), Verification.addAuthority,
    execute_bind_ok (execute_get p'), LoadedToken.numbered, Block.numbered]
  dsimp only
  rw [find?_not_isRangeRestricted_numbered]
  cases token.authority.rules.find? fun rule => !rule.isRangeRestricted with
  | some rule => exact .failed (by simp only [Error.withoutTexts, LogicError.withoutTexts])
  | none =>
    refine (h.addFacts (.of_settled htoken.facts)).bind fun _ _ q q' _ hadded => ?_
    rw [← hadded.leftSymbols] at hsymbol
    rw [← hadded.rightSymbols] at hsymbol'
    rw [execute_bind_ok (execute_revocationSymbol hsymbol),
      execute_bind_ok (execute_revocationSymbol hsymbol'), revocationFacts_numbered]
    exact hadded.addFacts (.of_settled fun fact => settled_of_mem_revocationFacts)

end Abreast

end Verification

/-- Two verifiers that have been told the same with exchanged numbers, and the facts and rules in
    any order. -/
structure Verifier.Resembles (f : Equiv.Perm UInt32) (g : Equiv.Perm UInt64) (v v' : Verifier) :
    Prop where
  symbols : SymbolTable.Moved g v.symbols v'.symbols
  revocation : "revocation_id" ∈ v.symbols.names
  facts : FactsExchanged f g v.world.facts.toSet v'.world.facts.toSet
  leftRules : v.world.rules = []
  rightRules : v'.world.rules = []
  rules : RulesExchanged f g v.rules v'.rules
  checks : v'.checks = v.checks.map (CheckOf.numbered f g)
  policies : v'.policies = v.policies.map (PolicyOf.numbered f g)
  token : v'.token = v.token.map (LoadedToken.numbered f g)
  settledChecks : ∀ check ∈ v.checks, ∀ query ∈ check.queries, query.Settled
  settledPolicies : ∀ policy ∈ v.policies, ∀ query ∈ policy.queries, query.Settled
  settledToken : ∀ token ∈ v.token, ∀ block ∈ token.authority :: token.blocks, block.Settled

namespace Verifier.Resembles

variable {v v' : Verifier} (h : v.Resembles f g v')
include h

theorem authorityChecks : v'.authorityChecks = v.authorityChecks.map (CheckOf.numbered f g) := by
  rw [Verifier.authorityChecks, Verifier.authorityChecks, h.token]
  cases v.token <;> rfl

theorem laterBlocks : v'.laterBlocks = v.laterBlocks.map (Block.numbered f g) := by
  rw [Verifier.laterBlocks, Verifier.laterBlocks, h.token]
  cases v.token <;> rfl

theorem authorityRules : v'.authorityRules = v.authorityRules.map (RuleOf.numbered f g) := by
  rw [Verifier.authorityRules, Verifier.authorityRules, h.token]
  cases v.token <;> rfl

theorem settledAuthority {token : LoadedToken} (htoken : v.token = some token) :
    token.authority.Settled := h.settledToken token htoken _ List.mem_cons_self

theorem settledBlocks : ∀ block ∈ v.laterBlocks, block.Settled := by
  rw [Verifier.laterBlocks]
  cases htoken : v.token with
  | none => simp
  | some token => exact fun block hblock =>
      h.settledToken token htoken block (List.mem_cons_of_mem _ hblock)

theorem settledAuthorityChecks :
    ∀ check ∈ v.authorityChecks, ∀ query ∈ check.queries, query.Settled := by
  rw [Verifier.authorityChecks]
  cases htoken : v.token with
  | none => simp
  | some token => exact (h.settledAuthority htoken).checks

theorem firstRules : RulesExchanged f g v.firstRules v'.firstRules := by
  rw [Verifier.firstRules, Verifier.firstRules, h.authorityRules]
  refine Exchanged.append (RulesExchanged.of_settled ?_) h.rules
  rw [Verifier.authorityRules]
  cases htoken : v.token with
  | none => simp
  | some token => exact (h.settledAuthority htoken).rules

open Verification in
theorem addAuthority {p p' : Progress} (hstart : Abreast f g v.symbols v'.symbols p p') :
    Alike f g v.symbols v'.symbols (fun _ _ => True)
      (execute (v.token.forM Verification.addAuthority) p)
      (execute (v'.token.forM Verification.addAuthority) p') := by
  rw [h.token]
  cases htoken : v.token with
  | none => exact .done trivial hstart
  | some token =>
    obtain ⟨r, hr⟩ := SymbolTable.exists_find?_of_mem h.revocation
    exact hstart.addAuthority hr h.symbols (h.settledAuthority htoken)

end Verifier.Resembles

namespace Verification

/-- Verifications of verifiers that resemble each other end alike. -/
theorem alike_ofVerifier {v v' : Verifier} (h : v.Resembles f g v') (limits : Limits) :
    Alike f g v.symbols v'.symbols Eq
      (execute (ofVerifier v limits) ⟨v.world, v.symbols, ⟨none⟩⟩)
      (execute (ofVerifier v' limits) ⟨v'.world, v'.symbols, ⟨none⟩⟩) := by
  have hmoved := h.symbols
  have htags' := Tags.ofSymbols_moved hmoved
  cases htags : Tags.ofSymbols v.symbols with
  | none =>
    rw [htags] at htags'
    rw [execute_ofVerifier_of_no_tags limits _ htags, execute_ofVerifier_of_no_tags limits _ htags']
    exact .failed rfl
  | some tags =>
    rw [htags] at htags'
    rw [execute_ofVerifier limits _ htags, execute_ofVerifier limits _ htags']
    have hstart : Abreast f g v.symbols v'.symbols ⟨v.world, v.symbols, ⟨none⟩⟩
        ⟨v'.world, v'.symbols, ⟨none⟩⟩ :=
      ⟨rfl, rfl, rfl, rfl, h.leftRules, h.rightRules, h.facts⟩
    refine Alike.bind (h.addAuthority hstart) fun _ _ q q' _ hloaded => ?_
    refine (hloaded.derive hmoved limits h.firstRules).bind ?_
    rintro world world' r r' ⟨hrules, hrules', hworld⟩ hderived
    refine (hderived.setWorld hrules hrules' hworld).bind fun _ _ s s' _ hset => ?_
    rw [h.checks, h.policies, h.authorityChecks, h.laterBlocks]
    refine (hset.failedChecks hmoved h.settledChecks none).bind ?_
    intro here here' t t' hhere hstep
    refine (hstep.failedChecks hmoved h.settledAuthorityChecks (some 0)).bind ?_
    intro there there' u u' hthere hstep
    refine (hstep.decision hmoved h.settledPolicies).bind ?_
    rintro decided _ w w' rfl hstep
    refine (hstep.addBlocks hmoved htags htags' limits 1 h.settledBlocks).bind ?_
    intro later later' x x' hlater hdone
    have houtcome := outcome_withoutTexts ((hhere.append hthere).append hlater) decided
    generalize outcome (here ++ there ++ later) decided = result at houtcome ⊢
    generalize outcome (here' ++ there' ++ later') decided = result' at houtcome ⊢
    rcases result with cause | policy
    · rcases result' with cause' | policy'
      · exact .failed (congrArg Error.logic (Except.error.inj houtcome))
      · cases houtcome
    · rcases result' with cause' | policy'
      · cases houtcome
      · cases houtcome
        exact .done rfl hdone

end Verification

/-- Verifiers that resemble each other come to the same verdict, and only texts may differ. -/
theorem Verifier.Resembles.verifyUntil_eq {v v' : Verifier} (h : v.Resembles f g v')
    (limits : Limits) :
    (v.verifyUntil limits ⟨none⟩).2.mapError Error.withoutTexts =
      (v'.verifyUntil limits ⟨none⟩).2.mapError Error.withoutTexts := by
  have hrun (v : Verifier) : (v.verifyUntil limits ⟨none⟩).2 =
      (execute (Verification.ofVerifier v limits) ⟨v.world, v.symbols, ⟨none⟩⟩).1 := rfl
  rw [hrun, hrun]
  have halike := Verification.alike_ofVerifier h limits
  generalize execute (Verification.ofVerifier v limits) ⟨v.world, v.symbols, ⟨none⟩⟩ = result
    at halike ⊢
  generalize execute (Verification.ofVerifier v' limits) ⟨v'.world, v'.symbols, ⟨none⟩⟩ = result'
    at halike ⊢
  cases halike with
  | failed h => exact congrArg Except.error h
  | done hvalue _ => exact congrArg Except.ok hvalue

end Warrant
