import Warrant.Proofs.Append
import Warrant.Proofs.Lockstep
import Warrant.Proofs.Operations
import Warrant.Proofs.Sealing
import Warrant.Signature.Ed25519

namespace Warrant

open Classical

/-- Two verifiers of which the second differs only in symbols, in revocation facts, of which the
    first knows nothing, and in blocks that come after those of the first. -/
structure Continues (base : SymbolTable) (v v' : Verifier) : Prop where
  fork : Fork base v.stageSymbols v'.stageSymbols v.revocation.1 v'.revocation.1
  given : Mirrors base v.revocation.1 v'.revocation.1 v.givenFacts v'.givenFacts
  rules : v'.firstRules = v.firstRules
  authorityRules : v'.authorityRules = v.authorityRules
  checks : v'.checks = v.checks
  authorityChecks : v'.authorityChecks = v.authorityChecks
  policies : v'.policies = v.policies
  blocks : ∃ rest, v'.laterBlocks = v.laterBlocks ++ rest
  rulesOver : ∀ rule ∈ v.firstRules, RuleOver base rule
  checksOver : ∀ check ∈ v.checks ++ v.authorityChecks, ∀ query ∈ check.queries,
    QueryOver base query
  policiesOver : ∀ policy ∈ v.policies, ∀ query ∈ policy.queries, QueryOver base query
  blocksOver : ∀ block ∈ v.laterBlocks, block.Over (fun _ => True) (base.Has fun _ => True)
    (base.Has (· ≠ "revocation_id"))

namespace Verification

/-- What a verification with further blocks allows is allowed without them. -/
theorem ofVerifier_eq_ok_of_continues {base : SymbolTable} {v v' : Verifier}
    (h : Continues base v v') (hrules : v.world.rules = []) (hrules' : v'.world.rules = [])
    {tags : Tags} (htags : Tags.ofSymbols v.symbols = some tags)
    (htags' : Tags.ofSymbols v'.symbols = some tags) {limits : Limits} {clock clock' : Clock}
    (hclock : clock.readings = none) {policy : Nat}
    (hok : (execute (ofVerifier v' limits) ⟨v'.world, v'.symbols, clock'⟩).1 = .ok policy) :
    (execute (ofVerifier v limits) ⟨v.world, v.symbols, clock⟩).1 = .ok policy := by
  obtain ⟨q', hrun⟩ : ∃ q', execute (ofVerifier v' limits) ⟨v'.world, v'.symbols, clock'⟩ =
      (.ok policy, q') := ⟨_, Prod.ext hok rfl⟩
  rw [execute_ofVerifier limits clock' htags'] at hrun
  rw [execute_ofVerifier limits clock htags]
  obtain ⟨_, loaded', hload', hrun⟩ := exists_of_execute_bind hrun
  obtain ⟨first', derived', hderive', hrun⟩ := exists_of_execute_bind hrun
  rw [execute_bind_ok (execute_setWorld _ _)] at hrun
  obtain ⟨here, s₁, hhere', hrun⟩ := exists_of_execute_bind hrun
  obtain ⟨there, s₂, hthere', hrun⟩ := exists_of_execute_bind hrun
  obtain ⟨decided, s₃, hdecide', hrun⟩ := exists_of_execute_bind hrun
  obtain ⟨later, s₄, hlater', hrun⟩ := exists_of_execute_bind hrun
  have houtcome : outcome (here ++ there ++ later) decided = .ok policy := by
    cases houtcome : outcome (here ++ there ++ later) decided with
    | error cause =>
      rw [houtcome] at hrun
      cases hrun
    | ok other =>
      rw [houtcome] at hrun
      cases hrun
      rfl
  obtain ⟨hfailed, rfl⟩ := outcome_eq_ok houtcome
  rw [List.append_eq_nil_iff, List.append_eq_nil_iff] at hfailed
  obtain ⟨⟨rfl, rfl⟩, rfl⟩ := hfailed
  have hloaded' := loadOutcome_addAuthority v' clock'
  rw [hload'] at hloaded'
  have hloaded := loadOutcome_addAuthority v clock
  generalize hload : execute (v.token.forM addAuthority) ⟨v.world, v.symbols, clock⟩ =
    result at hloaded
  cases hloaded' with
  | @loaded world' hrestricted' hkept' hfacts' =>
  cases hloaded with
  | refused hrule =>
    rw [← h.authorityRules, hrestricted'] at hrule
    cases hrule
  | @loaded world _ hkept hfacts =>
    have hstart : InStep base v.stageSymbols v'.stageSymbols v.revocation.1 v'.revocation.1
        ⟨world, v.stageSymbols, clock⟩ ⟨world', v'.stageSymbols, clock'⟩ := by
      refine ⟨rfl, rfl, hclock, hkept.trans hrules, hkept'.trans hrules', ?_⟩
      rw [known, known, hfacts, hfacts']
      exact h.given
    rw [h.rules] at hderive'
    rw [h.checks] at hhere'
    rw [h.authorityChecks] at hthere'
    rw [h.policies] at hdecide'
    obtain ⟨rest, hrest⟩ := h.blocks
    rw [hrest] at hlater'
    obtain ⟨hhereOver, hthereOver⟩ := List.forall_mem_append.1 h.checksOver
    obtain ⟨derived, hderive, hderived⟩ := hstart.derive h.fork h.rulesOver hderive'
    obtain ⟨hhere, hhereStep⟩ := hderived.failedChecks h.fork hhereOver hhere'
    obtain ⟨hthere, hthereStep⟩ := hhereStep.failedChecks h.fork hthereOver hthere'
    obtain ⟨hdecide, hdecideStep⟩ := hthereStep.decision h.fork h.policiesOver hdecide'
    obtain ⟨q, hlater⟩ := hdecideStep.addBlocks h.fork h.blocksOver hlater'
    rw [execute_bind_ok hload, execute_bind_ok hderive, execute_bind_ok (execute_setWorld _ _),
      execute_bind_ok hhere, execute_bind_ok hthere, execute_bind_ok hdecide,
      execute_bind_ok hlater]
    rfl

end Verification

namespace Verifier

variable {scheme : Scheme}

/-- Whether the symbols in a verifier stand for strings, and no predicate of its rules, checks or
    policies is named as revocation facts are. -/
structure Plain (v : Verifier) : Prop where
  facts : ∀ fact ∈ v.world.facts, fact.Over
    (fun name => v.symbols.ResolvesTo (fun _ => True) name.toUInt64)
    (v.symbols.ResolvesTo fun _ => True) (v.symbols.ResolvesTo fun _ => True)
  rules : ∀ rule ∈ v.rules, rule.Over
    (fun name => v.symbols.ResolvesTo (fun _ => True) name.toUInt64)
    (v.symbols.ResolvesTo fun _ => True) (v.symbols.ResolvesTo (· ≠ "revocation_id"))
    (v.symbols.ResolvesTo (· ≠ "revocation_id"))
  queries : ∀ query ∈ v.checks.flatMap CheckOf.queries ++ v.policies.flatMap PolicyOf.queries,
    query.Over (fun name => v.symbols.ResolvesTo (fun _ => True) name.toUInt64)
      (v.symbols.ResolvesTo fun _ => True) (v.symbols.ResolvesTo fun _ => True)
      (v.symbols.ResolvesTo (· ≠ "revocation_id"))

theorem plain_iff {v : Verifier} :
    v.Plain ↔
      (∀ fact ∈ v.world.facts.facts, fact.Over
        (fun name => v.symbols.ResolvesTo (fun _ => True) name.toUInt64)
        (v.symbols.ResolvesTo fun _ => True) (v.symbols.ResolvesTo fun _ => True)) ∧
      (∀ rule ∈ v.rules, rule.Over
        (fun name => v.symbols.ResolvesTo (fun _ => True) name.toUInt64)
        (v.symbols.ResolvesTo fun _ => True) (v.symbols.ResolvesTo (· ≠ "revocation_id"))
        (v.symbols.ResolvesTo (· ≠ "revocation_id"))) ∧
      ∀ query ∈ v.checks.flatMap CheckOf.queries ++ v.policies.flatMap PolicyOf.queries,
        query.Over (fun name => v.symbols.ResolvesTo (fun _ => True) name.toUInt64)
          (v.symbols.ResolvesTo fun _ => True) (v.symbols.ResolvesTo fun _ => True)
          (v.symbols.ResolvesTo (· ≠ "revocation_id")) :=
  ⟨fun h => ⟨h.facts, h.rules, h.queries⟩, fun h => ⟨h.1, h.2.1, h.2.2⟩⟩

instance (v : Verifier) : Decidable v.Plain := decidable_of_iff _ plain_iff.symm

/-- The revocation facts of a token with one more block are those of the token and one more. -/
theorem mirrors_broughtFacts {base : SymbolTable} {r r' : UInt64} {loaded loaded' : LoadedToken}
    {known : Set Fact} {id : List UInt8} {left right : SymbolTable}
    (hfork : Fork base left right r r') (hknown : ∀ fact ∈ known, FactOver base fact)
    (hfacts : ∀ fact ∈ loaded.authority.facts, FactOver base fact)
    (hauthority : loaded'.authority = loaded.authority)
    (hids : loaded'.revocationIds = loaded.revocationIds ++ [id]) :
    Mirrors base r r' (known ∪ loaded.broughtFacts r) (known ∪ loaded'.broughtFacts r') := by
  have hmore {index : Nat} {i : List UInt8} (h : loaded.revocationIds[index]? = some i) :
      loaded'.revocationIds[index]? = some i := by
    rw [hids, List.getElem?_append_left (List.getElem?_eq_some_iff.1 h).1]
    exact h
  refine ⟨fun fact hr hr' => or_congr_right ?_, fun fact hfact => ?_, fun fact hfact => ?_⟩
  · rw [LoadedToken.broughtFacts, LoadedToken.broughtFacts, hauthority]
    refine or_congr_right ⟨?_, ?_⟩
    · rintro ⟨_, _, _, rfl⟩
      exact absurd rfl hr
    · rintro ⟨_, _, _, rfl⟩
      exact absurd rfl hr'
  · rcases hfact with hfact | hfact | ⟨index, i, hi, rfl⟩
    · rw [hfork.exchanged_eq (hknown fact hfact)]
      exact .inl hfact
    · rw [hfork.exchanged_eq (hfacts fact hfact)]
      exact .inr (.inl (hauthority ▸ hfact))
    · refine .inr (.inr ⟨index, i, hmore hi, ?_⟩)
      rw [PredicateOf.exchanged, Equiv.swap_apply_left]
  · rcases hfact with hfact | hfact | ⟨index, i, hi, rfl⟩
    · exact (hknown fact hfact).2
    · exact (hfacts fact hfact).2
    · simp [TermOf.Over]

/-- Loading a token with one more block leads to a verifier that continues the one with the
    token. -/
theorem continues_of_append {t t' : Token scheme} {next : PrivateKey} {b : Block}
    (happend : t.append next b = .ok t') (ht : t.Plain) {v : Verifier} (hv : v.Plain)
    (hsize : v.symbols.size + t'.symbols.size < UInt64.size)
    (hload : (v.addToken t').2 = .ok ()) :
    (v.addToken t).2 = .ok () ∧
      Continues (v.addToken t).1.symbols (v.addToken t).1 (v.addToken t').1 ∧
      (v.addToken t).1.symbols.names <+: (v.addToken t').1.symbols.names := by
  obtain ⟨htoken, loaded', last, hlast⟩ := exists_of_addToken hload
  obtain ⟨loaded, middle, hmiddle, hauthority, ⟨rest, hblocks⟩, ⟨id, hids⟩, hstart, hmore, hsubset,
    hover⟩ := Renumbering.token_of_append ht happend hlast
  rw [addToken_of_execute htoken hlast, addToken_of_execute htoken hmiddle]
  have hlastSize : last.size < UInt64.size := by
    have hlength := (List.subperm_of_subset last.nodup hsubset).length_le
    rw [List.length_append] at hlength
    exact Nat.lt_of_le_of_lt hlength hsize
  have hmiddleSize : middle.size ≤ last.size := hmore.length_le
  have hfork : Fork middle ((SymbolTable.intern "revocation_id").run middle).2
      ((SymbolTable.intern "revocation_id").run last).2
      ((SymbolTable.intern "revocation_id").run middle).1
      ((SymbolTable.intern "revocation_id").run last).1 := by
    have hleft := SymbolTable.size_intern_le middle "revocation_id"
    have hright := SymbolTable.size_intern_le last "revocation_id"
    exact ⟨SymbolTable.prefix_intern _ _, hmore.trans (SymbolTable.prefix_intern _ _), by omega,
      by omega, SymbolTable.find?_intern _ _, SymbolTable.find?_intern _ _⟩
  have hfact (fact : Fact) (hfact : fact ∈ v.world.facts.toSet) : FactOver middle fact :=
    (hv.facts fact hfact).imp (fun _ _ => trivial) (fun _ h => h.has.of_prefix hstart)
      fun _ h => h.has.of_prefix hstart
  have hquery (query : Rule)
      (hquery : query ∈ v.checks.flatMap CheckOf.queries ++ v.policies.flatMap PolicyOf.queries) :
      QueryOver middle query :=
    (hv.queries query hquery).imp (fun _ _ => trivial) (fun _ h => h.has.of_prefix hstart)
      (fun _ h => h.has.of_prefix hstart) fun _ h => h.has.of_prefix hstart
  obtain ⟨hauthorityOver, hblocksOver⟩ := List.forall_mem_cons.1 hover
  refine ⟨rfl, ?_, hmore⟩
  refine ⟨hfork, mirrors_broughtFacts hfork hfact hauthorityOver.facts hauthority hids, ?_, ?_, rfl,
    ?_, rfl, ⟨[rest], hblocks⟩, ?_, ?_, ?_, hblocksOver⟩
  · simp [firstRules, Verifier.authorityRules, hauthority]
  · simp [Verifier.authorityRules, hauthority]
  · simp [Verifier.authorityChecks, hauthority]
  · intro rule hrule
    rcases List.mem_append.1 hrule with hrule | hrule
    · exact hauthorityOver.rules rule hrule
    · exact (hv.rules rule hrule).imp (fun _ _ => trivial) (fun _ h => h.has.of_prefix hstart)
        (fun _ h => h.has.of_prefix hstart) fun _ h => h.has.of_prefix hstart
  · intro check hcheck query hmem
    rcases List.mem_append.1 hcheck with hcheck | hcheck
    · exact hquery query (List.mem_append_left _ (List.mem_flatMap.2 ⟨check, hcheck, hmem⟩))
    · exact hauthorityOver.checks check hcheck query hmem
  · intro policy hpolicy query hmem
    exact hquery query (List.mem_append_right _ (List.mem_flatMap.2 ⟨policy, hpolicy, hmem⟩))

/-- Whatever block is appended to a token, what a verifier allows with the block it allows without
    it, by the same policy, as long as it knows the tags without the block. -/
theorem allowed_of_append_allowed {t t' : Token scheme} {next : PrivateKey} {b : Block}
    (happend : t.append next b = .ok t') (ht : t.Plain) {v : Verifier} (hv : v.Plain)
    (hrules : v.world.rules = []) (hsize : v.symbols.size + t'.symbols.size < UInt64.size)
    (hauthority : "authority" ∈ (v.addToken t).1.symbols.names)
    (hambient : "ambient" ∈ (v.addToken t).1.symbols.names) (limits : Limits)
    (clock clock' : Clock) (hclock : clock.readings = none) {policy : Nat}
    (hload : (v.addToken t').2 = .ok ())
    (hallowed : ((v.addToken t').1.verifyUntil limits clock').2 = .ok policy) :
    (v.addToken t).2 = .ok () ∧
      ((v.addToken t).1.verifyUntil limits clock).2 = .ok policy := by
  obtain ⟨hok, hcontinues, hmore⟩ := continues_of_append happend ht hv hsize hload
  obtain ⟨tags, htags⟩ := Verification.Tags.exists_ofSymbols hauthority hambient
  have htags' : Verification.Tags.ofSymbols (v.addToken t').1.symbols = some tags :=
    Verification.Tags.ofSymbols_of_prefix hmore htags
  refine ⟨hok, ?_⟩
  exact Verification.ofVerifier_eq_ok_of_continues hcontinues
    ((congrArg World.rules (addToken_world v t)).trans hrules)
    ((congrArg World.rules (addToken_world v t')).trans hrules) htags htags' hclock hallowed

/-- Any key. -/
def sampleKey : PrivateKey := Chain.sampleRoot

/-- The verifier of the request to read a file before it has got a token. -/
def readingVerifier : Verifier := { readRequest with token := none }

/-- A token that grants the right to read a file. -/
def readingToken : Token Signature.Ed25519.scheme :=
  let authority : Block :=
    { symbols := .ofList ["file", "read", "readable"]
      facts := [⟨4, [.str 0, .str 7, .str 8]⟩]
      rules := [⟨⟨9, [.var 0]⟩, [⟨4, [.str 0, .var 0, .str 8]⟩], []⟩]
      checks := []
      context := none
      version := Block.currentVersion }
  { authority := authority
    blocks := []
    symbols := .ofList (SymbolTable.standard.names ++ ["file", "read", "readable"])
    chain := Chain.create none authority.toBytes sampleKey sampleKey }

/-- A block that admits one file only, and tries to make revocation facts. -/
def admittingBlock : Block where
  symbols := .ofList ["admitted"]
  facts := [⟨10, [.str 7]⟩, ⟨6, [.integer 7]⟩]
  rules := []
  checks := [⟨[⟨⟨10, []⟩, [⟨2, [.str 1, .var 0]⟩, ⟨10, [.var 0]⟩], []⟩]⟩]
  context := none
  version := Block.currentVersion

theorem readingToken_allowed_of_append_allowed :
    ∃ t', readingToken.append sampleKey admittingBlock = .ok t' ∧
      ((readingVerifier.addToken t').1.verifyUntil {} ⟨none⟩).2 = .ok 0 ∧
      ((readingVerifier.addToken readingToken).1.verifyUntil {} ⟨none⟩).2 = .ok 0 := by
  have happend : readingToken.append sampleKey admittingBlock = .ok _ := rfl
  refine ⟨_, happend, rfl, ?_⟩
  exact (allowed_of_append_allowed happend (by decide) (by decide) rfl (by decide) (by decide)
    (by decide) {} ⟨none⟩ ⟨none⟩ rfl rfl rfl).2

/-- A verifier without tags that allows what is ready. -/
def untaggedVerifier : Verifier where
  world := ⟨.ofList [⟨0, []⟩], []⟩
  symbols := .ofList ["ready"]
  rules := []
  checks := []
  policies := [⟨[⟨⟨0, []⟩, [⟨0, []⟩], []⟩], .allow⟩]
  token := none

/-- A token that says nothing. -/
def silentToken : Token Signature.Ed25519.scheme :=
  let authority : Block := ⟨.empty, [], [], [], none, Block.currentVersion⟩
  ⟨authority, [], .standard, Chain.create none authority.toBytes sampleKey sampleKey⟩

/-- A block that speaks of the tags. -/
def taggingBlock : Block :=
  ⟨.ofList ["note"], [⟨7, [.integer 1, .str 0, .str 1]⟩], [], [], none, Block.currentVersion⟩

/-- The tags must be known without the block: where the verifier learns of them from the block
    only, it allows what it cannot verify without the block. -/
theorem untaggedVerifier_allowed_only_with_append :
    silentToken.Plain ∧ untaggedVerifier.Plain ∧ untaggedVerifier.token = none ∧
      untaggedVerifier.world.rules = [] ∧
      ∃ t', silentToken.append sampleKey taggingBlock = .ok t' ∧
        untaggedVerifier.symbols.size + t'.symbols.size < UInt32.size ∧
        (untaggedVerifier.addToken t').2 = .ok () ∧
        ((untaggedVerifier.addToken t').1.verifyUntil {} ⟨none⟩).2 = .ok 0 ∧
        (untaggedVerifier.addToken silentToken).2 = .ok () ∧
        ((untaggedVerifier.addToken silentToken).1.verifyUntil {} ⟨none⟩).2 =
          .error .missingSymbols :=
  ⟨by decide, by decide, rfl, rfl, _, rfl, by decide, rfl, rfl, rfl, rfl⟩

end Verifier

end Warrant
