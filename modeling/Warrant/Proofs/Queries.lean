import Warrant.Proofs.Agreement
import Warrant.Proofs.Dangling
import Warrant.Proofs.Interning
import Warrant.Proofs.Mirror
import Warrant.Proofs.Operations
import Warrant.Proofs.Sameness

namespace Warrant

open Classical

/-- A rule to ask a verifier for, and how long it may run. -/
structure Query where
  rule : Source.Rule
  limits : Limits
  clock : Clock

namespace Verifier

/-- The verifier after some queries, whether they have been answered or have tripped a limit. -/
def afterQueries (v : Verifier) (queries : List Query) : Verifier :=
  queries.foldl (fun v query => (v.queryUntil query.rule query.limits query.clock).1) v

/-- The positions that a verifier points to. -/
def positions (v : Verifier) : List UInt64 :=
  v.world.facts.facts.flatMap PredicateOf.positions ++ (v.rules.flatMap RuleOf.positions ++
    (v.checks.flatMap CheckOf.positions ++
      ((v.policies.flatMap PolicyOf.queries).flatMap RuleOf.positions ++
        v.token.elim [] fun token => (token.authority :: token.blocks).flatMap Block.positions)))

/-- Whether what is in a verifier has certain strings only. -/
structure Over (inside : UInt64 → Prop) (v : Verifier) : Prop where
  facts : ∀ fact ∈ v.world.facts, fact.Over (fun name => inside name.toUInt64) inside inside
  firstRules : ∀ rule ∈ v.firstRules,
    rule.Over (fun name => inside name.toUInt64) inside inside inside
  checks : ∀ check ∈ v.checks, ∀ query ∈ check.queries,
    query.Over (fun name => inside name.toUInt64) inside inside inside
  policies : ∀ policy ∈ v.policies, ∀ query ∈ policy.queries,
    query.Over (fun name => inside name.toUInt64) inside inside inside
  authority : ∀ token ∈ v.token,
    token.authority.Over (fun name => inside name.toUInt64) inside inside
  laterBlocks : ∀ block ∈ v.laterBlocks,
    block.Over (fun name => inside name.toUInt64) inside inside

theorem over_of_positions {inside : UInt64 → Prop} {v : Verifier}
    (h : ∀ s ∈ v.positions, inside s) : v.Over inside := by
  simp only [positions, List.forall_mem_append, List.forall_mem_flatMap] at h
  obtain ⟨hfacts, hrules, hchecks, hpolicies, htoken⟩ := h
  have hblocks (token : LoadedToken) (hsome : v.token = some token) (block : Block)
      (hblock : block ∈ token.authority :: token.blocks) :
      block.Over (fun name => inside name.toUInt64) inside inside := by
    rw [hsome] at htoken
    exact Block.over_of_positions (List.forall_mem_flatMap.1 htoken block hblock)
  refine ⟨fun fact hfact => PredicateOf.over_of_positions (hfacts fact hfact), ?_, ?_, ?_, ?_, ?_⟩
  · refine List.forall_mem_append.2 ⟨fun rule hrule => ?_,
      fun rule hrule => RuleOf.over_of_positions (hrules rule hrule)⟩
    cases hsome : v.token with
    | none => simp [authorityRules, hsome] at hrule
    | some token =>
      rw [authorityRules, hsome] at hrule
      exact (hblocks token hsome _ List.mem_cons_self).rules rule hrule
  · intro check hcheck query hquery
    exact RuleOf.over_of_positions
      (List.forall_mem_flatMap.1 (hchecks check hcheck) query hquery)
  · intro policy hpolicy query hquery
    exact RuleOf.over_of_positions (hpolicies policy hpolicy query hquery)
  · exact fun token hsome => hblocks token hsome _ List.mem_cons_self
  · intro block hblock
    cases hsome : v.token with
    | none => simp [Verifier.laterBlocks, hsome] at hblock
    | some token =>
      rw [Verifier.laterBlocks, hsome] at hblock
      exact hblocks token hsome block (List.mem_cons_of_mem _ hblock)

/-- What queries make of a verifier: they add symbols, and facts that its rules derive. -/
structure Queried (v v' : Verifier) : Prop where
  symbols : v.symbols.names <+: v'.symbols.names
  kept : v.world.facts.toSet ⊆ v'.world.facts.toSet
  derived : v'.world.facts.toSet ⊆ leastModel v.symbols v.rules v.world.facts.toSet
  noRules : v'.world.rules = []
  rules : v'.rules = v.rules
  checks : v'.checks = v.checks
  policies : v'.policies = v.policies
  token : v'.token = v.token

section

variable {v v' : Verifier}

theorem Over.rules {inside : UInt64 → Prop} (hover : v.Over inside) :
    ∀ rule ∈ v.rules, rule.Over (fun name => inside name.toUInt64) inside inside inside :=
  fun rule hrule => hover.firstRules rule (List.mem_append_right _ hrule)

theorem Over.terms {inside : UInt64 → Prop} (hover : v.Over inside) :
    ∀ fact ∈ v.world.facts, ∀ t ∈ fact.terms, t.Over (fun _ => True) inside :=
  fun fact hfact t ht =>
    TermOf.Over.imp (fun _ _ => trivial) (fun _ h => h) t ((hover.facts fact hfact).2 t ht)

/-- What the rules of a verifier derive from its facts has the strings of these. -/
theorem Over.carried_leastModel {inside : UInt64 → Prop} (hover : v.Over inside)
    {symbols symbols' : SymbolTable}
    (hagree : ∀ s, inside s → symbols.resolve? s = symbols'.resolve? s) {known : Set Fact}
    (hknown : v.world.facts.toSet ⊆ known) (hclosed : ClosedUnder symbols' v.rules known) :
    Carried inside inside (leastModel symbols v.rules v.world.facts.toSet) known := by
  exact (carried_of_subset hknown hover.terms).leastModel hover.rules hagree hclosed

theorem Queried.refl (hrules : v.world.rules = []) : Queried v v :=
  ⟨List.prefix_rfl, subset_rfl, subset_leastModel, hrules, rfl, rfl, rfl, rfl⟩

/-- One more query finds facts that the rules derive from those before any query. -/
theorem Queried.query (h : Queried v v') (hover : v.Over fun s => s.toNat < v.symbols.size)
    (rule : Source.Rule) (limits : Limits) (clock : Clock) :
    Queried v (v'.queryUntil rule limits clock).1 := by
  obtain ⟨names, hinterns⟩ := rule.exists_interns_intern
  obtain ⟨hstart, -⟩ := hinterns v'.symbols _ _ rfl
  have hmore := h.symbols.trans hstart
  have hleast : ClosedUnder v.symbols v.rules
      (leastModel v.symbols v.rules v.world.facts.toSet) := closedUnder_leastModel
  have hcarried := hover.carried_leastModel (fun _ _ => rfl) subset_leastModel hleast
  have hclosed := hcarried.closedUnder hover.rules
    (fun s hs => SymbolTable.resolve?_of_prefix hmore hs) hleast
  rw [queryUntil_fst]
  dsimp only
  rw [h.noRules, List.nil_append, h.rules]
  obtain ⟨hkept, hderived⟩ := saturate_between limits clock h.derived hclosed
    (max 1 limits.maxIterations)
  exact ⟨hmore, h.kept.trans hkept, hderived, rfl, rfl, h.checks, h.policies, h.token⟩

theorem Queried.afterQueries (h : Queried v v') (hover : v.Over fun s => s.toNat < v.symbols.size)
    (queries : List Query) : Queried v (v'.afterQueries queries) := by
  induction queries generalizing v' with
  | nil => exact h
  | cons query queries ih => exact ih (h.query hover query.rule query.limits query.clock)

/-- Of what a token brings, all but the name of revocation facts stays the same, and that, too, if
    the common table has it. -/
theorem carried_broughtFacts {base left right : SymbolTable} {r r' : UInt64}
    (hfork : Fork base left right r r') {token : Option LoadedToken}
    (hover : ∀ loaded ∈ token, loaded.authority.Over (fun name => name.toUInt64.toNat < base.size)
      (fun s => s.toNat < base.size) fun s => s.toNat < base.size) :
    Carried (fun s => s.toNat < base.size) (fun s => s.toNat < base.size)
      (token.elim ∅ fun loaded => loaded.broughtFacts r)
      (token.elim ∅ fun loaded => loaded.broughtFacts r') := by
  cases token with
  | none => exact fun fact hfact => hfact.elim
  | some loaded =>
    rintro fact (hfact | ⟨index, id, hid, rfl⟩) hname
    · have hfacts := (hover loaded rfl).facts fact hfact
      exact ⟨.inl hfact, (hfacts.imp (fun _ _ => trivial) (fun _ h => h) fun _ h => h).2⟩
    · have hhas : base.Has (fun _ => True) r :=
        SymbolTable.ResolvesTo.has ⟨_, List.getElem?_eq_getElem hname, trivial⟩
      have hsame : r' = r := by rw [← hfork.swap_eq hhas, Equiv.swap_apply_left]
      exact ⟨.inr ⟨index, id, hid, by rw [hsame]⟩, by simp [TermOf.Over]⟩

theorem prefix_stageSymbols (v : Verifier) : v.symbols.names <+: v.stageSymbols.names := by
  rw [stageSymbols]
  split
  · exact SymbolTable.prefix_intern v.symbols "revocation_id"
  · exact List.prefix_rfl

namespace Queried

variable (h : Queried v v')
include h

theorem firstRules : v'.firstRules = v.firstRules := by
  rw [Verifier.firstRules, Verifier.firstRules, authorityRules, authorityRules, h.token, h.rules]

theorem laterBlocks : v'.laterBlocks = v.laterBlocks := by
  rw [Verifier.laterBlocks, Verifier.laterBlocks, h.token]

theorem fork (hsize : v'.symbols.size < UInt64.size) :
    Fork v.symbols v.revocation.2 v'.revocation.2 v.revocation.1 v'.revocation.1 := by
  have hleft := SymbolTable.size_intern_le v.symbols "revocation_id"
  have hright := SymbolTable.size_intern_le v'.symbols "revocation_id"
  have hmore : v.symbols.size ≤ v'.symbols.size := h.symbols.length_le
  exact ⟨SymbolTable.prefix_intern _ _, h.symbols.trans (SymbolTable.prefix_intern _ _),
    hleft.trans (by omega), hright.trans (by omega), SymbolTable.find?_intern _ _,
    SymbolTable.find?_intern _ _⟩

variable (hover : v.Over fun s => s.toNat < v.symbols.size)
  (hsize : v'.symbols.size < UInt64.size)
  (htables : SameStrings (fun s => s.toNat < v.symbols.size) v.stageSymbols v'.stageSymbols)
include hover hsize htables

/-- What is given after queries is given before, or derived by the rules of the verifier. -/
theorem sameKnowledge_zero :
    SameKnowledge (fun s => s.toNat < v.symbols.size) (v.knowledge 0) (v'.knowledge 0) := by
  have hfork := h.fork hsize
  have hknown : v.givenFacts ⊆ v.knowledge 0 := subset_leastModel
  have hclosed : ClosedUnder v.stageSymbols v.firstRules (v.knowledge 0) := closedUnder_leastModel
  have hagree (s : UInt64) (hs : s.toNat < v.symbols.size) :
      v.symbols.resolve? s = v.stageSymbols.resolve? s :=
    (SymbolTable.resolve?_of_prefix v.prefix_stageSymbols hs).symm
  constructor
  · have hgiven : Carried (fun s => s.toNat < v.symbols.size) (fun s => s.toNat < v.symbols.size)
        v.givenFacts v'.givenFacts := by
      have hbrought := carried_broughtFacts hfork hover.authority
      have hkept : v.world.facts.toSet ⊆ v'.givenFacts := h.kept.trans Set.subset_union_left
      refine (carried_of_subset hkept hover.terms).union_left (hbrought.mono ?_)
      rw [givenFacts, h.token]
      exact Set.subset_union_right
    rw [knowledge, knowledge, h.firstRules]
    exact (hgiven.mono subset_leastModel).leastModel hover.firstRules htables.resolve?
      closedUnder_leastModel
  · have hfacts := (hover.carried_leastModel hagree (Set.subset_union_left.trans hknown)
      (hclosed.of_subset (List.subset_append_right _ _))).of_subset h.derived
    have hbrought := (carried_broughtFacts hfork.symm hover.authority).mono
      (Set.subset_union_right.trans hknown)
    rw [← h.token] at hbrought
    rw [knowledge, h.firstRules]
    exact (hfacts.union_left hbrought).leastModel hover.firstRules htables.symm.resolve? hclosed

theorem sameKnowledge (k : Nat) :
    SameKnowledge (fun s => s.toNat < v.symbols.size) (v.knowledge k) (v'.knowledge k) := by
  induction k with
  | zero => exact h.sameKnowledge_zero hover hsize htables
  | succ k ih =>
    rw [knowledge, knowledge, h.laterBlocks]
    cases hblock : v.laterBlocks[k]? with
    | none => exact ih
    | some block =>
      have hblock := hover.laterBlocks block (List.mem_of_getElem? hblock)
      refine (ih.union fun fact hfact => ?_).leastModel htables hblock.rules
      exact ((hblock.facts fact hfact).imp (fun _ _ => trivial) (fun _ h => h) fun _ h => h).2

theorem firstDefect_eq : v'.firstDefect = v.firstDefect := by
  rw [firstDefect, firstDefect, h.laterBlocks, ← List.head?_filterMap, ← List.head?_filterMap]
  refine congrArg List.head? (List.filterMap_congr ?_)
  rintro ⟨block, k⟩ hmem
  have hblock := hover.laterBlocks block
    (List.mem_of_getElem? (List.mk_mem_zipIdx_iff_getElem?.1 hmem))
  exact ((h.sameKnowledge hover hsize htables (k + 1)).blockDefect_eq htables hblock _).symm

theorem failures_eq : v'.failures = v.failures := by
  have hzero := h.sameKnowledge hover hsize htables 0
  have hauthority : ∀ check ∈ v.authorityChecks, ∀ query ∈ check.queries,
      query.Over (fun name => name.toUInt64.toNat < v.symbols.size)
        (fun s => s.toNat < v.symbols.size) (fun s => s.toNat < v.symbols.size)
        fun s => s.toNat < v.symbols.size := by
    rw [authorityChecks]
    cases htoken : v.token with
    | none => exact fun check hcheck => absurd hcheck List.not_mem_nil
    | some token => exact (hover.authority token htoken).checks
  have hsame : v'.authorityChecks = v.authorityChecks := by
    rw [authorityChecks, authorityChecks, h.token]
  rw [failures, failures, h.laterBlocks, h.checks, hsame,
    hzero.failing_eq htables hover.checks, hzero.failing_eq htables hauthority]
  refine congrArg _ (List.flatMap_congr ?_)
  rintro ⟨block, k⟩ hmem
  have hblock := hover.laterBlocks block
    (List.mem_of_getElem? (List.mk_mem_zipIdx_iff_getElem?.1 hmem))
  exact ((h.sameKnowledge hover hsize htables (k + 1)).failing_eq htables hblock.checks _).symm

/-- Queries leave the decision as it was. -/
theorem decision_eq : v'.decision = v.decision := by
  have hrules : v'.authorityRules = v.authorityRules := by
    rw [authorityRules, authorityRules, h.token]
  have hpolicy := (h.sameKnowledge hover hsize htables 0).firstPolicy_eq htables hover.policies
  rw [decision, decision, hrules, h.firstDefect_eq hover hsize htables,
    h.failures_eq hover hsize htables, h.policies, ← hpolicy]
  cases hfind : v.authorityRules.find? fun rule => ¬ rule.RangeRestricted with
  | none => rfl
  | some rule =>
    have hrule : rule ∈ v.firstRules :=
      List.mem_append_left _ (List.mem_of_find?_eq_some hfind)
    have hname (s : UInt64) (hs : s.toNat < v.symbols.size) :
        v'.symbols.name s = v.symbols.name s := by
      rw [SymbolTable.name, SymbolTable.name, SymbolTable.resolve?_of_prefix h.symbols hs]
    dsimp only
    rw [RuleOf.render_congr hname (hover.firstRules rule hrule)]

end Queried

end

/-- Queries do not influence decisions: whatever was asked before the first verification, it finds
    the same as without the questions, unless one of the two trips a limit. -/
theorem verifyUntil_afterQueries {v : Verifier} (queries : List Query)
    (hauthority : "authority" ∈ v.symbols.names) (hambient : "ambient" ∈ v.symbols.names)
    (hrules : v.world.rules = []) (hpositions : ∀ s ∈ v.positions, s.toNat < v.symbols.size)
    (hsize : (v.afterQueries queries).symbols.size < UInt64.size) (limits limits' : Limits)
    (clock clock' : Clock)
    (hwithout : ∀ cause, (v.verifyUntil limits clock).2 ≠ .error (.runLimit cause))
    (hwith : ∀ cause,
      ((v.afterQueries queries).verifyUntil limits' clock').2 ≠ .error (.runLimit cause)) :
    ((v.afterQueries queries).verifyUntil limits' clock').2 = (v.verifyUntil limits clock).2 := by
  have hover := over_of_positions hpositions
  have hqueried := (Queried.refl hrules).afterQueries hover queries
  obtain ⟨tags, htags⟩ := Verification.Tags.exists_ofSymbols hauthority hambient
  have htables : SameStrings (fun s => s.toNat < v.symbols.size) v.stageSymbols
      (v.afterQueries queries).stageSymbols :=
    SameStrings.of_prefix v.prefix_stageSymbols
      (hqueried.symbols.trans (prefix_stageSymbols (v.afterQueries queries))) htags
  have hdecided := Verification.agrees_ofVerifier limits clock htags hrules
  have hdecided' := Verification.agrees_ofVerifier limits' clock'
    (Verification.Tags.ofSymbols_of_prefix hqueried.symbols htags) hqueried.noRules
  rw [hqueried.decision_eq hover hsize htables] at hdecided'
  rcases hdecided with ⟨cause, hcause⟩ | hdecided
  · exact absurd hcause (hwithout cause)
  rcases hdecided' with ⟨cause, hcause⟩ | hdecided'
  · exact absurd hcause (hwith cause)
  exact hdecided'.trans hdecided.symm

/-- The request to read a file, where the verifier has a rule of its own. -/
def askedRequest : Verifier :=
  { readRequest with
    rules := [⟨⟨10, [.var 0]⟩, [⟨2, [.str 1, .var 0]⟩, ⟨3, [.str 1, .str 8]⟩], []⟩] }

/-- A question that trips a limit, and the same question with more facts allowed. -/
def sampleQueries : List Query :=
  let rule := Source.rule "seen" [.var "f"] [⟨"admitted", [.var "f"]⟩]
  [⟨rule, { maxFacts := 2 }, ⟨none⟩⟩, ⟨rule, {}, ⟨none⟩⟩]

theorem askedRequest_verifyUntil_afterQueries :
    (sampleQueries.map fun query =>
        (askedRequest.queryUntil query.rule query.limits query.clock).2) =
      [.error (.runLimit .tooManyFacts), .ok [⟨11, [.str 7]⟩]] ∧
    (askedRequest.afterQueries sampleQueries).world.facts.size = 3 ∧
    ((askedRequest.afterQueries sampleQueries).verifyUntil {} ⟨none⟩).2 =
      (askedRequest.verifyUntil {} ⟨none⟩).2 := by
  have hwithout : (askedRequest.verifyUntil {} ⟨none⟩).2 = .ok 0 := by decide
  have hwith : ((askedRequest.afterQueries sampleQueries).verifyUntil {} ⟨none⟩).2 = .ok 0 := by
    decide
  have hpositions : askedRequest.positions.all fun s => s.toNat < askedRequest.symbols.size := by
    decide
  refine ⟨by decide, by decide, ?_⟩
  refine verifyUntil_afterQueries sampleQueries (by decide) (by decide) rfl
    (fun s hs => of_decide_eq_true (List.all_eq_true.1 hpositions s hs)) (by decide)
    {} {} ⟨none⟩ ⟨none⟩ ?_ ?_
  · rw [hwithout]
    exact nofun
  · rw [hwith]
    exact nofun

end Verifier

end Warrant
