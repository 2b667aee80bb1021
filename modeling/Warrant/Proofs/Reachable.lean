import Warrant.Proofs.Loading
import Warrant.Proofs.Operations
import Warrant.Proofs.Parsing
import Warrant.Proofs.Saving
import Warrant.Proofs.Storable

namespace Warrant

/-- Taking in a block that may be stored, however it ends, leaves facts that may be. -/
theorem Block.Storable.kept {block : Block} (h : block.Storable) {tags : Verification.Tags}
    {number : Nat} {p : Progress}
    {result : Except Error (List FailedCheck) × Progress}
    (hrules : p.world.rules = []) (hfacts : p.world.facts.toSet ⊆ constantFacts)
    (houtcome : Verification.BlockOutcome tags number block p result) :
    result.2.world.rules = [] ∧ result.2.world.facts.toSet ⊆ constantFacts := by
  have hboth : p.world.facts.toSet ∪ {fact | fact ∈ block.facts} ⊆ constantFacts :=
    Set.union_subset hfacts fun fact hfact => h.constant hfact
  have hadded : (block.facts.foldl World.addFact p.world).rules = [] ∧
      (block.facts.foldl World.addFact p.world).facts.toSet ⊆ constantFacts := by
    rw [Verification.rules_foldl_addFact, Verification.toSet_foldl_addFact]
    exact ⟨hrules, hboth⟩
  have hclosed := closedUnder_constantFacts p.symbols fun rule hrule =>
    h.query (List.mem_append_left _ hrule)
  cases houtcome with
  | faulty _ => exact ⟨hrules, hfacts⟩
  | limit _ => exact hadded
  | tagging _ _ _ => exact hadded
  | late hcleared _ hworld _ =>
    exact ⟨hcleared, hworld.le.trans (leastModel_subset hboth hclosed)⟩
  | done hcleared _ hworld _ =>
    exact ⟨hcleared, hworld.le.trans (leastModel_subset hboth hclosed)⟩

namespace Verifier

open Grammar (Stated StatementMayBeRead readFact readRule)

/-- What a verifier can come to that starts empty or saved, is told what texts state, is given
    tokens that have been read from bytes, and is asked, whether or not it succeeds in what it is
    asked for. -/
inductive Reachable : Verifier → Prop
  | empty : Reachable empty
  | restored {bytes : List UInt8} {v : Verifier} (h : ofBytes bytes = .ok v) : Reachable v
  | push {v : Verifier} (hv : Reachable v) {statement : Source.Statement}
      (hstatement : Stated statement) : Reachable (v.push statement).1
  | addResource {v : Verifier} (hv : Reachable v) (resource : String) :
      Reachable (v.addResource resource)
  | addOperation {v : Verifier} (hv : Reachable v) (operation : String) :
      Reachable (v.addOperation operation)
  | setTime {v : Verifier} (hv : Reachable v) (now : Int) : Reachable (v.setTime now)
  | addToken {v : Verifier} (hv : Reachable v) {scheme : Scheme} {bytes : List UInt8}
      {rootKey : Option UInt32 → Option (PublicKey scheme)} {base : SymbolTable}
      {token : Token scheme} (htoken : Token.ofBytes bytes rootKey base = .ok token) :
      Reachable (v.addToken token).1
  | query {v : Verifier} (hv : Reachable v) (rule : Source.Rule) (limits : Limits)
      (clock : Clock) : Reachable (v.queryUntil rule limits clock).1
  | verify {v : Verifier} (hv : Reachable v) (limits : Limits) (clock : Clock) :
      Reachable (v.verifyUntil limits clock).1

/-- Whether everything in a verifier may be stored, its facts have no variables, and no rules are
    left in its world. -/
structure Storable (v : Verifier) : Prop where
  noRules : v.world.rules = []
  facts : v.world.facts.toSet ⊆ constantFacts
  rules : ∀ rule ∈ v.rules, ∀ t ∈ rule.terms, t.Storable
  checks : ∀ check ∈ v.checks, ∀ query ∈ check.queries, ∀ t ∈ query.terms, t.Storable
  policies : ∀ policy ∈ v.policies, ∀ query ∈ policy.queries, ∀ t ∈ query.terms, t.Storable
  blocks : ∀ token ∈ v.token, ∀ b ∈ token.authority :: token.blocks, b.Storable

theorem storable_empty : empty.Storable :=
  ⟨rfl, fun fact hfact => absurd hfact (FactSet.not_mem_empty fact), nofun, nofun, nofun, nofun⟩

theorem storable_of_ofBytes {bytes : List UInt8} {v : Verifier} (h : ofBytes bytes = .ok v) :
    v.Storable := by
  obtain ⟨saved, hsaved, h⟩ := bind_eq_ok_iff.1 h
  cases h
  obtain ⟨hground, hmay, hordered⟩ := SavedVerifier.mayBeRead_of_ofBytes hsaved
  have hterms : ∀ t ∈ saved.terms, t.Storable := fun t ht => ⟨hmay t ht, hordered t ht⟩
  simp only [SavedVerifier.terms, SavedVerifier.queries, List.forall_mem_append,
    List.forall_mem_flatMap] at hterms
  obtain ⟨hfacts, ⟨hrules, hchecks⟩, hpolicies⟩ := hterms
  refine ⟨rfl, fun fact hfact t ht => ?_, hrules, hchecks, hpolicies,
    fun token hnone => absurd hnone (Option.not_mem_none token)⟩
  have hfact : fact ∈ saved.facts := FactSet.mem_ofList.1 hfact
  exact ⟨hfacts fact hfact t ht, List.all_eq_true.1 (hground fact hfact) t ht⟩

namespace Storable

variable {v : Verifier}

theorem withSymbols (hv : v.Storable) (symbols : SymbolTable) :
    Storable { v with symbols := symbols } :=
  ⟨hv.noRules, hv.facts, hv.rules, hv.checks, hv.policies, hv.blocks⟩

theorem withWorld (hv : v.Storable) {world : World} (hrules : world.rules = [])
    (hfacts : world.facts.toSet ⊆ constantFacts) : Storable { v with world := world } :=
  ⟨hrules, hfacts, hv.rules, hv.checks, hv.policies, hv.blocks⟩

/-- A fact that may be read is stored, unless it has variables and is refused. -/
theorem pushFact (hv : v.Storable) {fact : Source.Fact} (h : ∀ t ∈ fact.terms, t.MayBeRead) :
    (v.push (.fact fact)).1.Storable := by
  obtain ⟨names, hinterns⟩ := fact.exists_interns_intern
  rw [push_fact_fst]
  refine withSymbols ?_ _
  rw [hinterns.fst_run v.symbols, withGround]
  split
  case isFalse => exact hv
  case isTrue hground =>
    refine hv.withWorld hv.noRules fun other hother => ?_
    rcases FactSet.mem_insert.1 hother with rfl | hother
    · intro t ht
      refine ⟨?_, List.all_eq_true.1 hground t ht⟩
      obtain ⟨written, hwritten, rfl⟩ := List.mem_map.1 ht
      exact (h written hwritten).storable_numbered
    · exact hv.facts hother

theorem push (hv : v.Storable) {statement : Source.Statement} (h : StatementMayBeRead statement) :
    (v.push statement).1.Storable := by
  cases statement with
  | fact fact => exact hv.pushFact h
  | rule rule =>
    obtain ⟨names, hinterns⟩ := rule.exists_interns_intern
    have hrule : ∀ t ∈ ((RuleOf.intern rule).run v.symbols).1.terms, t.Storable := by
      rw [hinterns.fst_run v.symbols]
      exact RuleOf.storable_numbered h
    have hrules := List.forall_mem_append.2 ⟨hv.rules, List.forall_mem_singleton.2 hrule⟩
    exact ⟨hv.noRules, hv.facts, hrules, hv.checks, hv.policies, hv.blocks⟩
  | check check =>
    obtain ⟨names, hinterns⟩ := check.exists_interns_intern
    have hcheck : ∀ query ∈ ((CheckOf.intern check).run v.symbols).1.queries,
        ∀ t ∈ query.terms, t.Storable := by
      rw [hinterns.fst_run v.symbols]
      exact List.forall_mem_map.2 fun query hquery => RuleOf.storable_numbered (h query hquery)
    have hchecks := List.forall_mem_append.2 ⟨hv.checks, List.forall_mem_singleton.2 hcheck⟩
    exact ⟨hv.noRules, hv.facts, hv.rules, hchecks, hv.policies, hv.blocks⟩
  | policy policy =>
    obtain ⟨names, hinterns⟩ := policy.exists_interns_intern
    have hpolicy : ∀ query ∈ ((PolicyOf.intern policy).run v.symbols).1.queries,
        ∀ t ∈ query.terms, t.Storable := by
      rw [hinterns.fst_run v.symbols]
      exact List.forall_mem_map.2 fun query hquery => RuleOf.storable_numbered (h query hquery)
    have hpolicies :=
      List.forall_mem_append.2 ⟨hv.policies, List.forall_mem_singleton.2 hpolicy⟩
    exact ⟨hv.noRules, hv.facts, hv.rules, hv.checks, hpolicies, hv.blocks⟩
  | query rule => exact hv

/-- What the verifier vouches for has no sets. -/
theorem addAmbient (hv : v.Storable) (name : String) {term : Source.Term} (h : term.MayBeRead) :
    (v.addAmbient name term).Storable := by
  have hterms : ∀ t ∈ (Source.predicate name [.str "ambient", term]).terms, t.MayBeRead :=
    List.forall_mem_cons.2 ⟨nofun, List.forall_mem_singleton.2 h⟩
  exact hv.pushFact hterms

theorem addToken (hv : v.Storable) {scheme : Scheme} {token : Token scheme}
    (h : ∀ b ∈ token.allBlocks, b.Storable) : (v.addToken token).1.Storable := by
  obtain ⟨names, hinterns⟩ := Renumbering.exists_interns_token token
  rw [Verifier.addToken]
  split
  case isTrue => exact hv
  case isFalse =>
    split
    case h_1 => exact hv.withSymbols _
    case h_2 loaded symbols hrun =>
      refine ⟨hv.noRules, hv.facts, hv.rules, hv.checks, hv.policies, ?_⟩
      rintro _ ⟨⟩
      obtain ⟨-, -, hmade⟩ := hinterns v.symbols loaded symbols hrun
      rw [hmade symbols List.prefix_rfl]
      have hplaced (b : Block) (hb : b ∈ token.allBlocks) (f : UInt32 → UInt32)
          (g : UInt64 → UInt64) : ((Renumbering.content b).numbered f g).Storable :=
        Block.Storable.numbered (b := Renumbering.content b)
          ⟨(h b hb).ground, (h b hb).terms⟩ f g
      refine List.forall_mem_cons.2 ⟨hplaced _ List.mem_cons_self _ _, ?_⟩
      refine List.forall_mem_map.2 (List.forall_mem_map.2 fun b hb => ?_)
      exact hplaced b (List.mem_cons_of_mem _ hb) _ _

theorem givenFacts_subset (hv : v.Storable) : v.givenFacts ⊆ constantFacts := by
  rintro fact (hfact | hfact)
  · exact hv.facts hfact
  · cases htoken : v.token with
    | none =>
      rw [htoken] at hfact
      exact hfact.elim
    | some token =>
      rw [htoken] at hfact
      have hauthority := hv.blocks token htoken token.authority List.mem_cons_self
      rcases hfact with hfact | ⟨index, id, -, rfl⟩
      · exact hauthority.constant hfact
      · have hscalar {t : Term} (hmay : t.MayBeRead) (hordered : t.Ordered)
            (hground : t.isGround = true) : t.Constant := ⟨⟨hmay, hordered⟩, hground⟩
        exact List.forall_mem_cons.2 ⟨hscalar nofun trivial rfl,
          List.forall_mem_singleton.2 (hscalar nofun trivial rfl)⟩

theorem firstRules (hv : v.Storable) : ∀ rule ∈ v.firstRules, ∀ t ∈ rule.terms, t.Storable := by
  refine List.forall_mem_append.2 ⟨fun rule hrule => ?_, hv.rules⟩
  rw [authorityRules] at hrule
  cases htoken : v.token with
  | none =>
    rw [htoken] at hrule
    cases hrule
  | some token =>
    rw [htoken] at hrule
    have hauthority := hv.blocks token htoken token.authority List.mem_cons_self
    exact hauthority.query (List.mem_append_left _ hrule)

theorem laterBlocks (hv : v.Storable) : ∀ b ∈ v.laterBlocks, b.Storable := by
  intro b hb
  rw [Verifier.laterBlocks] at hb
  cases htoken : v.token with
  | none =>
    rw [htoken] at hb
    cases hb
  | some token =>
    rw [htoken] at hb
    exact hv.blocks token htoken b (List.mem_cons_of_mem _ hb)

theorem queryUntil (hv : v.Storable) (rule : Source.Rule) (limits : Limits) (clock : Clock) :
    (v.queryUntil rule limits clock).1.Storable := by
  rw [queryUntil_fst]
  refine (hv.withWorld rfl ?_).withSymbols _
  have hclosed := closedUnder_constantFacts ((RuleOf.intern rule).run v.symbols).2 hv.rules
  rw [hv.noRules, List.nil_append]
  exact (saturate_between limits clock hv.facts hclosed _).2

theorem verifyUntil (hv : v.Storable) (limits : Limits) (clock : Clock) :
    (v.verifyUntil limits clock).1.Storable := by
  let kept (world : World) : Prop := world.rules = [] ∧ world.facts.toSet ⊆ constantFacts
  suffices hkept : kept (execute (Verification.ofVerifier v limits)
      ⟨v.world, v.symbols, clock⟩).2.world from
    (hv.withWorld hkept.1 hkept.2).withSymbols _
  cases htags : Verification.Tags.ofSymbols v.symbols with
  | none =>
    rw [Verification.execute_ofVerifier_of_no_tags limits clock htags]
    exact ⟨hv.noRules, hv.facts⟩
  | some tags =>
    refine Verification.kept_ofVerifier htags hv.noRules ?_ ?_ ?_ limits clock
    · exact fun world hrules hfacts => ⟨hrules, hfacts.trans hv.givenFacts_subset⟩
    · intro world hrules hfacts
      refine ⟨hrules, hfacts.le.trans ?_⟩
      exact leastModel_subset hv.givenFacts_subset (closedUnder_constantFacts _ hv.firstRules)
    · rintro number block hblock world clock result ⟨hrules, hfacts⟩ houtcome
      exact (hv.laterBlocks block hblock).kept hrules hfacts houtcome

end Storable

theorem Reachable.storable {v : Verifier} (h : v.Reachable) : v.Storable := by
  induction h with
  | empty => exact storable_empty
  | restored h => exact storable_of_ofBytes h
  | push _ hstatement ih => exact ih.push hstatement.mayBeRead
  | addResource _ _ ih => exact ih.addAmbient _ nofun
  | addOperation _ _ ih => exact ih.addAmbient _ nofun
  | setTime _ _ ih => exact ih.addAmbient _ nofun
  | addToken _ htoken ih => exact ih.addToken (Token.storable_of_ofBytes htoken)
  | query _ _ limits clock ih => exact ih.queryUntil _ limits clock
  | verify _ limits clock ih => exact ih.verifyUntil limits clock

/-- The checks of the token in a verifier, block after block. -/
def tokenChecks (v : Verifier) : List Check :=
  v.token.elim [] fun token => (token.authority :: token.blocks).flatMap Block.checks

theorem saved_eq (v : Verifier) :
    v.saved = ⟨v.symbols, v.world.facts.facts, v.rules, v.checks ++ v.tokenChecks, v.policies⟩ := by
  rw [saved, tokenChecks]
  cases v.token <;> rfl

theorem Storable.tokenChecks {v : Verifier} (hv : v.Storable) :
    ∀ check ∈ v.tokenChecks, ∀ query ∈ check.queries, ∀ t ∈ query.terms, t.Storable := by
  intro check hcheck query hquery
  rw [Verifier.tokenChecks] at hcheck
  cases htoken : v.token with
  | none =>
    rw [htoken] at hcheck
    cases hcheck
  | some token =>
    rw [htoken] at hcheck
    obtain ⟨b, hb, hcheck⟩ := List.mem_flatMap.1 hcheck
    refine (hv.blocks token htoken b hb).query (List.mem_append_right _ ?_)
    exact List.mem_flatMap.2 ⟨check, hcheck, hquery⟩

theorem Storable.saved {v : Verifier} (hv : v.Storable) :
    (∀ fact ∈ v.saved.facts, fact.isGround = true) ∧ ∀ t ∈ v.saved.terms, t.Storable := by
  rw [saved_eq]
  simp only [SavedVerifier.terms, SavedVerifier.queries, List.forall_mem_append,
    List.forall_mem_flatMap]
  refine ⟨fun fact hfact => ?_, fun fact hfact t ht => ?_, ⟨hv.rules, hv.checks, ?_⟩, hv.policies⟩
  · exact List.all_eq_true.2 fun t ht => (hv.facts hfact t ht).ground
  · exact (hv.facts hfact t ht).toStorable
  · exact hv.tokenChecks

/-- Whatever a verifier has been told and asked for in texts, and whatever tokens it has been given,
    its facts have no variables, its sets are of scalars of one kind, and it comes back from the
    bytes that it is saved in, without the token but with its checks. -/
theorem restored_of_saved {v : Verifier} (h : v.Reachable) :
    (∀ fact ∈ v.world.facts, fact.isGround = true) ∧ (∀ t ∈ v.saved.terms, t.MayBeRead) ∧
      (v.save.length < Wire.maxLength →
        ∃ restored, ofBytes v.save = .ok restored ∧ restored.token = none ∧
          restored.symbols = v.symbols ∧
          (∀ fact, fact ∈ restored.world.facts ↔ fact ∈ v.world.facts) ∧
          restored.rules = v.rules ∧ restored.policies = v.policies ∧
          restored.checks = v.checks ++ v.tokenChecks) := by
  obtain ⟨hground, hterms⟩ := h.storable.saved
  refine ⟨hground, fun t ht => (hterms t ht).mayBeRead, fun hlength => ?_⟩
  have hread := SavedVerifier.ofBytes_toBytes (fun t ht => (hterms t ht).ordered) hground
    (fun t ht => (hterms t ht).mayBeRead) hlength
  refine ⟨ofSaved v.saved, ?_, rfl, rfl, fun fact => FactSet.mem_ofList, rfl, rfl, ?_⟩
  · exact bind_eq_ok_iff.2 ⟨v.saved, hread, rfl⟩
  · rw [saved_eq]
    rfl

/-- A verifier that is told the size of a file and what is large. -/
def toldVerifier : Verifier :=
  ((empty.push (.fact ⟨"size", [.str "file", .str "large"]⟩)).1.push
    (.rule ⟨⟨"big", [.var "f"]⟩, [⟨"size", [.var "f", .str "large"]⟩], []⟩)).1

/-- The same verifier after a verification that nothing allows, and with a token. -/
noncomputable def keepingVerifier : Verifier :=
  ((toldVerifier.verifyUntil {} ⟨none⟩).1.addToken
    (Token.sample Signature.Ed25519.scheme.withOwn)).1

theorem reachable_keepingVerifier : keepingVerifier.Reachable := by
  have hfact : readFact "size(#file, \"large\")" = .ok ⟨"size", [.str "file", .str "large"]⟩ := by
    decide +kernel
  have hrule : readRule "big($f) <- size($f, \"large\")" =
      .ok ⟨⟨"big", [.var "f"]⟩, [⟨"size", [.var "f", .str "large"]⟩], []⟩ := by
    decide +kernel
  have htold : toldVerifier.Reachable := (Reachable.empty.push (.fact hfact)).push (.rule hrule)
  let scheme := Signature.Ed25519.scheme.withOwn
  have hlength : (Token.sample scheme).toBytes.length < Wire.maxLength := by
    rw [Token.length_toBytes_sample]
    decide
  let rootKey : Option UInt32 → Option (PublicKey scheme) :=
    fun _ => some (Chain.sampleRoot.toPublic scheme)
  have hread : Token.ofBytes (Token.sample scheme).toBytes rootKey .standard =
      .ok (Token.sample scheme) :=
    (Token.ofBytes_toBytes_eq_ok_iff (Scheme.acceptsOwn_withOwn _) (Token.issued_sample scheme)
      (Token.ordered_sample scheme) hlength rfl).2 ⟨Token.mayBeRead_sample scheme, rfl⟩
  exact (htold.verify {} ⟨none⟩).addToken hread

/-- What is kept of the verifier: what it was told and has derived, and the check of the token. -/
def keptSample : SavedVerifier where
  symbols :=
    .ofList (SymbolTable.standard.names ++ ["size", "file", "large", "big", "f", "limit"])
  facts := [⟨10, [.str 8]⟩, ⟨7, [.str 8, .str 9]⟩]
  rules := [⟨⟨10, [.var 11]⟩, [⟨7, [.var 11, .str 9]⟩], []⟩]
  checks := [⟨[⟨⟨12, []⟩, [⟨2, [.str 1, .str 8]⟩], []⟩]⟩]
  policies := []

theorem length_toBytes_keptSample : keptSample.toBytes.length < Wire.maxLength := by
  have hnames : keptSample.symbols.names = ["authority", "ambient", "resource", "operation",
      "right", "current_time", "revocation_id", "size", "file", "large", "big", "f", "limit"] := by
    decide +kernel
  rw [SavedVerifier.toBytes, Wire.encodeSaved, hnames]
  simp [keptSample, Wire.encodeList, Wire.encodePredicate, Wire.encodeTerm, Wire.encodeRule,
    Wire.encodeCheck]
  decide +kernel

theorem keepingVerifier_restored_of_saved :
    ∃ restored, ofBytes keepingVerifier.save = .ok restored ∧ restored.token = none ∧
      (⟨10, [.str 8]⟩ : Fact) ∈ restored.world.facts ∧ restored.checks = keptSample.checks := by
  have hsaved : keepingVerifier.saved = keptSample := by decide +kernel
  have hlength : keepingVerifier.save.length < Wire.maxLength := by
    rw [save, hsaved]
    exact length_toBytes_keptSample
  obtain ⟨-, -, hrestored⟩ := restored_of_saved reachable_keepingVerifier
  obtain ⟨restored, hread, htoken, -, hfacts, -, -, hchecks⟩ := hrestored hlength
  refine ⟨restored, hread, htoken, (hfacts _).2 ?_, ?_⟩
  · have hfact : (⟨10, [.str 8]⟩ : Fact) ∈ keepingVerifier.saved.facts := by
      rw [hsaved]
      exact List.mem_cons_self
    exact hfact
  · rw [hchecks, ← hsaved, saved_eq]

end Verifier

end Warrant
