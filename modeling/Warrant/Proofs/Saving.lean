import Warrant.Proofs.NormalForm
import Warrant.Wire.Saved

namespace Warrant

theorem PolicyOf.validate_eq_ok_iff {V S : Type} {policy : PolicyOf V S} :
    policy.validate = .ok () ↔ ∀ query ∈ policy.queries, ∀ t ∈ query.terms, t.MayBeRead :=
  forM_eq_ok_iff.trans (forall₂_congr fun _ _ => RuleOf.validate_eq_ok_iff)

namespace SavedVerifier

/-- The rules and the queries of checks and policies. -/
def queries (saved : SavedVerifier) : List Rule :=
  saved.rules ++ saved.checks.flatMap CheckOf.queries ++ saved.policies.flatMap PolicyOf.queries

/-- The terms of facts, rules, checks and policies, each as a whole. -/
def terms (saved : SavedVerifier) : List Term :=
  saved.facts.flatMap PredicateOf.terms ++ saved.queries.flatMap RuleOf.terms

variable {saved : SavedVerifier}

theorem validate_eq_ok_iff :
    saved.validate = .ok () ↔
      (∀ fact ∈ saved.facts, fact.isGround = true) ∧ ∀ t ∈ saved.terms, t.MayBeRead := by
  have hloops : saved.validate = .ok () ↔
      saved.facts.forM PredicateOf.validateFact = .ok () ∧
        saved.rules.forM RuleOf.validate = .ok () ∧
          saved.checks.forM CheckOf.validate = .ok () ∧
            saved.policies.forM PolicyOf.validate = .ok () :=
    then_eq_ok_iff.trans (and_congr_right fun _ =>
      then_eq_ok_iff.trans (and_congr_right fun _ => then_eq_ok_iff))
  rw [hloops, forM_eq_ok_iff, forM_eq_ok_iff, forM_eq_ok_iff, forM_eq_ok_iff]
  simp only [PredicateOf.validateFact_eq_ok_iff, RuleOf.validate_eq_ok_iff,
    CheckOf.validate_eq_ok_iff, PolicyOf.validate_eq_ok_iff, terms, queries,
    List.forall_mem_append, List.forall_mem_flatMap, forall_and, and_assoc]

end SavedVerifier

namespace Wire

theorem mem_policyCodes (kind : PolicyKind) : kind ∈ policyCodes := by
  cases kind <;> decide

theorem reads_policy {p : Policy} (h : ∀ query ∈ p.queries, ∀ t ∈ query.terms, t.Ordered) :
    Reads policy (encodePolicy p) p := by
  refine (reads_list fun query hquery => reads_rule (h query hquery)).bind ?_
  exact (reads_choice (mem_policyCodes p.kind) (by decide)).map

/-- What is kept of a verifier is read from its bytes where the elements of its sets are in
    order. -/
theorem reads_saved {v : SavedVerifier} (h : ∀ t ∈ v.terms, t.Ordered) :
    Reads saved (encodeSaved v) (Block.currentVersion, v) := by
  simp only [SavedVerifier.terms, SavedVerifier.queries, List.forall_mem_append,
    List.forall_mem_flatMap] at h
  obtain ⟨hfacts, ⟨hrules, hchecks⟩, hpolicies⟩ := h
  have hread : Reads (do return (Block.currentVersion, ⟨.ofList v.symbols.names, v.facts, v.rules,
      v.checks, ← list policy⟩)) (encodeList encodePolicy v.policies)
      (Block.currentVersion, v) := by
    rw [SymbolTable.ofList_names]
    exact (reads_list fun p hp => reads_policy (hpolicies p hp)).map
  simp only [encodeSaved, List.append_assoc, saved]
  refine (reads_word32 Block.currentVersion).bind ?_
  refine Reads.bind (reads_list fun name _ => reads_string name) ?_
  refine (reads_list fun fact hfact => reads_predicate (hfacts fact hfact)).bind ?_
  refine (reads_list fun rule hrule => reads_rule (hrules rule hrule)).bind ?_
  exact (reads_list fun check hcheck => reads_check (hchecks check hcheck)).bind hread

theorem takes_policy :
    Takes policy fun _ p => ∀ query ∈ p.queries, ∀ t ∈ query.terms, t.Ordered := by
  refine (shrinks_list shrinks_rule).bind fun _ queries hqueries => ?_
  exact (takes_choice policyCodes).map fun _ kind _ => hqueries.1

/-- The elements of sets are put in order when they are read. -/
theorem takes_saved : Takes saved fun _ read => ∀ t ∈ read.2.terms, t.Ordered := by
  refine canonical_word32.bind fun _ version _ => ?_
  refine (canonical_list canonical_string).bind fun _ names _ => ?_
  refine (shrinks_list shrinks_predicate).bind fun _ facts hfacts => ?_
  refine (shrinks_list shrinks_rule).bind fun _ rules hrules => ?_
  refine (shrinks_list shrinks_check).bind fun _ checks hchecks => ?_
  refine (takes_list takes_policy).map fun _ policies hpolicies => ?_
  have hpolicies : ∀ p ∈ policies, ∀ query ∈ p.queries, ∀ t ∈ query.terms, t.Ordered := by
    obtain ⟨parts, -, hparts⟩ := hpolicies
    exact ((List.forall₂_and_left _ _).1 (hparts.flip.imp fun _ _ h => ⟨h, trivial⟩)).1
  simp only [SavedVerifier.terms, SavedVerifier.queries, List.forall_mem_append,
    List.forall_mem_flatMap]
  exact ⟨hfacts.1, ⟨hrules.1, hchecks.1⟩, hpolicies⟩

end Wire

namespace SavedVerifier

variable {saved : SavedVerifier}

/-- What may be read comes back from its bytes. -/
theorem ofBytes_toBytes (hordered : ∀ t ∈ saved.terms, t.Ordered)
    (hground : ∀ fact ∈ saved.facts, fact.isGround = true)
    (hterms : ∀ t ∈ saved.terms, t.MayBeRead) (hlength : saved.toBytes.length < Wire.maxLength) :
    ofBytes saved.toBytes = .ok saved := by
  have hread : Wire.saved saved.toBytes = .ok ((Block.currentVersion, saved), []) := by
    have h := (Wire.reads_saved hordered).2 hlength []
    rw [List.append_nil] at h
    exact h
  have hvalidate := validate_eq_ok_iff.2 ⟨hground, hterms⟩
  simp only [ofBytes, hread, hvalidate]
  rfl

/-- What has been read may be read, and the elements of its sets are in order. -/
theorem mayBeRead_of_ofBytes {bytes : List UInt8} (h : ofBytes bytes = .ok saved) :
    (∀ fact ∈ saved.facts, fact.isGround = true) ∧
      (∀ t ∈ saved.terms, t.MayBeRead) ∧ ∀ t ∈ saved.terms, t.Ordered := by
  rw [ofBytes] at h
  split at h
  case h_1 => cases h
  case h_2 version read rest hread =>
    split at h
    case isTrue => cases h
    case isFalse =>
      split at h
      case h_1 => cases h
      case h_2 hvalidate =>
        cases h
        obtain ⟨_, -, hordered⟩ := Wire.takes_saved _ _ _ hread
        obtain ⟨hground, hterms⟩ := validate_eq_ok_iff.1 hvalidate
        exact ⟨hground, hterms, hordered⟩

end SavedVerifier

end Warrant
