import Mathlib.Data.List.Find
import Warrant.Proofs.Exchange
import Warrant.Proofs.Tags

namespace Warrant

open Classical

/-- A failed check with the place that it has, and not with its text. -/
def FailedCheck.withoutText (failed : FailedCheck) : FailedCheck := { failed with text := "" }

/-- Whether the same checks have failed, whatever their texts. -/
def SameFailures (failed failed' : List FailedCheck) : Prop :=
  failed.map FailedCheck.withoutText = failed'.map FailedCheck.withoutText

theorem SameFailures.append {failed failed' others others' : List FailedCheck}
    (h : SameFailures failed failed') (hothers : SameFailures others others') :
    SameFailures (failed ++ others) (failed' ++ others') := by
  rw [SameFailures, List.map_append, List.map_append, h, hothers]

/-- Why a token is refused, without the texts that tell of facts, rules and checks. -/
def LogicError.withoutTexts : LogicError → LogicError
  | invalidFact block _ => invalidFact block ""
  | invalidRule block _ => invalidRule block ""
  | failedChecks checks => failedChecks (checks.map FailedCheck.withoutText)
  | other => other

def Error.withoutTexts : Error → Error
  | logic cause => logic cause.withoutTexts
  | other => other

variable {f : Equiv.Perm UInt32} {g : Equiv.Perm UInt64} {left right : SymbolTable}

/-- A rule binds its variables under exchanged numbers, too. -/
theorem RuleOf.rangeRestricted_numbered_iff {rule : Rule} :
    (rule.numbered f g).RangeRestricted ↔ rule.RangeRestricted := by
  have hneeded (v : UInt32) :
      (v ∈ (rule.numbered f g).head.argVariables ∨
        ∃ e ∈ (rule.numbered f g).expressions, v ∈ e.filterMap OpOf.asVariable?) ↔
      (f.symm v ∈ rule.head.argVariables ∨
        ∃ e ∈ rule.expressions, f.symm v ∈ e.filterMap OpOf.asVariable?) := by
    have hvariables (e : Expression) : v ∈ (e.map (OpOf.numbered f g)).filterMap OpOf.asVariable? ↔
        f.symm v ∈ e.filterMap OpOf.asVariable? := by
      rw [← mem_map_perm_iff, List.filterMap_map, List.map_filterMap]
      simp only [Function.comp_def, OpOf.asVariable?_numbered]
    simp only [RuleOf.numbered, PredicateOf.argVariables_numbered, mem_map_perm_iff]
    refine or_congr_right ?_
    simp only [List.mem_map, ↓existsAndEq, and_true, hvariables]
  unfold RangeRestricted
  simp only [hneeded, mem_body_numbered_iff]
  exact f.symm.forall_congr_right (q := fun v => (v ∈ rule.head.argVariables ∨
    ∃ e ∈ rule.expressions, v ∈ e.filterMap OpOf.asVariable?) → ∃ p ∈ rule.body, v ∈ p.argVariables)

theorem RuleOf.isRangeRestricted_numbered (rule : Rule) :
    (rule.numbered f g).isRangeRestricted = rule.isRangeRestricted := by
  rw [Bool.eq_iff_iff, isRangeRestricted_iff, isRangeRestricted_iff, rangeRestricted_numbered_iff]

section

variable (h : SymbolTable.Moved g left right)
include h

theorem tagged_numbered_iff {p : Predicate} : Tagged right (p.numbered f g) ↔ Tagged left p := by
  obtain ⟨name, terms⟩ := p
  cases terms with
  | nil => simp [Tagged, PredicateOf.numbered]
  | cons t rest =>
    cases t <;> simp [Tagged, PredicateOf.numbered, TermOf.numbered, TermOf.ofElements, h.find]

variable {known known' : Set Fact} (hknown : FactsExchanged f g known known')
include hknown

theorem RuleOf.BindsTag.numbered {rule : Rule} (hrule : rule.Settled)
    (htag : rule.BindsTag left known) : (rule.numbered f g).BindsTag right known' := by
  obtain ⟨⟨v, rest, hhead⟩, fact, hfact, htagged⟩ := htag
  refine ⟨⟨f v, rest.map (TermOf.numbered f g), ?_⟩, fact.numbered f g,
    (hfact.numbered h hknown hrule).1, (tagged_numbered_iff h).2 htagged⟩
  rw [RuleOf.numbered, PredicateOf.numbered, hhead, List.map_cons, TermOf.numbered]

theorem RuleOf.bindsTag_numbered_iff {rule : Rule} (hrule : rule.Settled) :
    (rule.numbered f g).BindsTag right known' ↔ rule.BindsTag left known := by
  refine ⟨fun htag => ?_, fun htag => htag.numbered h hknown hrule⟩
  have hback := htag.numbered h.symm hknown.symm (RuleOf.settled_numbered rule)
  rwa [hrule.numbered_symm] at hback

theorem passes_numbered_iff {queries : List Rule} (hqueries : ∀ query ∈ queries, query.Settled) :
    Passes right known' (queries.map (RuleOf.numbered f g)) ↔ Passes left known queries := by
  simp only [Passes, List.mem_map, ↓existsAndEq, and_true]
  exact exists_congr fun query => and_congr_right fun hquery =>
    RuleOf.matches_numbered_iff h hknown (hqueries query hquery)

/-- The same checks fail. -/
theorem failing_numbered {checks : List Check}
    (hchecks : ∀ check ∈ checks, ∀ query ∈ check.queries, query.Settled) (block : Option Nat) :
    SameFailures (failing left known block checks)
      (failing right known' block (checks.map (CheckOf.numbered f g))) := by
  rw [SameFailures, failing, failing, List.zipIdx_map, List.filterMap_map, List.map_filterMap,
    List.map_filterMap]
  refine List.filterMap_congr ?_
  rintro ⟨check, index⟩ hmem
  have hcheck := List.mem_of_getElem? (List.mk_mem_zipIdx_iff_getElem?.1 hmem)
  have hpasses := passes_numbered_iff h hknown (hchecks check hcheck)
  simp only [Function.comp_apply, Prod.map_apply, CheckOf.numbered, hpasses, id_eq]
  split
  · rfl
  · simp only [Option.map_some, FailedCheck.withoutText]

/-- The same policy matches first. -/
theorem firstPolicy_numbered {policies : List Policy}
    (hpolicies : ∀ policy ∈ policies, ∀ query ∈ policy.queries, query.Settled) :
    firstPolicy right known' (policies.map (PolicyOf.numbered f g)) =
      firstPolicy left known policies := by
  rw [firstPolicy, firstPolicy, List.zipIdx_map, List.find?_map, Option.map_map]
  have hfind : (policies.zipIdx.find? ((fun x => decide (Passes right known' x.1.queries)) ∘
      Prod.map (PolicyOf.numbered f g) id)) =
      policies.zipIdx.find? fun x => decide (Passes left known x.1.queries) := by
    refine List.find?_congr ?_
    rintro ⟨policy, index⟩ hmem
    have hpolicy := List.mem_of_getElem? (List.mk_mem_zipIdx_iff_getElem?.1 hmem)
    rw [Function.comp_apply, decide_eq_decide]
    exact passes_numbered_iff h hknown (hpolicies policy hpolicy)
  exact congrArg _ hfind

end

namespace Verification

theorem Tags.ofSymbols_moved (h : SymbolTable.Moved g left right) :
    Tags.ofSymbols right = (Tags.ofSymbols left).map fun tags =>
      ⟨g tags.authority, g tags.ambient⟩ := by
  rw [Tags.ofSymbols, Tags.ofSymbols, h.find, h.find]
  cases left.find? "authority" <;> cases left.find? "ambient" <;> rfl

theorem outcome_withoutTexts {failed failed' : List FailedCheck} (h : SameFailures failed failed')
    (decided : Option (Nat × PolicyKind)) :
    (outcome failed decided).mapError LogicError.withoutTexts =
      (outcome failed' decided).mapError LogicError.withoutTexts := by
  cases failed with
  | nil =>
    rw [SameFailures, List.map_nil, eq_comm, List.map_eq_nil_iff] at h
    rw [h]
  | cons first rest =>
    cases failed' with
    | nil => cases h
    | cons first' rest' =>
      have houtcome (first : FailedCheck) (rest : List FailedCheck) :
          outcome (first :: rest) decided = .error (.failedChecks (first :: rest)) := by
        rw [outcome] <;> simp
      rw [houtcome, houtcome]
      exact congrArg (Except.error ∘ LogicError.failedChecks) h

section

variable (h : SymbolTable.Moved g left right) {tags tags' : Tags}
  (htags : Tags.ofSymbols left = some tags) (htags' : Tags.ofSymbols right = some tags')
include h htags htags'

theorem mark_numbered (p : Predicate) : tags'.mark (p.numbered f g) = tags.mark p := by
  rw [Bool.eq_iff_iff, Tags.mark_iff htags', Tags.mark_iff htags, tagged_numbered_iff h]

/-- The same blocks have a fault as they are written. -/
theorem blockFault_numbered (number : Nat) (block : Block) :
    (blockFault tags' right number (block.numbered f g)).map LogicError.withoutTexts =
      (blockFault tags left number block).map LogicError.withoutTexts := by
  have hfacts : (block.facts.map (PredicateOf.numbered f g)).find? tags'.mark =
      (block.facts.find? tags.mark).map (PredicateOf.numbered f g) := by
    rw [List.find?_map]
    exact congrArg _ (congrArg (List.find? · block.facts) (funext (mark_numbered h htags htags')))
  have hrules : ((block.rules.map (RuleOf.numbered f g)).find? fun rule =>
        tags'.mark rule.head || !rule.isRangeRestricted) =
      (block.rules.find? fun rule => tags.mark rule.head || !rule.isRangeRestricted).map
        (RuleOf.numbered f g) := by
    rw [List.find?_map]
    refine congrArg _ (congrArg (List.find? · block.rules) (funext fun rule => ?_))
    rw [Function.comp_apply, RuleOf.isRangeRestricted_numbered]
    exact congrArg (· || _) (mark_numbered h htags htags' rule.head)
  rw [blockFault, blockFault, Block.numbered]
  dsimp only
  rw [hfacts, hrules]
  cases block.facts.find? tags.mark with
  | some fact => simp only [Option.map_some, LogicError.withoutTexts]
  | none =>
    simp only [Option.map_none, Option.map_map]
    exact Option.map_congr fun rule _ => by simp only [Function.comp_apply, LogicError.withoutTexts]

/-- The same rules give a head a tag. -/
theorem taggingRule?_numbered {world world' : World}
    (hworld : FactsExchanged f g world.facts.toSet world'.facts.toSet) {rules : List Rule}
    (hrules : ∀ rule ∈ rules, rule.Settled) :
    taggingRule? tags' right world' (rules.map (RuleOf.numbered f g)) =
      (taggingRule? tags left world rules).map (RuleOf.numbered f g) := by
  rw [taggingRule?_eq htags', taggingRule?_eq htags, List.find?_map]
  refine congrArg _ (List.find?_congr fun rule hrule => ?_)
  rw [Function.comp_apply, decide_eq_decide]
  exact RuleOf.bindsTag_numbered_iff h hworld (hrules rule hrule)

end

end Verification

end Warrant
