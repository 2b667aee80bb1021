import Warrant.Proofs.Agreeing
import Warrant.Proofs.Saturation

namespace Warrant

/-- Whether those of some facts that are about certain predicates are among others, and have certain
    strings only. -/
def Carried (strings predicates : UInt64 → Prop) (known known' : Set Fact) : Prop :=
  ∀ fact ∈ known, predicates fact.name →
    fact ∈ known' ∧ ∀ t ∈ fact.terms, t.Over (fun _ => True) strings

namespace Carried

variable {names : UInt32 → Prop} {strings heads predicates : UInt64 → Prop}
  {left right : SymbolTable} {known known' : Set Fact}

theorem mono (h : Carried strings predicates known known') {known'' : Set Fact}
    (hsubset : known' ⊆ known'') : Carried strings predicates known known'' :=
  fun fact hfact hname => ⟨hsubset (h fact hfact hname).1, (h fact hfact hname).2⟩

theorem of_subset (h : Carried strings predicates known known') {known₀ : Set Fact}
    (hsubset : known₀ ⊆ known) : Carried strings predicates known₀ known' :=
  fun fact hfact => h fact (hsubset hfact)

theorem union_left (h : Carried strings predicates known known') {others : Set Fact}
    (hothers : Carried strings predicates others known') :
    Carried strings predicates (known ∪ others) known' := by
  rintro fact (hfact | hfact)
  · exact h fact hfact
  · exact hothers fact hfact

theorem union (h : Carried strings predicates known known') {new : Set Fact}
    (hnew : ∀ fact ∈ new, ∀ t ∈ fact.terms, t.Over (fun _ => True) strings) :
    Carried strings predicates (known ∪ new) (known' ∪ new) := by
  rintro fact (hfact | hfact) hname
  · exact h.mono Set.subset_union_left fact hfact hname
  · exact ⟨.inr hfact, hnew fact hfact⟩

section

variable (h : Carried strings predicates known known') {rule : Rule}
  (hrule : rule.Over names strings heads predicates) {σ : Valuation}
include h hrule

/-- Variables stand for arguments of facts about those predicates. -/
theorem over_value (hσ : rule.SatisfiedBy left known σ) {v : UInt32} {t : Term}
    (hv : σ v = some t) : t.Over (fun _ => True) strings := by
  have hspoken : rule.SatisfiedBy left {fact | fact ∈ known ∧ predicates fact.name} σ := by
    refine ⟨hσ.domain, fun p hp => ?_, hσ.expressions⟩
    obtain ⟨fact, hfact, hsubstitute, hground⟩ := hσ.body p hp
    have hname := (PredicateOf.substitute_eq_some_iff.1 hsubstitute).1
    exact ⟨fact, ⟨hfact, hname ▸ (hrule.body p hp).1⟩, hsubstitute, hground⟩
  obtain ⟨fact, ⟨hfact, hname⟩, ht⟩ := hspoken.exists_fact hv
  exact (h fact hfact hname).2 t ht

/-- What a rule about those predicates yields has the strings of the rule and of the facts. -/
theorem over_of_yields {fact : Fact} (hfact : rule.Yields left known fact) :
    fact.Over (fun _ => True) strings heads := by
  obtain ⟨σ, hσ, hhead⟩ := RuleOf.yields_iff.1 hfact
  obtain ⟨hname, hterms⟩ := PredicateOf.substitute_eq_some_iff.1 hhead
  refine ⟨hname ▸ hrule.head.1, fun t ht => ?_⟩
  obtain ⟨pattern, hpattern, hunder⟩ := exists_of_forall₂ hterms.flip ht
  cases pattern with
  | var v => exact h.over_value hrule hσ hunder
  | _ =>
    cases hunder
    exact TermOf.Over.imp (fun _ _ => trivial) (fun _ h => h) _ (hrule.head.2 _ hpattern)

variable (hagree : ∀ s, strings s → left.resolve? s = right.resolve? s)
include hagree

theorem satisfiedBy_right (hσ : rule.SatisfiedBy left known σ) : rule.SatisfiedBy right known' σ := by
  refine ⟨hσ.domain, fun p hp => ?_, fun e he => ?_⟩
  · obtain ⟨fact, hfact, hsubstitute, hground⟩ := hσ.body p hp
    have hname := (PredicateOf.substitute_eq_some_iff.1 hsubstitute).1
    exact ⟨fact, (h fact hfact (hname ▸ (hrule.body p hp).1)).1, hsubstitute, hground⟩
  · have hover (op : Op) (hop : op ∈ e) : op.Over (fun _ => True) strings :=
      (hrule.expressions e he op hop).imp (fun _ _ => trivial) fun _ h => h
    rw [← value_congr hagree (fun _ _ hv => h.over_value hrule hσ hv) hover]
    exact hσ.expressions e he

theorem matches_right (hmatches : rule.Matches left known) : rule.Matches right known' := by
  obtain ⟨σ, hσ⟩ := RuleOf.matches_iff.1 hmatches
  exact RuleOf.matches_iff.2 ⟨σ, h.satisfiedBy_right hrule hagree hσ⟩

theorem yields_right {fact : Fact} (hfact : rule.Yields left known fact) :
    rule.Yields right known' fact := by
  obtain ⟨σ, hσ, hhead⟩ := RuleOf.yields_iff.1 hfact
  exact RuleOf.yields_iff.2 ⟨σ, h.satisfiedBy_right hrule hagree hσ, hhead⟩

end

/-- Whatever rules derive from facts that are carried into a set closed under them is carried
    there. -/
theorem leastModel (h : Carried strings predicates known known') {rules : List Rule}
    (hrules : ∀ rule ∈ rules, rule.Over names strings predicates predicates)
    (hagree : ∀ s, strings s → left.resolve? s = right.resolve? s)
    (hclosed : ClosedUnder right rules known') :
    Carried strings predicates (leastModel left rules known) known' := by
  let carried : Set Fact := {fact | predicates fact.name →
    fact ∈ known' ∧ ∀ t ∈ fact.terms, t.Over (fun _ => True) strings}
  have hcarried : Carried strings predicates carried known' := fun _ hfact => hfact
  have hsubset : Warrant.leastModel left rules known ⊆ carried := by
    refine leastModel_subset h fun rule hrule fact hfact _ => ?_
    have hyields := hcarried.yields_right (hrules rule hrule) hagree hfact
    exact ⟨hclosed rule hrule fact hyields, (hcarried.over_of_yields (hrules rule hrule) hfact).2⟩
  exact hsubset

/-- What is closed under rules stays so under tables with the same strings. -/
theorem closedUnder (h : Carried strings predicates known known) {rules : List Rule}
    (hrules : ∀ rule ∈ rules, rule.Over names strings predicates predicates)
    (hagree : ∀ s, strings s → left.resolve? s = right.resolve? s)
    (hclosed : ClosedUnder right rules known) : ClosedUnder left rules known :=
  fun rule hrule fact hfact =>
    hclosed rule hrule fact (h.yields_right (hrules rule hrule) hagree hfact)

end Carried

/-- Facts with certain strings are carried into any set that has them. -/
theorem carried_of_subset {strings predicates : UInt64 → Prop} {known known' : Set Fact}
    (hsubset : known ⊆ known')
    (hover : ∀ fact ∈ known, ∀ t ∈ fact.terms, t.Over (fun _ => True) strings) :
    Carried strings predicates known known' :=
  fun fact hfact _ => ⟨hsubset hfact, hover fact hfact⟩

end Warrant
