import Mathlib.Logic.Equiv.Basic
import Warrant.Proofs.Carrying
import Warrant.Proofs.Symbols

namespace Warrant

/-- Two tables that go on from a third one, and the positions that the name of revocation facts has
    in them. -/
structure Fork (base left right : SymbolTable) (r r' : UInt64) : Prop where
  leftStart : base.names <+: left.names
  rightStart : base.names <+: right.names
  leftSize : left.size ≤ UInt64.size
  rightSize : right.size ≤ UInt64.size
  leftFind : left.find? "revocation_id" = some r
  rightFind : right.find? "revocation_id" = some r'

namespace Fork

variable {base left right : SymbolTable} {r r' s : UInt64} (h : Fork base left right r r')
include h

theorem symm : Fork base right left r' r :=
  ⟨h.rightStart, h.leftStart, h.rightSize, h.leftSize, h.rightFind, h.leftFind⟩

theorem resolve?_eq (hs : base.Has (fun _ => True) s) : left.resolve? s = right.resolve? s := by
  obtain ⟨name, hname, _⟩ := hs
  rw [SymbolTable.resolve?_of_find? h.leftSize (SymbolTable.find?_of_prefix h.leftStart hname),
    SymbolTable.resolve?_of_find? h.rightSize (SymbolTable.find?_of_prefix h.rightStart hname)]

/-- Other names of the common table do not name revocation facts in either table. -/
theorem ne_of_has (hs : base.Has (· ≠ "revocation_id") s) : s ≠ r ∧ s ≠ r' := by
  obtain ⟨name, hname, hapart⟩ := hs
  constructor
  · rintro rfl
    have hleft := SymbolTable.find?_of_prefix h.leftStart hname
    exact hapart (SymbolTable.find?_inj h.leftSize hleft h.leftFind)
  · rintro rfl
    have hright := SymbolTable.find?_of_prefix h.rightStart hname
    exact hapart (SymbolTable.find?_inj h.rightSize hright h.rightFind)

/-- Exchanging the two positions moves no name of the common table: if it has the name of
    revocation facts, then they are one. -/
theorem swap_eq (hs : base.Has (fun _ => True) s) : Equiv.swap r r' s = s := by
  obtain ⟨name, hname, _⟩ := hs
  by_cases hapart : name = "revocation_id"
  · subst hapart
    have hleft := SymbolTable.find?_of_prefix h.leftStart hname
    have hright := SymbolTable.find?_of_prefix h.rightStart hname
    rw [h.leftFind, Option.some.injEq] at hleft
    rw [h.rightFind, Option.some.injEq] at hright
    rw [hleft, hright, Equiv.swap_self, Equiv.refl_apply]
  · obtain ⟨hr, hr'⟩ := h.ne_of_has ⟨name, hname, hapart⟩
    exact Equiv.swap_apply_of_ne_of_ne hr hr'

end Fork

/-- The fact with one name in place of another. -/
def PredicateOf.exchanged (r r' : UInt64) (p : Predicate) : Predicate :=
  { p with name := Equiv.swap r r' p.name }

theorem PredicateOf.exchanged_injective (r r' : UInt64) :
    Function.Injective (PredicateOf.exchanged r r') := by
  rintro ⟨name, terms⟩ ⟨name', terms'⟩ h
  obtain ⟨hname, hterms⟩ := PredicateOf.mk.inj h
  obtain rfl : name = name' := (Equiv.swap r r').injective hname
  obtain rfl : terms = terms' := hterms
  rfl

/-- Whether some facts are found again among others, where the two may differ in revocation facts
    and the latter may have more of these. The strings in the former are those of a table. -/
structure Mirrors (base : SymbolTable) (r r' : UInt64) (known known' : Set Fact) : Prop where
  agree : ∀ fact : Fact, fact.name ≠ r → fact.name ≠ r' → (fact ∈ known ↔ fact ∈ known')
  image : ∀ fact ∈ known, fact.exchanged r r' ∈ known'
  terms : ∀ fact ∈ known, ∀ t ∈ fact.terms, t.Over (fun _ => True) (base.Has fun _ => True)

/-- Whether a fact has only strings that a table has. -/
abbrev FactOver (base : SymbolTable) (fact : Fact) : Prop :=
  fact.Over (fun _ => True) (base.Has fun _ => True) (base.Has fun _ => True)

/-- Exchanging the names of revocation facts changes no fact of the common table. -/
theorem Fork.exchanged_eq {base left right : SymbolTable} {r r' : UInt64}
    (h : Fork base left right r r') {fact : Fact} (hfact : FactOver base fact) :
    fact.exchanged r r' = fact := by
  rw [PredicateOf.exchanged, h.swap_eq hfact.1]

/-- Whether a rule has only strings that a table has, and does not speak of revocation facts. -/
abbrev RuleOver (base : SymbolTable) (rule : Rule) : Prop :=
  rule.Over (fun _ => True) (base.Has fun _ => True) (base.Has (· ≠ "revocation_id"))
    (base.Has (· ≠ "revocation_id"))

/-- Whether a query has only strings that a table has, and does not ask for revocation facts. -/
abbrev QueryOver (base : SymbolTable) (query : Rule) : Prop :=
  query.Over (fun _ => True) (base.Has fun _ => True) (base.Has fun _ => True)
    (base.Has (· ≠ "revocation_id"))

section

variable {base left right : SymbolTable} {r r' : UInt64} (hfork : Fork base left right r r')
  {known known' : Set Fact} (h : Mirrors base r r' known known')
include hfork h

/-- Facts that do not state revocations are carried from either side to the other. -/
theorem Mirrors.carried :
    Carried (base.Has fun _ => True) (base.Has (· ≠ "revocation_id")) known known' ∧
      Carried (base.Has fun _ => True) (base.Has (· ≠ "revocation_id")) known' known := by
  constructor
  · intro fact hfact hname
    obtain ⟨hr, hr'⟩ := hfork.ne_of_has hname
    exact ⟨(h.agree fact hr hr').1 hfact, h.terms fact hfact⟩
  · intro fact hfact hname
    obtain ⟨hr, hr'⟩ := hfork.ne_of_has hname
    have hfact := (h.agree fact hr hr').2 hfact
    exact ⟨hfact, h.terms fact hfact⟩

/-- A body that does not ask for revocation facts is satisfied alike on both sides. -/
theorem Mirrors.satisfiedBy_iff {rule : Rule} (hrule : QueryOver base rule) {σ : Valuation} :
    rule.SatisfiedBy left known σ ↔ rule.SatisfiedBy right known' σ := by
  obtain ⟨hthere, hback⟩ := h.carried hfork
  exact ⟨hthere.satisfiedBy_right hrule fun s hs => hfork.resolve?_eq hs,
    hback.satisfiedBy_right hrule fun s hs => (hfork.resolve?_eq hs).symm⟩

theorem Mirrors.matches_iff {query : Rule} (hquery : QueryOver base query) :
    query.Matches left known ↔ query.Matches right known' := by
  rw [RuleOf.matches_iff, RuleOf.matches_iff]
  exact exists_congr fun σ => h.satisfiedBy_iff hfork hquery

theorem Mirrors.yields_iff {rule : Rule} (hrule : RuleOver base rule) {fact : Fact} :
    rule.Yields left known fact ↔ rule.Yields right known' fact := by
  have hquery : QueryOver base rule :=
    hrule.imp (fun _ h => h) (fun _ h => h) (fun _ h => h.imp fun _ _ => trivial) fun _ h => h
  rw [RuleOf.yields_iff, RuleOf.yields_iff]
  exact exists_congr fun σ => and_congr_left fun _ => h.satisfiedBy_iff hfork hquery

/-- Facts that are added to both sides are found again, too. -/
theorem Mirrors.union {new : Set Fact} (hnew : ∀ fact ∈ new, FactOver base fact) :
    Mirrors base r r' (known ∪ new) (known' ∪ new) where
  agree fact hr hr' := or_congr_left (h.agree fact hr hr')
  image fact hfact := by
    rcases hfact with hfact | hfact
    · exact .inl (h.image fact hfact)
    · rw [hfork.exchanged_eq (hnew fact hfact)]
      exact .inr hfact
  terms fact hfact := by
    rcases hfact with hfact | hfact
    · exact h.terms fact hfact
    · exact (hnew fact hfact).2

end

section

variable {base left right : SymbolTable} {r r' : UInt64} (hfork : Fork base left right r r')
  {limits : Limits} {rules : List Rule} (hrules : ∀ rule ∈ rules, RuleOver base rule)
  {facts facts' : FactSet}
include hfork hrules

/-- A round finds the same new facts on both sides. -/
theorem Mirrors.newFacts_eq (h : Mirrors base r r' facts.toSet facts'.toSet) :
    newFacts left rules facts = newFacts right rules facts' := by
  ext fact
  constructor
  · rintro ⟨hnot, rule, hrule, hfact⟩
    have hyields : rule.Yields left facts.toSet fact := RuleOf.yields_list_iff.2 hfact
    have hover := (h.carried hfork).1.over_of_yields (hrules rule hrule) hyields
    obtain ⟨hr, hr'⟩ := hfork.ne_of_has hover.1
    refine ⟨fun hmem => hnot ((h.agree fact hr hr').2 hmem), rule, hrule, ?_⟩
    exact RuleOf.yields_list_iff.1 ((h.yields_iff hfork (hrules rule hrule)).1 hyields)
  · rintro ⟨hnot, rule, hrule, hfact⟩
    have hyields : rule.Yields left facts.toSet fact :=
      (h.yields_iff hfork (hrules rule hrule)).2 (RuleOf.yields_list_iff.2 hfact)
    have hover := (h.carried hfork).1.over_of_yields (hrules rule hrule) hyields
    obtain ⟨hr, hr'⟩ := hfork.ne_of_has hover.1
    exact ⟨fun hmem => hnot ((h.agree fact hr hr').1 hmem), rule, hrule,
      RuleOf.yields_list_iff.1 hyields⟩

theorem Mirrors.over_of_mem_newFacts (h : Mirrors base r r' facts.toSet facts'.toSet) {fact : Fact}
    (hfact : fact ∈ newFacts left rules facts) : FactOver base fact := by
  obtain ⟨_, rule, hrule, hfact⟩ := hfact
  have hyields : rule.Yields left facts.toSet fact := RuleOf.yields_list_iff.2 hfact
  exact ((h.carried hfork).1.over_of_yields (hrules rule hrule) hyields).imp
    (fun _ h => h) (fun _ h => h) fun _ h => h.imp fun _ _ => trivial

omit hfork hrules in
theorem Mirrors.size_le (h : Mirrors base r r' facts.toSet facts'.toSet) :
    facts.size ≤ facts'.size :=
  FactSet.size_le_of_image (fun _ _ _ _ hsame => PredicateOf.exchanged_injective r r' hsame) h.image

/-- Whenever a run with more revocation facts ends by itself, so does the run without them, in as
    many rounds. -/
theorem Mirrors.saturate (h : Mirrors base r r' facts.toSet facts'.toSet) (rounds : Nat)
    {clock clock' last : Clock} (hclock : clock.readings = none)
    (hok : (saturate right limits rules rounds facts' clock').outcome = .ok last) :
    (saturate left limits rules rounds facts clock).outcome = .ok clock ∧
      Mirrors base r r' (saturate left limits rules rounds facts clock).facts.toSet
        (saturate right limits rules rounds facts' clock').facts.toSet := by
  induction rounds generalizing facts facts' clock' with
  | zero => cases hok
  | succ rounds ih =>
    have hnew := h.newFacts_eq hfork hrules
    have hstep := saturateStep_saturate left limits rules rounds facts clock
    have hstep' := saturateStep_saturate right limits rules rounds facts' clock'
    generalize Warrant.saturate left limits rules (rounds + 1) facts clock = run at hstep ⊢
    generalize Warrant.saturate right limits rules (rounds + 1) facts' clock' = run' at hok hstep' ⊢
    cases hstep' with
    | full _ _ _ => cases hok
    | late _ => cases hok
    | settled hnone' _ =>
      have hnone (fact : Fact) : fact ∉ newFacts left rules facts := hnew ▸ hnone' fact
      cases hstep with
      | full hexcess hpos _ =>
        obtain ⟨fact, hfact⟩ := FactSet.exists_mem_of_size_pos hpos
        exact absurd (hexcess fact hfact) (hnone fact)
      | late hlate => exact absurd hclock hlate
      | settled _ hsame =>
        rw [hsame hclock]
        exact ⟨rfl, h⟩
      | grown hfresh hpos _ _ =>
        obtain ⟨fact, hfact⟩ := FactSet.exists_mem_of_size_pos hpos
        exact absurd ((hfresh fact).1 hfact) (hnone fact)
    | @grown fresh' _ hfresh' hpos' hroom' hrun' =>
      have hsize := h.size_le
      rcases hrun' with ⟨_, rfl⟩ | ⟨_, rfl⟩ | ⟨next', hrounds, _, rfl⟩
      · cases hok
      · cases hok
      cases hstep with
      | @full excess hexcess _ hfull =>
        have hle : excess.size ≤ fresh'.size :=
          FactSet.size_le_of_image (f := id) (fun _ _ _ _ hsame => hsame) fun fact hfact =>
            (hfresh' fact).2 (hnew ▸ hexcess fact hfact)
        omega
      | late hlate => exact absurd hclock hlate
      | settled hnone _ =>
        obtain ⟨fact, hfact⟩ := FactSet.exists_mem_of_size_pos hpos'
        exact absurd (hnew ▸ (hfresh' fact).1 hfact) (hnone fact)
      | @grown fresh _ hfresh _ _ hrun =>
        have hsame : fresh.toSet = fresh'.toSet := by
          ext fact
          rw [FactSet.mem_toSet, FactSet.mem_toSet, hfresh, hfresh', hnew]
        have hunion : Mirrors base r r' (facts.union fresh).toSet (facts'.union fresh').toSet := by
          rw [FactSet.toSet_union, FactSet.toSet_union, ← hsame]
          exact h.union hfork fun fact hfact =>
            h.over_of_mem_newFacts hfork hrules ((hfresh fact).1 hfact)
        rcases hrun with ⟨hzero, _⟩ | ⟨hlate, _⟩ | ⟨next, _, hkept, rfl⟩
        · exact absurd hzero hrounds
        · exact absurd hclock hlate
        · rw [hkept hclock]
          exact ih hunion hok

end

end Warrant
