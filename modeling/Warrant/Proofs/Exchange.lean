import Warrant.Proofs.Equivariance
import Warrant.Proofs.Saturation

namespace Warrant

variable {f : Equiv.Perm UInt32} {g : Equiv.Perm UInt64}

theorem mapM_under_numbered (σ : Valuation) (ts : List Term) :
    (ts.map (TermOf.numbered f g)).mapM (TermOf.under (σ.numbered f g)) =
      (ts.mapM (TermOf.under σ)).map (List.map (TermOf.numbered f g)) := by
  induction ts with
  | nil => rfl
  | cons t ts ih =>
    rw [List.map_cons, List.mapM_cons, List.mapM_cons, ih, under_numbered]
    cases t.under σ <;> cases ts.mapM (TermOf.under σ) <;> rfl

theorem PredicateOf.substitute_numbered (σ : Valuation) (p : Predicate) :
    (p.numbered f g).substitute (σ.numbered f g) = (p.substitute σ).map (numbered f g) := by
  rw [substitute, substitute, numbered, mapM_under_numbered, Option.map_map, Option.map_map]
  rfl

theorem Valuation.Settled.numbered_refl {σ : Valuation} (hσ : σ.Settled) :
    σ.numbered (.refl _) (.refl _) = σ := by
  funext v
  rw [numbered, Equiv.refl_symm, Equiv.refl_apply]
  cases hv : σ v with
  | none => rfl
  | some t => exact congrArg some (hσ v t hv)

/-- What settled terms are put into is settled. -/
theorem PredicateOf.Settled.substitute {p : Predicate} (hp : p.Settled) {σ : Valuation}
    (hσ : σ.Settled) {fact : Fact} (h : p.substitute σ = some fact) : fact.Settled := by
  have hsame := p.substitute_numbered (f := .refl _) (g := .refl _) σ
  rw [hσ.numbered_refl, Equiv.coe_refl, Equiv.coe_refl, hp, h] at hsame
  exact (Option.some.inj hsame).symm

namespace RuleOf

variable {left right : SymbolTable} (h : SymbolTable.Moved g left right) {rule : Rule}
  (hrule : rule.Settled) {known : Set Fact} (hknown : ∀ fact ∈ known, fact.Settled)

include hknown in
theorem SatisfiedBy.settled {σ : Valuation} (hσ : rule.SatisfiedBy left known σ) : σ.Settled := by
  intro v t hv
  obtain ⟨fact, hfact, ht⟩ := hσ.exists_fact hv
  exact PredicateOf.settled_iff.1 (hknown fact hfact) t ht

include h hrule hknown in
theorem SatisfiedBy.numbered {σ : Valuation} (hσ : rule.SatisfiedBy left known σ) :
    (rule.numbered f g).SatisfiedBy right (PredicateOf.numbered f g '' known)
      (σ.numbered f g) := by
  have hsettled := hσ.settled hknown
  obtain ⟨_, _, hexpressions⟩ := settled_iff.1 hrule
  refine ⟨fun v => ?_, ?_, ?_⟩
  · rw [Valuation.numbered, Option.isSome_map, hσ.domain, mem_body_numbered_iff]
  · simp only [RuleOf.numbered, List.forall_mem_map]
    intro p hp
    obtain ⟨fact, hfact, hsubstitute, hground⟩ := hσ.body p hp
    refine ⟨fact.numbered f g, ⟨fact, hfact, rfl⟩, ?_, ?_⟩
    · rw [PredicateOf.substitute_numbered, hsubstitute, Option.map_some]
    · rw [PredicateOf.argVariables_numbered, hground, List.map_nil]
  · simp only [RuleOf.numbered, List.forall_mem_map]
    intro e he
    have hvalue : value right (σ.numbered f g) (e.map (OpOf.numbered f g)) =
        (value left σ e).map (TermOf.numbered f g) :=
      value_numbered (fun s _ => h.resolve s) hsettled (fun _ t _ => t.over_true)
        (hexpressions e he) fun op _ => op.over_true
    rw [hvalue, hσ.expressions e he]
    simp [TermOf.numbered]

end RuleOf

/-- Whether some things are others that an action makes of them and that can be undone. -/
structure Exchanged {α : Type} (act undo : α → α) (left right : Set α) : Prop where
  act_mem : ∀ a ∈ left, act a ∈ right ∧ undo (act a) = a
  undo_mem : ∀ b ∈ right, undo b ∈ left ∧ act (undo b) = b

namespace Exchanged

variable {α : Type} {act undo : α → α} {left right left' right' : Set α}

theorem symm (h : Exchanged act undo left right) : Exchanged undo act right left :=
  ⟨h.undo_mem, h.act_mem⟩

theorem union (h : Exchanged act undo left right) (h' : Exchanged act undo left' right') :
    Exchanged act undo (left ∪ left') (right ∪ right') where
  act_mem a ha := by
    rcases ha with ha | ha
    · exact (h.act_mem a ha).imp_left .inl
    · exact (h'.act_mem a ha).imp_left .inr
  undo_mem b hb := by
    rcases hb with hb | hb
    · exact (h.undo_mem b hb).imp_left .inl
    · exact (h'.undo_mem b hb).imp_left .inr

theorem of_map {xs : List α} (h : ∀ x ∈ xs, undo (act x) = x) :
    Exchanged act undo {x | x ∈ xs} {y | y ∈ xs.map act} where
  act_mem a ha := ⟨List.mem_map_of_mem ha, h a ha⟩
  undo_mem b hb := by
    obtain ⟨a, ha, rfl⟩ := List.mem_map.1 hb
    rw [h a ha]
    exact ⟨ha, rfl⟩

/-- Things that are made from the same in two ways are exchanged where the one way leads on to the
    other. -/
theorem of_made {β : Type} {make make' : β → α} (hact : ∀ b, act (make b) = make' b)
    (hundo : ∀ b, undo (make' b) = make b) {xs ys : List β} (hsame : ∀ b, b ∈ xs ↔ b ∈ ys) :
    Exchanged act undo {a | a ∈ xs.map make} {a | a ∈ ys.map make'} where
  act_mem a ha := by
    obtain ⟨b, hb, rfl⟩ := List.mem_map.1 ha
    rw [hact, hundo]
    exact ⟨List.mem_map_of_mem ((hsame b).1 hb), rfl⟩
  undo_mem a ha := by
    obtain ⟨b, hb, rfl⟩ := List.mem_map.1 ha
    rw [hundo, hact]
    exact ⟨List.mem_map_of_mem ((hsame b).2 hb), rfl⟩

theorem append {xs ys xs' ys' : List α} (h : Exchanged act undo {x | x ∈ xs} {x | x ∈ xs'})
    (h' : Exchanged act undo {y | y ∈ ys} {y | y ∈ ys'}) :
    Exchanged act undo {x | x ∈ xs ++ ys} {x | x ∈ xs' ++ ys'} := by
  simp only [List.mem_append]
  exact h.union h'

theorem size_le {act undo : Fact → Fact} {facts facts' : FactSet}
    (h : Exchanged act undo facts.toSet facts'.toSet) : facts.size ≤ facts'.size := by
  refine FactSet.size_le_of_image (fun fact hfact other hother hsame => ?_)
    fun fact hfact => (h.act_mem fact hfact).1
  rw [← (h.act_mem fact hfact).2, hsame, (h.act_mem other hother).2]

theorem size_eq {act undo : Fact → Fact} {facts facts' : FactSet}
    (h : Exchanged act undo facts.toSet facts'.toSet) : facts.size = facts'.size :=
  Nat.le_antisymm h.size_le h.symm.size_le

end Exchanged

/-- Whether some facts are others with exchanged numbers. -/
abbrev FactsExchanged (f : Equiv.Perm UInt32) (g : Equiv.Perm UInt64) (known known' : Set Fact) :
    Prop :=
  Exchanged (PredicateOf.numbered f g) (PredicateOf.numbered f.symm g.symm) known known'

/-- Whether some rules are others with exchanged numbers, in any order. -/
abbrev RulesExchanged (f : Equiv.Perm UInt32) (g : Equiv.Perm UInt64) (rules rules' : List Rule) :
    Prop :=
  Exchanged (RuleOf.numbered f g) (RuleOf.numbered f.symm g.symm) {rule | rule ∈ rules}
    {rule | rule ∈ rules'}

section

variable {left right : SymbolTable} (h : SymbolTable.Moved g left right) {known known' : Set Fact}
  (hknown : FactsExchanged f g known known')

theorem FactsExchanged.settled (hknown : FactsExchanged f g known known') {fact : Fact}
    (hfact : fact ∈ known) : fact.Settled := by
  rw [← (hknown.act_mem fact hfact).2]
  exact PredicateOf.settled_numbered _

theorem RulesExchanged.settled {rules rules' : List Rule} (h : RulesExchanged f g rules rules')
    {rule : Rule} (hrule : rule ∈ rules) : rule.Settled := by
  rw [← (h.act_mem rule hrule).2]
  exact RuleOf.settled_numbered _

theorem FactsExchanged.of_settled {facts : List Fact} (h : ∀ fact ∈ facts, fact.Settled) :
    FactsExchanged f g {fact | fact ∈ facts}
      {fact | fact ∈ facts.map (PredicateOf.numbered f g)} :=
  .of_map fun fact hfact => (h fact hfact).numbered_symm f g

theorem RulesExchanged.of_settled {rules : List Rule} (h : ∀ rule ∈ rules, rule.Settled) :
    RulesExchanged f g rules (rules.map (RuleOf.numbered f g)) :=
  .of_map fun rule hrule => (h rule hrule).numbered_symm f g

theorem FactsExchanged.image_subset (hknown : FactsExchanged f g known known') :
    PredicateOf.numbered f g '' known ⊆ known' := by
  rintro _ ⟨fact, hfact, rfl⟩
  exact (hknown.act_mem fact hfact).1

namespace RuleOf

include h hknown

/-- What a rule yields it yields again with exchanged numbers. -/
theorem Yields.numbered {rule : Rule} (hrule : rule.Settled) {fact : Fact}
    (hfact : rule.Yields left known fact) :
    (rule.numbered f g).Yields right known' (fact.numbered f g) ∧ fact.Settled := by
  obtain ⟨σ, hσ, hhead⟩ := yields_iff.1 hfact
  have hsettled := hσ.settled fun fact hfact => hknown.settled hfact
  have hσ' := (hσ.numbered h hrule fun fact hfact => hknown.settled hfact).mono hknown.image_subset
  refine ⟨yields_iff.2 ⟨_, hσ', ?_⟩, (settled_iff.1 hrule).1.substitute hsettled hhead⟩
  rw [RuleOf.numbered, PredicateOf.substitute_numbered, hhead, Option.map_some]

/-- A query that matches does so again with exchanged numbers. -/
theorem Matches.numbered {query : Rule} (hquery : query.Settled)
    (hmatch : query.Matches left known) : (query.numbered f g).Matches right known' := by
  obtain ⟨σ, hσ⟩ := matches_iff.1 hmatch
  have hσ' := (hσ.numbered h hquery fun fact hfact => hknown.settled hfact).mono
    hknown.image_subset
  exact matches_iff.2 ⟨_, hσ'⟩

theorem matches_numbered_iff {query : Rule} (hquery : query.Settled) :
    (query.numbered f g).Matches right known' ↔ query.Matches left known := by
  refine ⟨fun hmatch => ?_, fun hmatch => hmatch.numbered h hknown hquery⟩
  have hback := hmatch.numbered h.symm hknown.symm (settled_numbered query)
  rwa [hquery.numbered_symm] at hback

end RuleOf

end

section

variable {left right : SymbolTable} (h : SymbolTable.Moved g left right) {rules rules' : List Rule}
  (hrules : RulesExchanged f g rules rules') {facts facts' : FactSet}
  (hfacts : FactsExchanged f g facts.toSet facts'.toSet)

theorem FactsExchanged.numbered_mem_newFacts (h : SymbolTable.Moved g left right)
    (hrules : RulesExchanged f g rules rules')
    (hfacts : FactsExchanged f g facts.toSet facts'.toSet) {fact : Fact}
    (hfact : fact ∈ newFacts left rules facts) :
    fact.numbered f g ∈ newFacts right rules' facts' ∧
      (fact.numbered f g).numbered f.symm g.symm = fact := by
  obtain ⟨hnot, rule, hrule, hfact⟩ := hfact
  obtain ⟨hyields, hsettled⟩ := RuleOf.Yields.numbered h hfacts (hrules.settled hrule)
    (RuleOf.yields_list_iff.2 hfact)
  have hsame := hsettled.numbered_symm f g
  refine ⟨⟨fun hmem => hnot ?_, _, (hrules.act_mem rule hrule).1,
    RuleOf.yields_list_iff.1 hyields⟩, hsame⟩
  have hback := (hfacts.undo_mem _ hmem).1
  rwa [hsame] at hback

include h hrules hfacts

/-- A round finds the same new facts with exchanged numbers. -/
theorem FactsExchanged.newFacts :
    FactsExchanged f g (newFacts left rules facts) (newFacts right rules' facts') where
  act_mem _ hfact := numbered_mem_newFacts h hrules hfacts hfact
  undo_mem _ hfact := numbered_mem_newFacts h.symm hrules.symm hfacts.symm hfact

end

/-- Rules with exchanged numbers, in any order, run as long, and to the same facts with exchanged
    numbers. -/
theorem FactsExchanged.saturate {left right : SymbolTable} (h : SymbolTable.Moved g left right)
    {rules rules' : List Rule} (hrules : RulesExchanged f g rules rules') {facts facts' : FactSet}
    (hfacts : FactsExchanged f g facts.toSet facts'.toSet) (limits : Limits) (rounds : Nat)
    {clock : Clock} (hclock : clock.readings = none) :
    (saturate right limits rules' rounds facts' clock).outcome =
        (saturate left limits rules rounds facts clock).outcome ∧
      FactsExchanged f g (saturate left limits rules rounds facts clock).facts.toSet
        (saturate right limits rules' rounds facts' clock).facts.toSet := by
  induction rounds generalizing facts facts' with
  | zero => exact ⟨rfl, hfacts⟩
  | succ rounds ih =>
    obtain ⟨fresh, hfresh, hrun⟩ := exists_saturate_succ left limits rules rounds facts hclock
    obtain ⟨fresh', hfresh', hrun'⟩ := exists_saturate_succ right limits rules' rounds facts' hclock
    have hnew : FactsExchanged f g fresh.toSet fresh'.toSet := by
      rw [hfresh, hfresh']
      exact hfacts.newFacts h hrules
    have hunion : FactsExchanged f g (facts.union fresh).toSet (facts'.union fresh').toSet := by
      rw [FactSet.toSet_union, FactSet.toSet_union]
      exact hfacts.union hnew
    rw [hrun, hrun', ← hnew.size_eq, ← hfacts.size_eq]
    split
    · exact ⟨rfl, hfacts⟩
    split
    · exact ⟨rfl, hfacts⟩
    split
    · exact ⟨rfl, hunion⟩
    · exact ih hunion

end Warrant
