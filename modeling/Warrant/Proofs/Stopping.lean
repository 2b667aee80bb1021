import Warrant.Proofs.Rounds
import Mathlib.Order.CompletePartialOrder

namespace Warrant

/-- Whether a run may have come through a number of rounds, where `facts` are the facts after each
    round: there may be so many rounds, each of them has added something, and none too much. -/
structure ComesThrough (facts : Nat → Set Fact) (limits : Limits) (rounds : Nat) : Prop where
  le : rounds ≤ max 1 limits.maxIterations
  grown : ∀ k < rounds, facts k ⊂ facts (k + 1)
  fit : ∀ k < rounds, (facts (k + 1)).ncard ≤ limits.maxFacts

theorem ComesThrough.ssubset {facts : Nat → Set Fact} {limits : Limits} {rounds k : Nat}
    (h : ComesThrough facts limits rounds) (hk : k < rounds) : facts 0 ⊂ facts (k + 1) := by
  induction k with
  | zero => exact h.grown 0 hk
  | succ k ih => exact (ih (Nat.lt_of_succ_lt hk)).trans (h.grown (k + 1) hk)

/-- The facts are as they were only before the first round has been completed. -/
theorem ComesThrough.eq_iff {facts : Nat → Set Fact} {limits : Limits} {rounds : Nat}
    (h : ComesThrough facts limits rounds) : facts rounds = facts 0 ↔ rounds = 0 := by
  cases rounds with
  | zero => simp
  | succ k => exact ⟨fun hsame => absurd hsame (h.ssubset k.lt_succ_self).ne', nofun⟩

/-- Why a run goes no further than a number of rounds. -/
inductive StopsAfter (facts : Nat → Set Fact) (limits : Limits) (rounds : Nat) (clock : Clock) :
    Except RunLimitError Clock → Prop where
  /-- There is nothing more to be added. -/
  | settled {last : Clock} (hsettled : facts (rounds + 1) = facts rounds)
      (hclock : clock.readings = none → last = clock) :
      StopsAfter facts limits rounds clock (.ok last)
  /-- The next round would add too much. -/
  | full (hround : rounds < max 1 limits.maxIterations) (hgrows : facts rounds ⊂ facts (rounds + 1))
      (hfull : limits.maxFacts < (facts (rounds + 1)).ncard) :
      StopsAfter facts limits rounds clock (.error .tooManyFacts)
  /-- There may be no next round. -/
  | cut (hmost : rounds = max 1 limits.maxIterations) :
      StopsAfter facts limits rounds clock (.error .tooManyIterations)
  /-- The time is over. -/
  | late (hclock : clock.readings ≠ none) : StopsAfter facts limits rounds clock (.error .timeout)

theorem StopsAfter.of_clock {facts : Nat → Set Fact} {limits : Limits} {rounds : Nat}
    {clock clock' : Clock} {outcome : Except RunLimitError Clock}
    (h : StopsAfter facts limits rounds clock' outcome)
    (hclock : clock.readings = none → clock' = clock) :
    StopsAfter facts limits rounds clock outcome := by
  cases h with
  | settled hsettled hlast =>
    refine .settled hsettled fun hendless => ?_
    have hsame := hclock hendless
    rw [hlast (hsame ▸ hendless), hsame]
  | full hround hgrows hfull => exact .full hround hgrows hfull
  | cut hmost => exact .cut hmost
  | late hlate =>
    refine .late fun hendless => hlate ?_
    rw [hclock hendless, hendless]

section

variable {symbols : SymbolTable} {rules : List Rule} {base : Set Fact} {limits : Limits}

theorem ssubset_afterRounds_succ {done : Nat} {facts fresh : FactSet}
    (hfacts : facts.toSet = afterRounds symbols rules base done)
    (hfresh : fresh.toSet = newFacts symbols rules facts) (hpos : 0 < fresh.size) :
    afterRounds symbols rules base done ⊂ afterRounds symbols rules base (done + 1) := by
  obtain ⟨fact, hfact⟩ := FactSet.exists_mem_of_size_pos hpos
  refine ⟨Set.subset_union_left, fun hsubset => ?_⟩
  rw [afterRounds_succ_eq hfacts hfresh, ← hfacts, FactSet.toSet_union] at hsubset
  exact (hfresh.le hfact).1 (hsubset (.inr hfact))

/-- From the facts after some rounds a run goes on through more of them, as far as it comes,
    whatever stops it. -/
theorem exists_stop_of_saturate (clock : Clock) {rounds done : Nat} {facts : FactSet}
    (hrounds : rounds ≠ 0) (hmost : done + rounds = max 1 limits.maxIterations)
    (hdone : ComesThrough (afterRounds symbols rules base) limits done)
    (hfacts : facts.toSet = afterRounds symbols rules base done) :
    ∃ last, ComesThrough (afterRounds symbols rules base) limits last ∧
      StopsAfter (afterRounds symbols rules base) limits last clock
        (saturate symbols limits rules rounds facts clock).outcome ∧
      (saturate symbols limits rules rounds facts clock).facts.toSet =
        afterRounds symbols rules base last := by
  induction rounds generalizing done facts clock with
  | zero => exact absurd rfl hrounds
  | succ rounds ih =>
    have hstep := saturateStep_saturate symbols limits rules rounds facts clock
    generalize saturate symbols limits rules (rounds + 1) facts clock = run at hstep
    cases hstep with
    | @full excess hexcess hpos hfull =>
      obtain ⟨fresh, hfresh⟩ := exists_newFacts symbols rules facts
      have hle : excess.size ≤ fresh.size :=
        FactSet.size_le_of_image (f := id) (fun _ _ _ _ hsame => hsame) fun fact hfact =>
          hfresh.ge (hexcess fact hfact)
      refine ⟨done, hdone, .full (by omega) ?_ ?_, hfacts⟩
      · exact ssubset_afterRounds_succ hfacts hfresh (hpos.trans_le hle)
      · rw [ncard_afterRounds_succ hfacts hfresh]
        omega
    | late hclock => exact ⟨done, hdone, .late hclock, hfacts⟩
    | settled hnew hclock =>
      obtain ⟨fresh, hfresh⟩ := exists_newFacts symbols rules facts
      have hnone : fresh.toSet = ∅ :=
        Set.eq_empty_of_forall_notMem fun fact hfact => hnew fact (hfresh.le hfact)
      refine ⟨done, hdone, .settled ?_ hclock, hfacts⟩
      rw [afterRounds_succ_eq hfacts hfresh, FactSet.toSet_union, hnone, Set.union_empty, hfacts]
    | @grown fresh _ hmem hpos hroom hrun =>
      have hfresh : fresh.toSet = newFacts symbols rules facts := Set.ext hmem
      have hnext := (afterRounds_succ_eq hfacts hfresh).symm
      have hgrown : ComesThrough (afterRounds symbols rules base) limits (done + 1) := by
        refine ⟨by omega, fun k hk => ?_, fun k hk => ?_⟩
        · rcases Nat.lt_succ_iff_lt_or_eq.1 hk with hk | rfl
          · exact hdone.grown k hk
          · exact ssubset_afterRounds_succ hfacts hfresh hpos
        · rcases Nat.lt_succ_iff_lt_or_eq.1 hk with hk | rfl
          · exact hdone.fit k hk
          · exact (ncard_afterRounds_succ hfacts hfresh).trans_le hroom
      rcases hrun with ⟨rfl, rfl⟩ | ⟨hlate, rfl⟩ | ⟨clock', hmore, hclock, rfl⟩
      · exact ⟨done + 1, hgrown, .cut hmost, hnext⟩
      · exact ⟨done + 1, hgrown, .late hlate, hnext⟩
      · obtain ⟨last, hlast, hstop, hfacts'⟩ := ih clock' hmore (by omega) hgrown hnext
        exact ⟨last, hlast, hstop.of_clock hclock, hfacts'⟩

/-- A run comes through no more rounds than there are facts to derive. -/
theorem ComesThrough.le_ncard {rounds : Nat} (hbase : base.Finite)
    (h : ComesThrough (afterRounds symbols rules base) limits rounds) :
    rounds ≤ (derivable rules base).ncard :=
  (le_ncard_of_growing symbols rules hbase fun k hk => (h.grown k hk).ne').trans
    (Set.ncard_le_ncard Set.inter_subset_right (finite_derivable hbase))

/-- Whatever the rules yield in some round can be derived. -/
theorem mem_derivable_of_yields {rounds : Nat} {rule : Rule} (hrule : rule ∈ rules) {fact : Fact}
    (hyields : rule.Yields symbols (afterRounds symbols rules base rounds) fact) :
    fact ∈ derivable rules base := by
  refine mem_derivable (fun other hother t ht => ?_) hrule hyields
  rcases afterRounds_subset symbols rules base rounds hother with hgiven | hderived
  · exact .inl ⟨other, hgiven, ht⟩
  · exact hderived.2 t ht

/-- After a round that adds nothing no round adds anything. -/
theorem afterRounds_of_settled {settled : Nat}
    (h : afterRounds symbols rules base (settled + 1) = afterRounds symbols rules base settled)
    {rounds : Nat} (hrounds : settled ≤ rounds) :
    afterRounds symbols rules base rounds = afterRounds symbols rules base settled := by
  induction rounds, hrounds using Nat.le_induction with
  | base => rfl
  | succ rounds _ ih => rw [afterRounds, ih, ← afterRounds, h]

/-- The rounds that add something come first, and there are no more of them than facts to
    derive. -/
theorem exists_settled_le_ncard (symbols : SymbolTable) (rules : List Rule) (hbase : base.Finite) :
    ∃ settled ≤ (derivable rules base).ncard,
      (∀ k < settled, afterRounds symbols rules base k ⊂ afterRounds symbols rules base (k + 1)) ∧
      ∀ k ≥ settled,
        afterRounds symbols rules base k = afterRounds symbols rules base settled := by
  obtain ⟨settled, hsettled, hleast⟩ := exists_isLeast_settled symbols rules hbase
  have hgrown (k : Nat) (hk : k < settled) :
      afterRounds symbols rules base k ≠ afterRounds symbols rules base (k + 1) :=
    fun hsame => (hleast hsame.symm).not_gt hk
  refine ⟨settled, ?_, fun k hk => ?_, fun k hk => afterRounds_of_settled hsettled hk⟩
  · exact (le_ncard_of_growing symbols rules hbase fun k hk => (hgrown k hk).symm).trans
      (Set.ncard_le_ncard Set.inter_subset_right (finite_derivable hbase))
  · exact (Set.subset_union_left).ssubset_of_ne (hgrown k hk)

end

namespace World

/-- Whatever stops a run, it leaves the facts after as many rounds as have been completed. -/
theorem exists_stop_of_run (world : World) (symbols : SymbolTable) (limits : Limits)
    (clock : Clock) :
    ∃ last, ComesThrough (afterRounds symbols world.rules world.facts.toSet) limits last ∧
      StopsAfter (afterRounds symbols world.rules world.facts.toSet) limits last clock
        (world.run symbols limits clock).2 ∧
      (world.run symbols limits clock).1.facts.toSet =
        afterRounds symbols world.rules world.facts.toSet last :=
  exists_stop_of_saturate clock (by omega) (Nat.zero_add _)
    ⟨Nat.zero_le _, nofun, nofun⟩ rfl

/-- Nothing but limits and time can keep a run from its end, whatever rules there are: constraints
    only select among the terms that facts and heads have, so there are only so many facts to
    derive, and every round but the last derives one of them at least. -/
theorem run_saturates (world : World) (symbols : SymbolTable) :
    let base := world.facts.toSet
    let derived := derivable world.rules base
    let facts := afterRounds symbols world.rules base
    derived.Finite ∧
      (∀ round, ∀ rule ∈ world.rules, ∀ fact, rule.Yields symbols (facts round) fact →
        fact ∈ derived) ∧
      (∃ settled ≤ derived.ncard, (∀ k < settled, facts k ⊂ facts (k + 1)) ∧
        ∀ k ≥ settled, facts k = facts settled) ∧
      (∀ round, facts round ⊆ base ∪ derived) ∧
      (∀ limits clock, ∃ round ≤ derived.ncard,
        (world.run symbols limits clock).1.facts.toSet = facts round) ∧
      ∀ limits clock, clock.readings = none → derived.ncard < limits.maxIterations →
        (base ∪ derived).ncard ≤ limits.maxFacts →
        (world.run symbols limits clock).2 = .ok clock ∧
          (world.run symbols limits clock).1.facts.toSet =
            leastModel symbols world.rules base := by
  intro base derived facts
  have hbase : base.Finite := world.facts.finite_toSet
  have hderived : derived.Finite := finite_derivable hbase
  refine ⟨hderived, fun round rule hrule fact => mem_derivable_of_yields hrule,
    exists_settled_le_ncard symbols world.rules hbase,
    afterRounds_subset symbols world.rules base, ?_, ?_⟩
  · intro limits clock
    obtain ⟨last, hcomes, _, hlast⟩ := world.exists_stop_of_run symbols limits clock
    exact ⟨last, hcomes.le_ncard hbase, hlast⟩
  · intro limits clock hclock hrounds hroom
    obtain ⟨last, hcomes, hstop, _⟩ := world.exists_stop_of_run symbols limits clock
    have hlast : last ≤ derived.ncard := hcomes.le_ncard hbase
    have hok : (world.run symbols limits clock).2 = .ok clock := by
      generalize (world.run symbols limits clock).2 = outcome at hstop
      cases hstop with
      | settled _ hsame => rw [hsame hclock]
      | full _ _ hfull =>
        have hle : (facts (last + 1)).ncard ≤ (base ∪ derived).ncard :=
          Set.ncard_le_ncard (afterRounds_subset symbols world.rules base (last + 1))
            (hbase.union hderived)
        exact absurd hfull (Nat.not_lt_of_le (hle.trans hroom))
      | cut hmost => omega
      | late hlate => exact absurd hclock hlate
    exact ⟨hok, saturate_eq_leastModel hok⟩

/-- The paths between four numbers. -/
def allPaths : Finset Fact :=
  (({1, 2, 3, 4} : Finset Int64) ×ˢ {1, 2, 3, 4}).image fun (i, j) => ⟨1, [.integer i, .integer j]⟩

theorem arguments_pathWorld {t : Term}
    (h : t ∈ arguments pathWorld.rules pathWorld.facts.toSet) :
    ∃ i ∈ ({1, 2, 3, 4} : Finset Int64), t = .integer i := by
  rcases h with ⟨fact, hfact, ht⟩ | ⟨rule, hrule, ht, hconstant⟩
  · simp only [FactSet.mem_toSet, pathWorld, FactSet.mem_ofList, List.mem_cons, List.not_mem_nil,
      or_false] at hfact
    rcases hfact with rfl | rfl | rfl <;> simp at ht <;> rcases ht with rfl | rfl <;> simp
  · simp only [pathWorld, List.mem_cons, List.not_mem_nil, or_false] at hrule
    rcases hrule with rfl | rfl <;> simp at ht <;> rcases ht with rfl | rfl <;> cases hconstant

theorem derivable_pathWorld_subset :
    derivable pathWorld.rules pathWorld.facts.toSet ⊆ allPaths := by
  rintro ⟨name, terms⟩ ⟨⟨rule, hrule, hname, hlength⟩, hterms⟩
  have hhead : name = 1 ∧ terms.length = 2 := by
    simp only [pathWorld, List.mem_cons, List.not_mem_nil, or_false] at hrule
    rcases hrule with rfl | rfl <;> exact ⟨hname, hlength⟩
  obtain ⟨rfl, htwo⟩ := hhead
  obtain ⟨first, second, rfl⟩ := List.length_eq_two.1 htwo
  obtain ⟨i, hi, rfl⟩ := arguments_pathWorld (hterms first (by simp))
  obtain ⟨j, hj, rfl⟩ := arguments_pathWorld (hterms second (by simp))
  exact Finset.mem_coe.2 (Finset.mem_image.2 ⟨(i, j), Finset.mem_product.2 ⟨hi, hj⟩, rfl⟩)

/-- Sixteen paths can be derived from three edges, so seventeen rounds and nineteen facts are
    enough. -/
theorem pathWorld_run_saturates :
    (derivable pathWorld.rules pathWorld.facts.toSet).ncard < 17 ∧
      (pathWorld.facts.toSet ∪ derivable pathWorld.rules pathWorld.facts.toSet).ncard ≤ 19 ∧
      (pathWorld.run .empty ⟨19, 17, 5⟩ ⟨none⟩).2 = .ok ⟨none⟩ := by
  have hle : (derivable pathWorld.rules pathWorld.facts.toSet).ncard ≤ 16 :=
    (Set.ncard_le_ncard derivable_pathWorld_subset allPaths.finite_toSet).trans
      ((Set.ncard_coe_finset allPaths).trans_le (by decide))
  have hgiven : pathWorld.facts.toSet.ncard = 3 := FactSet.ncard_toSet pathWorld.facts
  have hroom : (pathWorld.facts.toSet ∪ derivable pathWorld.rules pathWorld.facts.toSet).ncard ≤
      19 := (Set.ncard_union_le _ _).trans (by omega)
  obtain ⟨_, _, _, _, _, hends⟩ := pathWorld.run_saturates .empty
  exact ⟨by omega, hroom, (hends ⟨19, 17, 5⟩ ⟨none⟩ rfl (Nat.lt_succ_of_le hle) hroom).1⟩

end World

end Warrant
