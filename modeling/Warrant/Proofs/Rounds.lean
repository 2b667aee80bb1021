import Mathlib.Data.Set.Card
import Mathlib.Data.Set.Finite.Lattice
import Mathlib.Order.Bounds.Basic
import Warrant.Proofs.Saturation

namespace Warrant

theorem RuleOf.Yields.head {rule : Rule} {symbols : SymbolTable} {known : Set Fact} {fact : Fact}
    (h : rule.Yields symbols known fact) :
    fact.name = rule.head.name ∧ fact.terms.length = rule.head.terms.length := by
  obtain ⟨σ, _, hhead⟩ := RuleOf.yields_iff.1 h
  obtain ⟨hname, hterms⟩ := PredicateOf.substitute_eq_some_iff.1 hhead
  exact ⟨hname.symm, hterms.length_eq.symm⟩

/-- The facts that there are after some rounds, each of which adds all that the rules yield. -/
def afterRounds (symbols : SymbolTable) (rules : List Rule) (base : Set Fact) : Nat → Set Fact
  | 0 => base
  | rounds + 1 =>
    afterRounds symbols rules base rounds ∪
      {fact | ∃ rule ∈ rules, rule.Yields symbols (afterRounds symbols rules base rounds) fact}

theorem afterRounds_congr (symbols : SymbolTable) {rules rules' : List Rule} (base : Set Fact)
    (h : ∀ rule, rule ∈ rules ↔ rule ∈ rules') :
    afterRounds symbols rules base = afterRounds symbols rules' base := by
  funext rounds
  induction rounds with
  | zero => rfl
  | succ rounds ih => simp only [afterRounds, ih, h]

/-- The arguments that facts can have: those of the given ones, and the constants of heads. -/
def arguments (rules : List Rule) (base : Set Fact) : Set Term :=
  {t | (∃ fact ∈ base, t ∈ fact.terms) ∨
    ∃ rule ∈ rules, t ∈ rule.head.terms ∧ t.asVariable? = none}

/-- The facts with the name and the arity of a head. -/
def derivable (rules : List Rule) (base : Set Fact) : Set Fact :=
  {fact | (∃ rule ∈ rules, fact.name = rule.head.name ∧
      fact.terms.length = rule.head.terms.length) ∧
    ∀ t ∈ fact.terms, t ∈ arguments rules base}

section

variable {symbols : SymbolTable} {rules : List Rule} {base : Set Fact}

theorem mem_derivable {known : Set Fact} {rule : Rule} {fact : Fact}
    (hknown : ∀ other ∈ known, ∀ t ∈ other.terms, t ∈ arguments rules base) (hrule : rule ∈ rules)
    (hyields : rule.Yields symbols known fact) : fact ∈ derivable rules base := by
  refine ⟨⟨rule, hrule, hyields.head⟩, fun t ht => ?_⟩
  rcases hyields.mem_terms ht with hhead | ⟨other, hother, hmem⟩
  · exact .inr ⟨rule, hrule, hhead⟩
  · exact hknown other hother t hmem

theorem subset_afterRounds (symbols : SymbolTable) (rules : List Rule) (base : Set Fact)
    (rounds : Nat) : base ⊆ afterRounds symbols rules base rounds := by
  induction rounds with
  | zero => exact subset_rfl
  | succ rounds ih => exact ih.trans Set.subset_union_left

theorem afterRounds_subset (symbols : SymbolTable) (rules : List Rule) (base : Set Fact)
    (rounds : Nat) : afterRounds symbols rules base rounds ⊆ base ∪ derivable rules base := by
  induction rounds with
  | zero => exact Set.subset_union_left
  | succ rounds ih =>
    rintro fact (hfact | ⟨rule, hrule, hyields⟩)
    · exact ih hfact
    · refine .inr (mem_derivable (fun other hother t ht => ?_) hrule hyields)
      rcases ih hother with hbase | hderivable
      · exact .inl ⟨other, hbase, ht⟩
      · exact hderivable.2 t ht

theorem finite_lists {terms : Set Term} (h : terms.Finite) (length : Nat) :
    {ts : List Term | ts.length = length ∧ ∀ t ∈ ts, t ∈ terms}.Finite := by
  induction length with
  | zero =>
    refine (Set.finite_singleton []).subset fun ts hts => ?_
    exact List.eq_nil_of_length_eq_zero hts.1
  | succ length ih =>
    refine (h.image2 List.cons ih).subset ?_
    rintro (_ | ⟨t, ts⟩) ⟨hlength, hts⟩
    · cases hlength
    · obtain ⟨ht, hts⟩ := List.forall_mem_cons.1 hts
      exact ⟨t, ht, ts, ⟨Nat.succ_inj.1 hlength, hts⟩, rfl⟩

theorem finite_arguments (hbase : base.Finite) : (arguments rules base).Finite := by
  have hfacts : (⋃ fact ∈ base, {t | t ∈ fact.terms}).Finite :=
    hbase.biUnion fun fact _ => fact.terms.finite_toSet
  have hheads : (⋃ rule ∈ {rule | rule ∈ rules}, {t | t ∈ rule.head.terms}).Finite :=
    rules.finite_toSet.biUnion fun rule _ => rule.head.terms.finite_toSet
  refine (hfacts.union hheads).subset ?_
  rintro t (⟨fact, hfact, ht⟩ | ⟨rule, hrule, ht, _⟩)
  · exact .inl (Set.mem_biUnion hfact ht)
  · exact .inr (Set.mem_biUnion (show rule ∈ {rule | rule ∈ rules} from hrule) ht)

/-- There are only finitely many facts to derive. -/
theorem finite_derivable (hbase : base.Finite) : (derivable rules base).Finite := by
  have hheads : (⋃ rule ∈ {rule | rule ∈ rules}, PredicateOf.mk rule.head.name ''
      {ts | ts.length = rule.head.terms.length ∧ ∀ t ∈ ts, t ∈ arguments rules base}).Finite :=
    rules.finite_toSet.biUnion fun rule _ => (finite_lists (finite_arguments hbase) _).image _
  refine hheads.subset ?_
  rintro ⟨name, ts⟩ ⟨⟨rule, hrule, hname, hlength⟩, hts⟩
  cases hname
  exact Set.mem_biUnion (show rule ∈ {rule | rule ∈ rules} from hrule)
    ⟨ts, ⟨hlength, hts⟩, rfl⟩

theorem finite_afterRounds (hbase : base.Finite) (rounds : Nat) :
    (afterRounds symbols rules base rounds).Finite :=
  (hbase.union (finite_derivable hbase)).subset (afterRounds_subset symbols rules base rounds)

/-- As long as every round adds something, there are as many derived facts as rounds. -/
theorem le_ncard_of_growing (symbols : SymbolTable) (rules : List Rule) (hbase : base.Finite)
    {rounds : Nat} (h : ∀ k < rounds,
      afterRounds symbols rules base (k + 1) ≠ afterRounds symbols rules base k) :
    rounds ≤ (afterRounds symbols rules base rounds ∩ derivable rules base).ncard := by
  induction rounds with
  | zero => exact Nat.zero_le _
  | succ rounds ih =>
    have hbefore := ih fun k hk => h k (Nat.lt_succ_of_lt hk)
    have hgrown : ¬ afterRounds symbols rules base (rounds + 1) ⊆
        afterRounds symbols rules base rounds := fun hsubset =>
      h rounds (Nat.lt_succ_self rounds) (hsubset.antisymm Set.subset_union_left)
    obtain ⟨fact, hfact, hnew⟩ := Set.not_subset.1 hgrown
    have hderivable : fact ∈ derivable rules base := by
      rcases afterRounds_subset symbols rules base (rounds + 1) hfact with hgiven | hderivable
      · exact absurd (subset_afterRounds symbols rules base rounds hgiven) hnew
      · exact hderivable
    refine Nat.succ_le_of_lt (hbefore.trans_lt (Set.ncard_lt_ncard ?_ ?_))
    · refine ⟨Set.inter_subset_inter_left _ Set.subset_union_left, fun hsubset => ?_⟩
      exact hnew (hsubset ⟨hfact, hderivable⟩).1
    · exact (finite_derivable hbase).subset Set.inter_subset_right

/-- Sooner or later a round adds nothing. -/
theorem exists_isLeast_settled (symbols : SymbolTable) (rules : List Rule) (hbase : base.Finite) :
    ∃ n, IsLeast
      {k | afterRounds symbols rules base (k + 1) = afterRounds symbols rules base k} n := by
  classical
  have hsome : ∃ k, afterRounds symbols rules base (k + 1) = afterRounds symbols rules base k := by
    by_contra hnone
    have hle (rounds : Nat) : rounds ≤ (derivable rules base).ncard :=
      (le_ncard_of_growing symbols rules hbase fun k _ hk => hnone ⟨k, hk⟩).trans
        (Set.ncard_le_ncard Set.inter_subset_right (finite_derivable hbase))
    exact Nat.not_succ_le_self _ (hle ((derivable rules base).ncard + 1))
  exact ⟨Nat.find hsome, Nat.find_spec hsome, fun k hk => Nat.find_min' hsome hk⟩

end

namespace FactSet

theorem finite_toSet (facts : FactSet) : facts.toSet.Finite := facts.facts.finite_toSet

theorem ncard_toSet (facts : FactSet) : facts.toSet.ncard = facts.size := by
  have hcoe : facts.toSet = (facts.facts.toFinset : Set Fact) := by
    ext fact
    simp [mem_def]
  rw [hcoe, Set.ncard_coe_finset, List.toFinset_card_of_nodup facts.nodup, size]

end FactSet

/-- A round adds the new facts to those that there are. -/
theorem afterRounds_succ_eq {symbols : SymbolTable} {rules : List Rule} {base : Set Fact}
    {rounds : Nat} {facts fresh : FactSet}
    (hfacts : facts.toSet = afterRounds symbols rules base rounds)
    (hfresh : fresh.toSet = newFacts symbols rules facts) :
    afterRounds symbols rules base (rounds + 1) = (facts.union fresh).toSet := by
  rw [FactSet.toSet_union, hfresh, afterRounds, ← hfacts]
  ext fact
  constructor
  · rintro (hfact | ⟨rule, hrule, hyields⟩)
    · exact .inl hfact
    · by_cases hknown : fact ∈ facts
      · exact .inl hknown
      · exact .inr ⟨hknown, rule, hrule, RuleOf.yields_list_iff.1 hyields⟩
  · rintro (hfact | ⟨_, rule, hrule, happly⟩)
    · exact .inl hfact
    · exact .inr ⟨rule, hrule, RuleOf.yields_list_iff.2 happly⟩

theorem size_union_fresh {symbols : SymbolTable} {rules : List Rule} {facts fresh : FactSet}
    (hfresh : fresh.toSet = newFacts symbols rules facts) :
    (facts.union fresh).size = facts.size + fresh.size := by
  have hdisjoint : Disjoint facts.toSet fresh.toSet := by
    rw [hfresh, Set.disjoint_left]
    exact fun fact hfact hnew => hnew.1 hfact
  rw [← FactSet.ncard_toSet, FactSet.toSet_union,
    Set.ncard_union_eq hdisjoint facts.finite_toSet fresh.finite_toSet, FactSet.ncard_toSet,
    FactSet.ncard_toSet]

/-- A round makes the facts as many more as it finds new ones. -/
theorem ncard_afterRounds_succ {symbols : SymbolTable} {rules : List Rule} {base : Set Fact}
    {rounds : Nat} {facts fresh : FactSet}
    (hfacts : facts.toSet = afterRounds symbols rules base rounds)
    (hfresh : fresh.toSet = newFacts symbols rules facts) :
    (afterRounds symbols rules base (rounds + 1)).ncard = facts.size + fresh.size := by
  rw [afterRounds_succ_eq hfacts hfresh, FactSet.ncard_toSet, size_union_fresh hfresh]

/-- How a run of at most `most` rounds ends, where `facts` are the facts after each round and round
    `settled` is the first to add nothing. -/
inductive EndsAfter (facts : Nat → Set Fact) (limits : Limits) (settled most : Nat)
    (clock : Clock) : Run → Prop where
  /-- The facts after round `round` would be the first that are too many, so they are lost. -/
  | full {round : Nat} {last : FactSet} (hround : round < most)
      (hleast : IsLeast {k | k < settled ∧ limits.maxFacts < (facts (k + 1)).ncard} round)
      (hlast : last.toSet = facts round) :
      EndsAfter facts limits settled most clock ⟨last, .error .tooManyFacts⟩
  | complete {last : FactSet} (hsettled : settled < most)
      (hfit : ∀ k < settled, (facts (k + 1)).ncard ≤ limits.maxFacts)
      (hlast : last.toSet = facts settled) :
      EndsAfter facts limits settled most clock ⟨last, .ok clock⟩
  | cut {last : FactSet} (hmost : most ≤ settled)
      (hfit : ∀ k < most, (facts (k + 1)).ncard ≤ limits.maxFacts)
      (hlast : last.toSet = facts most) :
      EndsAfter facts limits settled most clock ⟨last, .error .tooManyIterations⟩

namespace EndsAfter

variable {facts : Nat → Set Fact} {limits : Limits} {settled most : Nat} {clock : Clock}
  {run run' : Run}

theorem of_full (h : EndsAfter facts limits settled most clock run) {round : Nat}
    (hleast : IsLeast {k | k < settled ∧ limits.maxFacts < (facts (k + 1)).ncard} round)
    (hround : round < most) :
    run.outcome = .error .tooManyFacts ∧ run.facts.toSet = facts round := by
  cases h with
  | full _ hleast' hlast => exact ⟨rfl, hleast.unique hleast' ▸ hlast⟩
  | complete _ hfit _ => exact absurd (hfit round hleast.1.1) (Nat.not_le_of_lt hleast.1.2)
  | cut _ hfit _ => exact absurd (hfit round hround) (Nat.not_le_of_lt hleast.1.2)

theorem of_not_full (h : EndsAfter facts limits settled most clock run)
    (hnot : ¬ ∃ round < most,
      IsLeast {k | k < settled ∧ limits.maxFacts < (facts (k + 1)).ncard} round) :
    (settled < most → run.outcome = .ok clock ∧ run.facts.toSet = facts settled) ∧
      (most ≤ settled → run.outcome = .error .tooManyIterations ∧
        run.facts.toSet = facts most) := by
  cases h with
  | full hround hleast _ => exact absurd ⟨_, hround, hleast⟩ hnot
  | complete hsettled _ hlast =>
    exact ⟨fun _ => ⟨rfl, hlast⟩, fun hmost => absurd hsettled (Nat.not_lt_of_le hmost)⟩
  | cut hmost _ hlast =>
    exact ⟨fun hsettled => absurd hsettled (Nat.not_lt_of_le hmost), fun _ => ⟨rfl, hlast⟩⟩

/-- The rounds and the limits decide how a run ends. -/
theorem unique (h : EndsAfter facts limits settled most clock run)
    (h' : EndsAfter facts limits settled most clock run') :
    run.outcome = run'.outcome ∧ run.facts.toSet = run'.facts.toSet := by
  by_cases hfull : ∃ round < most,
      IsLeast {k | k < settled ∧ limits.maxFacts < (facts (k + 1)).ncard} round
  · obtain ⟨round, hround, hleast⟩ := hfull
    obtain ⟨houtcome, hlast⟩ := h.of_full hleast hround
    obtain ⟨houtcome', hlast'⟩ := h'.of_full hleast hround
    exact ⟨houtcome.trans houtcome'.symm, hlast.trans hlast'.symm⟩
  · obtain ⟨hcomplete, hcut⟩ := h.of_not_full hfull
    obtain ⟨hcomplete', hcut'⟩ := h'.of_not_full hfull
    rcases Nat.lt_or_ge settled most with hsettled | hmost
    · obtain ⟨houtcome, hlast⟩ := hcomplete hsettled
      obtain ⟨houtcome', hlast'⟩ := hcomplete' hsettled
      exact ⟨houtcome.trans houtcome'.symm, hlast.trans hlast'.symm⟩
    · obtain ⟨houtcome, hlast⟩ := hcut hmost
      obtain ⟨houtcome', hlast'⟩ := hcut' hmost
      exact ⟨houtcome.trans houtcome'.symm, hlast.trans hlast'.symm⟩

end EndsAfter

section

variable {symbols : SymbolTable} {rules : List Rule} {base : Set Fact} {limits : Limits}
  {clock : Clock} {settled done : Nat} {facts : FactSet}

/-- A round either ends the run, or leaves the facts after one round more, and not too many. -/
theorem endsAfter_or_goes_on (hclock : clock.readings = none)
    (hsettled : IsLeast
      {k | afterRounds symbols rules base (k + 1) = afterRounds symbols rules base k} settled)
    (rounds : Nat) (hdone : done ≤ settled)
    (hfacts : facts.toSet = afterRounds symbols rules base done)
    (hfit : ∀ k < done, (afterRounds symbols rules base (k + 1)).ncard ≤ limits.maxFacts) :
    EndsAfter (afterRounds symbols rules base) limits settled (done + rounds + 1) clock
        (saturate symbols limits rules (rounds + 1) facts clock) ∨
      ∃ next : FactSet, rounds ≠ 0 ∧ done + 1 ≤ settled ∧
        next.toSet = afterRounds symbols rules base (done + 1) ∧
        (∀ k < done + 1, (afterRounds symbols rules base (k + 1)).ncard ≤ limits.maxFacts) ∧
        saturate symbols limits rules (rounds + 1) facts clock =
          saturate symbols limits rules rounds next clock := by
  obtain ⟨fresh, hfresh, hrun⟩ := exists_saturate_succ symbols limits rules rounds facts hclock
  have hnext := afterRounds_succ_eq hfacts hfresh
  have hsize := ncard_afterRounds_succ hfacts hfresh
  rw [hrun]
  by_cases hempty : fresh.size = 0
  · have hend : settled = done := by
      refine le_antisymm (hsettled.2 ?_) hdone
      have hnone : fresh.toSet = ∅ :=
        Set.eq_empty_of_forall_notMem (FactSet.size_eq_zero_iff.1 hempty)
      rw [Set.mem_ofPred_eq, hnext, FactSet.toSet_union, hnone, Set.union_empty, hfacts]
    rw [if_pos hempty]
    subst hend
    exact .inl (.complete (by omega) hfit hfacts)
  rw [if_neg hempty]
  have hgoes : done < settled := by
    refine lt_of_le_of_ne hdone fun hend => hempty ?_
    have hsame : (afterRounds symbols rules base (done + 1)).ncard =
        (afterRounds symbols rules base done).ncard := by
      rw [hend, hsettled.1]
    rw [hsize, ← hfacts, FactSet.ncard_toSet] at hsame
    omega
  by_cases hfull : limits.maxFacts < facts.size + fresh.size
  · rw [if_pos hfull]
    refine .inl (.full (by omega) ⟨⟨hgoes, hsize ▸ hfull⟩, fun k hk => ?_⟩ hfacts)
    exact Nat.le_of_not_lt fun hbefore => (hk.2.trans_le (hfit k hbefore)).false
  rw [if_neg hfull]
  have hfit' (k : Nat) (hk : k < done + 1) :
      (afterRounds symbols rules base (k + 1)).ncard ≤ limits.maxFacts := by
    rcases Nat.lt_succ_iff_lt_or_eq.1 hk with hk | rfl
    · exact hfit k hk
    · rw [hsize]
      exact Nat.le_of_not_lt hfull
  by_cases hlast : rounds = 0
  · subst hlast
    rw [if_pos rfl]
    exact .inl (.cut hgoes hfit' hnext.symm)
  · rw [if_neg hlast]
    exact .inr ⟨facts.union fresh, hlast, hgoes, hnext.symm, hfit', rfl⟩

/-- From the facts after `done` rounds, none of which found too many, a run goes on with the rounds
    after them. -/
theorem endsAfter_saturate (hclock : clock.readings = none)
    (hsettled : IsLeast
      {k | afterRounds symbols rules base (k + 1) = afterRounds symbols rules base k} settled)
    (rounds : Nat) (hdone : done ≤ settled)
    (hfacts : facts.toSet = afterRounds symbols rules base done)
    (hfit : ∀ k < done, (afterRounds symbols rules base (k + 1)).ncard ≤ limits.maxFacts) :
    EndsAfter (afterRounds symbols rules base) limits settled (done + rounds + 1) clock
      (saturate symbols limits rules (rounds + 1) facts clock) := by
  induction rounds generalizing done facts with
  | zero =>
    rcases endsAfter_or_goes_on hclock hsettled 0 hdone hfacts hfit with hends | ⟨_, hlast, _⟩
    · exact hends
    · exact absurd rfl hlast
  | succ rounds ih =>
    rcases endsAfter_or_goes_on hclock hsettled (rounds + 1) hdone hfacts hfit with
      hends | ⟨next, _, hdone', hnext, hfit', hrun⟩
    · exact hends
    · have hends := ih hdone' hnext hfit'
      rw [hrun]
      rwa [Nat.add_right_comm done 1 rounds] at hends

end

namespace World

theorem endsAfter_run (world : World) (symbols : SymbolTable) (limits : Limits) {clock : Clock}
    (hclock : clock.readings = none) {settled : Nat}
    (hsettled : IsLeast {k | afterRounds symbols world.rules world.facts.toSet (k + 1) =
      afterRounds symbols world.rules world.facts.toSet k} settled) :
    EndsAfter (afterRounds symbols world.rules world.facts.toSet) limits settled
      (max 1 limits.maxIterations) clock
      ⟨(world.run symbols limits clock).1.facts, (world.run symbols limits clock).2⟩ := by
  obtain ⟨rounds, hrounds⟩ : ∃ rounds, max 1 limits.maxIterations = rounds + 1 :=
    ⟨max 1 limits.maxIterations - 1, by omega⟩
  have hends : EndsAfter (afterRounds symbols world.rules world.facts.toSet) limits settled
      (0 + rounds + 1) clock (saturate symbols limits world.rules (rounds + 1) world.facts clock) :=
    endsAfter_saturate hclock hsettled rounds (Nat.zero_le settled) rfl nofun
  rw [Nat.zero_add, ← hrounds] at hends
  exact hends

/-- A run comes to the facts after the first round that adds nothing, unless it may not come so
    far. A round before which finds too many facts is lost as a whole, and the last round that the
    limits allow is kept. Neither the order of the facts nor that of the rules matters. -/
theorem run_within_limits (world : World) (symbols : SymbolTable) (limits : Limits)
    {clock : Clock} (hclock : clock.readings = none) :
    let facts := afterRounds symbols world.rules world.facts.toSet
    let most := max 1 limits.maxIterations
    let after := (world.run symbols limits clock).1
    let outcome := (world.run symbols limits clock).2
    after.rules = world.rules ∧
      (∃ settled, IsLeast {k | facts (k + 1) = facts k} settled ∧
        (∀ k, (facts k).Finite) ∧
        (∀ round, IsLeast {k | k < settled ∧ limits.maxFacts < (facts (k + 1)).ncard} round →
          round < most → outcome = .error .tooManyFacts ∧ after.facts.toSet = facts round) ∧
        ((¬ ∃ round < most,
            IsLeast {k | k < settled ∧ limits.maxFacts < (facts (k + 1)).ncard} round) →
          (settled < most → outcome = .ok clock ∧ after.facts.toSet = facts settled) ∧
          (most ≤ settled → outcome = .error .tooManyIterations ∧
            after.facts.toSet = facts most))) ∧
      ∀ other : World, (∀ fact, fact ∈ other.facts ↔ fact ∈ world.facts) →
        (∀ rule, rule ∈ other.rules ↔ rule ∈ world.rules) →
        (other.run symbols limits clock).2 = outcome ∧
          ∀ fact, fact ∈ (other.run symbols limits clock).1.facts ↔ fact ∈ after.facts := by
  intro facts most after outcome
  obtain ⟨settled, hsettled⟩ :=
    exists_isLeast_settled symbols world.rules world.facts.finite_toSet
  have hends := endsAfter_run world symbols limits hclock hsettled
  refine ⟨rfl, ⟨settled, hsettled, finite_afterRounds world.facts.finite_toSet,
    fun round hleast hround => hends.of_full hleast hround, hends.of_not_full⟩, ?_⟩
  intro other hfacts hrules
  have hsame : afterRounds symbols other.rules other.facts.toSet =
      afterRounds symbols world.rules world.facts.toSet := by
    have hbase : other.facts.toSet = world.facts.toSet := Set.ext hfacts
    rw [afterRounds_congr symbols _ hrules, hbase]
  have hends' : EndsAfter (afterRounds symbols world.rules world.facts.toSet) limits settled most
      clock ⟨(other.run symbols limits clock).1.facts, (other.run symbols limits clock).2⟩ := by
    rw [← hsame] at hsettled ⊢
    exact endsAfter_run other symbols limits hclock hsettled
  obtain ⟨houtcome, hlast⟩ := hends'.unique hends
  exact ⟨houtcome, fun fact => Set.ext_iff.1 hlast fact⟩

/-- Edges between numbers, and rules for the paths along them, the second one recursive. Three
    rounds add three paths, two and one. -/
def pathWorld : World :=
  let edge (i j : Int64) : Fact := ⟨0, [.integer i, .integer j]⟩
  ⟨.ofList [edge 1 2, edge 2 3, edge 3 4],
    [⟨⟨1, [.var 0, .var 1]⟩, [⟨0, [.var 0, .var 1]⟩], []⟩,
      ⟨⟨1, [.var 0, .var 2]⟩, [⟨1, [.var 0, .var 1]⟩, ⟨0, [.var 1, .var 2]⟩], []⟩]⟩

/-- Where eight facts are allowed, the round that would add the ninth is lost. -/
theorem pathWorld_run_within_limits :
    (⟨none⟩ : Clock).readings = none ∧
      (pathWorld.run .empty { maxFacts := 8 } ⟨none⟩).2 = .error .tooManyFacts ∧
      ∃ round < 100,
        8 < (afterRounds .empty pathWorld.rules pathWorld.facts.toSet (round + 1)).ncard ∧
        (pathWorld.run .empty { maxFacts := 8 } ⟨none⟩).1.facts.toSet =
          afterRounds .empty pathWorld.rules pathWorld.facts.toSet round := by
  have hfull : (pathWorld.run .empty { maxFacts := 8 } ⟨none⟩).2 = .error .tooManyFacts := by decide
  refine ⟨rfl, hfull, ?_⟩
  obtain ⟨_, ⟨settled, _, _, hlost, hkept⟩, _⟩ :=
    pathWorld.run_within_limits .empty { maxFacts := 8 } (rfl : (⟨none⟩ : Clock).readings = none)
  by_cases hround : ∃ round < 100, IsLeast {k | k < settled ∧
      8 < (afterRounds .empty pathWorld.rules pathWorld.facts.toSet (k + 1)).ncard} round
  · obtain ⟨round, hround, hleast⟩ := hround
    exact ⟨round, hround, hleast.1.2, (hlost round hleast hround).2⟩
  · obtain ⟨hcomplete, hcut⟩ := hkept hround
    rcases Nat.lt_or_ge settled 100 with hsettled | hmost
    · exact absurd (hfull.symm.trans (hcomplete hsettled).1) nofun
    · exact absurd (hfull.symm.trans (hcut hmost).1) nofun

end World

end Warrant
