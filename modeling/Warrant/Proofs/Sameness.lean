import Mathlib.Data.List.Find
import Warrant.Proofs.Carrying
import Warrant.Proofs.Rendering
import Warrant.Proofs.Tags

namespace Warrant

open Classical

/-- Whether two tables have the same strings at certain positions, and the same tags. -/
structure SameStrings (inside : UInt64 → Prop) (left right : SymbolTable) : Prop where
  resolve? : ∀ s, inside s → left.resolve? s = right.resolve? s
  tagged : ∀ p, Tagged left p ↔ Tagged right p

/-- Tables that go on from one with tags have its strings and its tags. -/
theorem SameStrings.of_prefix {base left right : SymbolTable} (hleft : base.names <+: left.names)
    (hright : base.names <+: right.names) {tags : Verification.Tags}
    (htags : Verification.Tags.ofSymbols base = some tags) :
    SameStrings (fun s => s.toNat < base.size) left right := by
  refine ⟨fun s hs => ?_, fun p => ?_⟩
  · rw [SymbolTable.resolve?_of_prefix hleft hs, SymbolTable.resolve?_of_prefix hright hs]
  · have hmark := Verification.Tags.mark_iff (p := p)
      (Verification.Tags.ofSymbols_of_prefix hleft htags)
    rw [← hmark, Verification.Tags.mark_iff (Verification.Tags.ofSymbols_of_prefix hright htags)]

/-- Whether the same is known about certain positions. -/
structure SameKnowledge (inside : UInt64 → Prop) (known known' : Set Fact) : Prop where
  there : Carried inside inside known known'
  back : Carried inside inside known' known

section

variable {inside : UInt64 → Prop} {left right : SymbolTable} {known known' : Set Fact}

theorem SameStrings.symm (h : SameStrings inside left right) : SameStrings inside right left :=
  ⟨fun s hs => (h.resolve? s hs).symm, fun p => (h.tagged p).symm⟩

theorem SameStrings.name (h : SameStrings inside left right) (s : UInt64) (hs : inside s) :
    left.name s = right.name s := by
  rw [SymbolTable.name, SymbolTable.name, h.resolve? s hs]

theorem SameKnowledge.symm (h : SameKnowledge inside known known') :
    SameKnowledge inside known' known := ⟨h.back, h.there⟩

theorem SameKnowledge.union (h : SameKnowledge inside known known') {new : Set Fact}
    (hnew : ∀ fact ∈ new, ∀ t ∈ fact.terms, t.Over (fun _ => True) inside) :
    SameKnowledge inside (known ∪ new) (known' ∪ new) := ⟨h.there.union hnew, h.back.union hnew⟩

variable (htables : SameStrings inside left right) (h : SameKnowledge inside known known')
include htables h

/-- What is derived is alike, too. -/
theorem SameKnowledge.leastModel {names : UInt32 → Prop} {rules : List Rule}
    (hrules : ∀ rule ∈ rules, rule.Over names inside inside inside) :
    SameKnowledge inside (leastModel left rules known) (leastModel right rules known') where
  there := (h.there.mono subset_leastModel).leastModel hrules htables.resolve?
    closedUnder_leastModel
  back := (h.back.mono subset_leastModel).leastModel hrules htables.symm.resolve?
    closedUnder_leastModel

theorem SameKnowledge.passes_iff {names : UInt32 → Prop} {queries : List Rule}
    (hqueries : ∀ query ∈ queries, query.Over names inside inside inside) :
    Passes left known queries ↔ Passes right known' queries := by
  constructor
  · rintro ⟨query, hquery, hmatches⟩
    exact ⟨query, hquery, h.there.matches_right (hqueries query hquery) htables.resolve? hmatches⟩
  · rintro ⟨query, hquery, hmatches⟩
    have hback := h.back.matches_right (hqueries query hquery) htables.symm.resolve? hmatches
    exact ⟨query, hquery, hback⟩

theorem SameKnowledge.failing_eq {checks : List Check}
    (hchecks : ∀ check ∈ checks, ∀ query ∈ check.queries,
      query.Over (fun v => inside v.toUInt64) inside inside inside) (block : Option Nat) :
    failing left known block checks = failing right known' block checks := by
  refine List.filterMap_congr ?_
  rintro ⟨check, index⟩ hmem
  have hcheck := hchecks check (List.mem_of_getElem? (List.mk_mem_zipIdx_iff_getElem?.1 hmem))
  simp only [h.passes_iff htables hcheck, CheckOf.render_congr htables.name hcheck]

theorem SameKnowledge.firstPolicy_eq {policies : List Policy}
    (hpolicies : ∀ policy ∈ policies, ∀ query ∈ policy.queries,
      query.Over (fun v => inside v.toUInt64) inside inside inside) :
    firstPolicy left known policies = firstPolicy right known' policies := by
  rw [firstPolicy, firstPolicy, List.find?_congr]
  rintro ⟨policy, index⟩ hmem
  have hpolicy := List.mem_of_getElem? (List.mk_mem_zipIdx_iff_getElem?.1 hmem)
  rw [decide_eq_decide]
  exact h.passes_iff htables (hpolicies policy hpolicy)

theorem SameKnowledge.bindsTag_iff {names : UInt32 → Prop} {rule : Rule}
    (hrule : rule.Over names inside inside inside) :
    rule.BindsTag left known ↔ rule.BindsTag right known' := by
  refine and_congr_right fun _ => exists_congr fun fact => and_congr ⟨?_, ?_⟩ (htables.tagged fact)
  · exact h.there.yields_right hrule htables.resolve?
  · exact h.back.yields_right hrule htables.symm.resolve?

theorem SameKnowledge.blockDefect_eq {block : Block}
    (hblock : block.Over (fun v => inside v.toUInt64) inside inside) (number : Nat) :
    blockDefect left number block known = blockDefect right number block known' := by
  have hfact : (block.facts.find? fun fact => Tagged left fact) =
      block.facts.find? fun fact => Tagged right fact :=
    List.find?_congr fun fact _ => decide_eq_decide.2 (htables.tagged fact)
  have hwritten : (block.rules.find? fun rule => Tagged left rule.head ∨ ¬ rule.RangeRestricted) =
      block.rules.find? fun rule => Tagged right rule.head ∨ ¬ rule.RangeRestricted :=
    List.find?_congr fun rule _ => decide_eq_decide.2 (or_congr_left (htables.tagged rule.head))
  have hbinding : (block.rules.find? fun rule => rule.BindsTag left known) =
      block.rules.find? fun rule => rule.BindsTag right known' :=
    List.find?_congr fun rule hrule =>
      decide_eq_decide.2 (h.bindsTag_iff htables (hblock.rules rule hrule))
  have hrender (rule : Rule) (hrule : rule ∈ block.rules) :
      rule.render left = rule.render right :=
    RuleOf.render_congr htables.name (hblock.rules rule hrule)
  rw [blockDefect, blockDefect, hfact, hwritten, hbinding]
  cases hinvalid : block.facts.find? fun fact => Tagged right fact with
  | some fact =>
    have hover := hblock.facts fact (List.mem_of_find?_eq_some hinvalid)
    dsimp only
    rw [PredicateOf.render_congr htables.name hover]
  | none =>
    cases hinvalid : block.rules.find? fun rule =>
        Tagged right rule.head ∨ ¬ rule.RangeRestricted with
    | some rule =>
      dsimp only
      rw [hrender rule (List.mem_of_find?_eq_some hinvalid)]
    | none =>
      refine Option.map_congr fun rule hbinds => ?_
      rw [hrender rule (List.mem_of_find?_eq_some hbinds)]

end

end Warrant
