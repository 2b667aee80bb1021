import Warrant.Proofs.Symbols
import Warrant.Proofs.Verification

namespace Warrant

open Classical

theorem RuleOf.isRangeRestricted_iff {rule : Rule} :
    rule.isRangeRestricted = true ↔ rule.RangeRestricted := by
  have hbound (v : UInt32) : v ∈ rule.bodyVariables ↔ ∃ p ∈ rule.body, v ∈ p.argVariables := by
    rw [bodyVariables, SortedList.mem_ofList, List.mem_flatMap]
  simp only [isRangeRestricted, Bool.and_eq_true, List.all_eq_true, decide_eq_true_eq, hbound]
  constructor
  · rintro ⟨hhead, hexpressions⟩ v (hv | ⟨e, he, hv⟩)
    · exact hhead v hv
    · exact hexpressions e he v hv
  · intro h
    exact ⟨fun v hv => h v (.inl hv), fun e he v hv => h v (.inr ⟨e, he, hv⟩)⟩

namespace Verification

theorem Tags.ofSymbols_eq_some_iff {symbols : SymbolTable} {tags : Tags} :
    Tags.ofSymbols symbols = some tags ↔
      symbols.find? "authority" = some tags.authority ∧
        symbols.find? "ambient" = some tags.ambient := by
  obtain ⟨authority, ambient⟩ := tags
  cases hauthority : symbols.find? "authority" with
  | none => simp [ofSymbols, hauthority]
  | some authority' =>
    cases hambient : symbols.find? "ambient" with
    | none => simp [ofSymbols, hauthority, hambient]
    | some ambient' => simp [ofSymbols, hauthority, hambient]

/-- The tags are there where both of their names are. -/
theorem Tags.exists_ofSymbols {symbols : SymbolTable} (hauthority : "authority" ∈ symbols.names)
    (hambient : "ambient" ∈ symbols.names) : ∃ tags, Tags.ofSymbols symbols = some tags := by
  obtain ⟨authority, hauthority⟩ := SymbolTable.exists_find?_of_mem hauthority
  obtain ⟨ambient, hambient⟩ := SymbolTable.exists_find?_of_mem hambient
  exact ⟨⟨authority, ambient⟩, ofSymbols_eq_some_iff.2 ⟨hauthority, hambient⟩⟩

/-- A table that goes on has the same tags. -/
theorem Tags.ofSymbols_of_prefix {symbols symbols' : SymbolTable}
    (hstart : symbols.names <+: symbols'.names) {tags : Tags}
    (htags : Tags.ofSymbols symbols = some tags) : Tags.ofSymbols symbols' = some tags := by
  obtain ⟨hauthority, hambient⟩ := ofSymbols_eq_some_iff.1 htags
  exact ofSymbols_eq_some_iff.2 ⟨SymbolTable.find?_of_prefix hstart hauthority,
    SymbolTable.find?_of_prefix hstart hambient⟩

/-- The stages refer to the same tags as the verifier. -/
theorem Tags.ofSymbols_stageSymbols {v : Verifier} {tags : Tags}
    (htags : Tags.ofSymbols v.symbols = some tags) :
    Tags.ofSymbols v.stageSymbols = some tags := by
  rw [Verifier.stageSymbols]
  split
  · exact ofSymbols_of_prefix (SymbolTable.prefix_intern v.symbols "revocation_id") htags
  · exact htags

theorem Tags.mark_iff {symbols : SymbolTable} {tags : Tags}
    (htags : Tags.ofSymbols symbols = some tags) {p : Predicate} :
    tags.mark p = true ↔ Tagged symbols p := by
  obtain ⟨hauthority, hambient⟩ := ofSymbols_eq_some_iff.1 htags
  rw [mark, Tagged, hauthority, hambient]
  cases p.terms with
  | nil => simp
  | cons t rest =>
    cases t with
    | str symbol => simp [@eq_comm _ symbol]
    | _ => simp

theorem startsWithVariable_iff {p : Predicate} :
    startsWithVariable p = true ↔ ∃ v rest, p.terms = .var v :: rest := by
  rw [startsWithVariable]
  cases p.terms with
  | nil => simp
  | cons t rest => cases t <;> simp

section

variable {symbols : SymbolTable} {tags : Tags} (htags : Tags.ofSymbols symbols = some tags)
include htags

/-- The rule that is found to tag in a world is the first that binds a tag there. -/
theorem taggingRule?_eq (world : World) (rules : List Rule) :
    taggingRule? tags symbols world rules =
      rules.find? fun rule => rule.BindsTag symbols world.facts.toSet := by
  rw [taggingRule?]
  refine congrArg (List.find? · rules) (funext fun rule => ?_)
  rw [Bool.eq_iff_iff, Bool.and_eq_true, startsWithVariable_iff, List.any_eq_true,
    decide_eq_true_iff, RuleOf.BindsTag]
  refine and_congr_right fun _ => exists_congr fun fact => ?_
  rw [Tags.mark_iff htags]
  exact and_congr_left fun _ => RuleOf.yields_list_iff.symm

theorem blockFault_eq_none_iff {number : Nat} {block : Block} :
    blockFault tags symbols number block = none ↔
      (∀ fact ∈ block.facts, ¬ Tagged symbols fact) ∧
        ∀ rule ∈ block.rules, ¬ Tagged symbols rule.head ∧ rule.RangeRestricted := by
  rw [blockFault]
  cases hfact : block.facts.find? tags.mark with
  | some fact =>
    have htagged := (Tags.mark_iff htags).1 (List.find?_some hfact)
    simp only [reduceCtorEq, false_iff, not_and]
    exact fun h => absurd htagged (h fact (List.mem_of_find?_eq_some hfact))
  | none =>
    rw [List.find?_eq_none] at hfact
    simp only [Option.map_eq_none_iff, List.find?_eq_none, Bool.or_eq_true, Tags.mark_iff htags,
      Bool.not_eq_true', ← Bool.not_eq_true, RuleOf.isRangeRestricted_iff, not_or, not_not]
    refine ⟨fun h => ⟨fun fact hmem htagged => ?_, h⟩, fun h => h.2⟩
    exact hfact fact hmem ((Tags.mark_iff htags).2 htagged)

theorem blockDefect_eq (number : Nat) (block : Block) (known : Set Fact) :
    blockDefect symbols number block known =
      (blockFault tags symbols number block).or
        ((block.rules.find? fun rule => rule.BindsTag symbols known).map fun rule =>
          .invalidRule number (rule.render symbols)) := by
  have hfacts : (fun fact => decide (Tagged symbols fact)) = tags.mark := by
    funext fact
    rw [Bool.eq_iff_iff, decide_eq_true_iff, Tags.mark_iff htags]
  have hrules : (fun rule : Rule => decide (Tagged symbols rule.head ∨ ¬ rule.RangeRestricted)) =
      fun rule => tags.mark rule.head || !rule.isRangeRestricted := by
    funext rule
    rw [Bool.eq_iff_iff, decide_eq_true_iff, Bool.or_eq_true, Tags.mark_iff htags,
      Bool.not_eq_true', ← Bool.not_eq_true, RuleOf.isRangeRestricted_iff]
  rw [blockDefect, blockFault, hfacts, hrules]
  cases block.facts.find? tags.mark with
  | some fact => rfl
  | none =>
    cases block.rules.find? fun rule => tags.mark rule.head || !rule.isRangeRestricted with
    | some rule => rfl
    | none => rfl

/-- A block with a fault as it is written has that defect, whatever is known. -/
theorem blockDefect_of_fault {number : Nat} {block : Block} {fault : LogicError}
    (hfault : blockFault tags symbols number block = some fault) (known : Set Fact) :
    blockDefect symbols number block known = some fault := by
  rw [blockDefect_eq htags, hfault, Option.some_or]

/-- Any other defect of a block is a rule that tags in the world it leads to. -/
theorem blockDefect_of_no_fault {number : Nat} {block : Block}
    (hfault : blockFault tags symbols number block = none) (world : World) :
    blockDefect symbols number block world.facts.toSet =
      (taggingRule? tags symbols world block.rules).map fun rule =>
        .invalidRule number (rule.render symbols) := by
  rw [blockDefect_eq htags, hfault, Option.none_or, taggingRule?_eq htags]

end

end Verification

end Warrant
