import Warrant.Proofs.Infix
import Warrant.Proofs.Parsing
import Warrant.Proofs.Restating

namespace Warrant.Grammar

open Warrant.Grammar.Parser

/-- Whether a term is read from some text. -/
def Produced (t : Source.Term) : Prop := ∃ text rest, term text = .ok t rest

/-- Whether a term is read from some text and can be written. -/
def Printable (t : Source.Term) : Prop := Produced t ∧ t.Plain

/-- Whether operations are those of a tree of a level. -/
def FromTree (level : Nat) (ops : Source.Expression) : Prop :=
  ∃ tree : Tree Source.Term, tree.Fits Produced level ∧ tree.operations = ops

namespace FromTree

variable {level : Nat} {ops : Source.Expression}

theorem succ (h : FromTree level ops) : FromTree (level + 1) ops := by
  obtain ⟨tree, hfits, hops⟩ := h
  exact ⟨tree, hfits.tighter, hops⟩

theorem parens (h : FromTree 6 ops) : FromTree 0 (ops ++ [.unary .parens]) := by
  obtain ⟨tree, hfits, rfl⟩ := h
  exact ⟨_, hfits.parens, rfl⟩

theorem length (h : FromTree 0 ops) : FromTree 0 (ops ++ [.unary .length]) := by
  obtain ⟨tree, hfits, rfl⟩ := h
  exact ⟨_, hfits.length, rfl⟩

theorem negate (h : FromTree 1 ops) : FromTree 1 (ops ++ [.unary .negate]) := by
  obtain ⟨tree, hfits, rfl⟩ := h
  exact ⟨_, hfits.negate, rfl⟩

variable {which : Binary} {rightOps : Source.Expression}

theorem method (hmethod : which.looseness? = none) (h : FromTree 0 ops)
    (hright : FromTree 6 rightOps) : FromTree 0 (ops ++ rightOps ++ [.binary which]) := by
  obtain ⟨left, hleft, rfl⟩ := h
  obtain ⟨right, hright, rfl⟩ := hright
  exact ⟨_, .method hmethod hleft hright, rfl⟩

theorem operator (hlevel : which.looseness? = some (level + 1)) (h : FromTree (level + 1) ops)
    (hright : FromTree level rightOps) :
    FromTree (level + 1) (ops ++ rightOps ++ [.binary which]) := by
  obtain ⟨left, hleft, rfl⟩ := h
  obtain ⟨right, hright, rfl⟩ := hright
  exact ⟨_, .operator hlevel hleft hright, rfl⟩

end FromTree

theorem parses_oneSign (table : List (String × Binary)) :
    Parses (oneSign table) fun which => ∃ mark, (mark, which) ∈ table := by
  induction table with
  | nil => exact fun _ _ _ hread => nomatch hread
  | cons entry table ih =>
    refine Parses.orElse (.after fun _ => parses_pure ⟨entry.1, List.mem_cons_self⟩) ?_
    intro text which rest hread
    obtain ⟨mark, hmem⟩ := ih _ _ _ hread
    exact ⟨mark, List.mem_cons_of_mem entry hmem⟩

section

variable {inner operand : Parser Source.Expression} {ops : Source.Expression}

theorem chainTail_fromTree {level : Nat} (hoperand : Parses operand (FromTree level)) (count : Nat)
    (hops : FromTree (level + 1) ops) :
    Parses (chainTail operand (oneSign (signs (level + 1))) count ops) (FromTree (level + 1)) := by
  induction count generalizing ops with
  | zero => exact parses_pure hops
  | succ count ih =>
    intro text value rest hread
    rw [chainTail] at hread
    split at hread
    case h_1 =>
      cases hread
      exact hops
    case h_2 => cases hread
    case h_3 which _ hsign =>
      obtain ⟨mark, hmem⟩ := parses_oneSign _ _ _ _ hsign
      split at hread
      case h_1 hright =>
        exact ih (hops.operator (looseness?_of_mem_signs hmem) (hoperand _ _ _ hright)) _ _ _ hread
      case h_2 => exact (hoperand _ _ _ hread).succ

theorem chain_fromTree {level : Nat} (hoperand : Parses operand (FromTree level)) :
    Parses (chain operand (oneSign (signs (level + 1)))) (FromTree (level + 1)) := by
  intro text value rest hread
  rw [chain] at hread
  split at hread
  case h_1 hfirst => exact chainTail_fromTree hoperand _ (hoperand _ _ _ hfirst).succ _ _ _ hread
  case h_2 => exact (hoperand _ _ _ hread).succ

variable (hinner : Parses inner (FromTree 6))
include hinner

theorem primary_fromTree : Parses (primary inner) (FromTree 0) := by
  have hterm : Parses term Produced := fun text t rest hread => ⟨text, rest, hread⟩
  refine .after fun _ => .orElse (.after fun _ => ?_) ?_
  · refine hinner.bind fun ops hops => ?_
    exact .after fun _ => parses_pure hops.parens
  · exact hterm.map fun t ht => ⟨.value t, .value ht, rfl⟩

/-- A method makes an operand of an operand. -/
theorem methodCall_fromTree : Parses (methodCall inner) fun call =>
    ∀ ops, FromTree 0 ops → FromTree 0 (ops ++ call) := by
  refine .after fun _ => .after fun method => .after fun _ => ?_
  split
  case isTrue => exact .after fun _ => parses_pure fun ops hops => hops.length
  case isFalse =>
    split
    case h_1 => exact fun _ _ _ hread => nomatch hread
    case h_2 which hnamed =>
      have hmethod : which.looseness? = none := by
        have hmem := List.mem_of_find?_eq_some hnamed
        simp only [List.mem_cons, List.not_mem_nil, or_false] at hmem
        rcases hmem with rfl | rfl | rfl | rfl | rfl | rfl <;> rfl
      refine hinner.bind fun argument hargument => .after fun _ => parses_pure fun ops hops => ?_
      rw [← List.append_assoc]
      exact hops.method hmethod hargument

theorem methodTail_fromTree (count : Nat) (hops : FromTree 0 ops) :
    Parses (methodTail inner count ops) (FromTree 0) := by
  induction count generalizing ops with
  | zero => exact parses_pure hops
  | succ count ih =>
    intro text value rest hread
    rw [methodTail] at hread
    split at hread
    case h_1 hcall => exact ih (methodCall_fromTree hinner _ _ _ hcall ops hops) _ _ _ hread
    case h_2 =>
      cases hread
      exact hops
    case h_3 => cases hread

theorem methods_fromTree : Parses (methods inner) (FromTree 0) := by
  intro text value rest hread
  rw [methods] at hread
  split at hread
  case h_1 hfirst =>
    exact methodTail_fromTree hinner _ (primary_fromTree hinner _ _ _ hfirst) _ _ _ hread
  case h_2 => exact primary_fromTree hinner _ _ _ hread

theorem negations_fromTree (count : Nat) : Parses (negations inner count) (FromTree 1) := by
  have hmethods : Parses (methods inner) (FromTree 1) :=
    fun _ _ _ hread => (methods_fromTree hinner _ _ _ hread).succ
  induction count with
  | zero => exact hmethods
  | succ count ih =>
    intro text value rest hread
    rw [negations] at hread
    dsimp only at hread
    split at hread
    case h_1 =>
      split at hread
      case h_1 hnegated =>
        cases hread
        exact (ih _ _ _ hnegated).negate
      case h_2 => exact ih _ _ _ hread
    case h_2 => exact hmethods _ _ _ hread

theorem leveled_fromTree (level : Nat) : Parses (leveled inner level) (FromTree level) := by
  induction level using leveled.induct with
  | case1 => exact methods_fromTree hinner
  | case2 => exact fun text => negations_fromTree hinner text.length text
  | case3 level ih => exact chain_fromTree ih

end

/-- Whatever is read as an expression is made of the operations of a tree. -/
theorem expression_fromTree : Parses expression (FromTree 6) := by
  have hnested (depth : Nat) : Parses (nestedExpression depth) (FromTree 6) := by
    induction depth with
    | zero => exact fun _ _ _ hread => nomatch hread
    | succ depth ih => exact leveled_fromTree ih 6
  exact fun text => hnested (text.length + 1) text

/-- Terms that are read have their sets in order, and can be read again where they are plain. -/
theorem parses_term_writable :
    Parses term fun t => t.Ordered ∧ t.MayBeRead ∧ (t.Plain → t.Writable) := by
  refine parses_term_of (fun v hne hv => ?_) (fun t hvar hset => ?_)
    fun elements hread hordered => ⟨hordered, hread, fun hplain => ⟨nofun, hordered, hread, hplain⟩⟩
  · refine ⟨trivial, nofun, fun hplain => ⟨?_, trivial, nofun, hplain⟩⟩
    rintro _ ⟨⟩
    exact ⟨hne, hv⟩
  · cases t with
    | var v => exact absurd rfl hvar
    | set elements => exact absurd rfl hset
    | _ => exact ⟨trivial, nofun, fun hplain => ⟨nofun, trivial, nofun, hplain⟩⟩

/-- A term that is read, and that can be written, is read again from what is written of it. -/
theorem Printable.writable {t : Source.Term} (h : Printable t) : t.Writable := by
  obtain ⟨⟨text, rest, hread⟩, hplain⟩ := h
  exact (parses_term_writable _ _ _ hread).2.2 hplain

/-- Syntax, infix form and postfix form of expressions agree. The operations of every tree, over
    terms that are read and can be written, are printed as a text that is read to its end as those
    operations; their positions may be those of any table that has the strings at them, such as one
    that the operations are interned in. And only operations of trees are read. -/
theorem expression_reads_trees :
    (∀ tree : Tree Source.Term, tree.Fits Printable 6 →
      (∀ (symbols : SymbolTable) (e : Expression),
        e.map (OpOf.resolve symbols) = tree.operations →
          ∃ text, renderInfix? (TermOf.render symbols) e = some text ∧
            expression text.toList = .ok tree.operations []) ∧
      ∀ symbols : SymbolTable,
        ((ExpressionOf.intern tree.operations).run symbols).2.size ≤ UInt32.size →
          ((ExpressionOf.intern tree.operations).run symbols).1.map
              (OpOf.resolve ((ExpressionOf.intern tree.operations).run symbols).2) =
            tree.operations) ∧
    ∀ text ops rest, expression text = .ok ops rest →
      ∃ tree : Tree Source.Term, tree.Fits Produced 6 ∧ tree.operations = ops := by
  refine ⟨fun tree hfits => ?_, fun text ops rest hread => expression_fromTree text ops rest hread⟩
  have hwritable := hfits.imp fun t ht => ht.writable
  refine ⟨fun symbols e he => ?_, fun symbols hsize => ?_⟩
  · obtain ⟨t, rfl, rfl⟩ := Tree.exists_of_map_eq_operations he
    have hread := reads_expression reads_render hwritable.of_map [] [] (List.forall_mem_nil _)
      (stops_nil 6)
    rw [List.append_nil, List.nil_append] at hread
    exact ⟨_, Tree.renderInfix?_operations _ t, hread⟩
  · have hordered : ∀ op ∈ tree.operations, ∀ t ∈ op.term?, t.Ordered :=
      fun op hop t ht => (hwritable.of_mem_operations hop ht).ordered
    exact (ExpressionOf.leaves_intern hordered).run hsize

/-- The tree of `![1].contains($x) || -1 < (2 + 3) * "a".length()`. -/
def mixedTree : Tree Source.Term :=
  .binary .or
    (.unary .negate (.binary .contains (.value (.set [.integer 1])) (.value (.var "x"))))
    (.binary .lessThan (.value (.integer (-1)))
      (.binary .mul
        (.unary .parens (.binary .add (.value (.integer 2)) (.value (.integer 3))))
        (.unary .length (.value (.str "a")))))

/-- The operations of the tree with the positions of its strings. -/
def mixedOperations : Expression :=
  [.value (.set [.integer 1]), .value (.var 0), .binary .contains, .unary .negate,
    .value (.integer (-1)), .value (.integer 2), .value (.integer 3), .binary .add, .unary .parens,
    .value (.str 1), .unary .length, .binary .mul, .binary .lessThan, .binary .or]

theorem fits_mixedTree : mixedTree.Fits Printable 6 := by
  have hset : Printable (.set [.integer 1]) := by
    refine ⟨⟨"[1]".toList, [], rfl⟩, trivial, ?_⟩
    rintro _ ⟨⟩ e he
    obtain rfl := List.mem_singleton.1 he
    trivial
  have hvariable : Printable (.var "x") := ⟨⟨"$x".toList, [], rfl⟩, trivial, nofun⟩
  have hnegative : Printable (.integer (-1)) := ⟨⟨"-1".toList, [], rfl⟩, trivial, nofun⟩
  have htwo : Printable (.integer 2) := ⟨⟨"2".toList, [], rfl⟩, trivial, nofun⟩
  have hthree : Printable (.integer 3) := ⟨⟨"3".toList, [], rfl⟩, trivial, nofun⟩
  have hstring : Printable (.str "a") := by
    refine ⟨⟨"#a".toList, [], rfl⟩, fun c hc => ?_, nofun⟩
    obtain rfl := List.mem_singleton.1 hc
    exact .inr rfl
  have hnegation := (Tree.Fits.method (rfl : Binary.contains.looseness? = none) (.value hset)
    ((Tree.Fits.value hvariable).mono (Nat.zero_le 6))).tighter.negate
  have hsum := Tree.Fits.operator (rfl : Binary.add.looseness? = some 3)
    ((Tree.Fits.value htwo).mono (Nat.zero_le 3)) ((Tree.Fits.value hthree).mono (Nat.zero_le 2))
  have hproduct := Tree.Fits.operator (rfl : Binary.mul.looseness? = some 2)
    ((hsum.mono (by decide : 3 ≤ 6)).parens.mono (Nat.zero_le 2))
    ((Tree.Fits.value hstring).length.mono (Nat.zero_le 1))
  have hcomparison := Tree.Fits.operator (rfl : Binary.lessThan.looseness? = some 4)
    ((Tree.Fits.value hnegative).mono (Nat.zero_le 4)) hproduct.tighter
  exact .operator rfl (hnegation.mono (by decide)) hcomparison.tighter

theorem mixedTree_expression_reads_trees :
    (∃ text, renderInfix? (TermOf.render (.ofList ["x", "a"])) mixedOperations = some text ∧
      expression text.toList = .ok mixedTree.operations []) ∧
      ∃ tree : Tree Source.Term, tree.Fits Produced 6 ∧ tree.operations = mixedTree.operations := by
  obtain ⟨hprinted, hread⟩ := expression_reads_trees
  obtain ⟨text, htext, hexpression⟩ :=
    (hprinted mixedTree fits_mixedTree).1 (.ofList ["x", "a"]) mixedOperations rfl
  exact ⟨⟨text, htext, hexpression⟩, hread _ _ _ hexpression⟩

end Warrant.Grammar
