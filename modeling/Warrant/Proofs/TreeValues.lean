import Warrant.Proofs.Answers
import Warrant.Proofs.Operators
import Warrant.Proofs.Trees

namespace Warrant

namespace Tree

section

variable {V S β : Type}

/-- Runs postfix operations on a stack of trees. -/
def grow (ops : ExpressionOf V S) (stack : List (Tree (TermOf V S))) :
    Option (List (Tree (TermOf V S))) :=
  runPostfix none (fun t => some (.value t)) (fun which operand => some (.unary which operand))
    (fun which left right => some (.binary which left right)) ops stack

/-- The tree whose operations some operations are, if they are those of one. -/
def ofOperations? (ops : ExpressionOf V S) : Option (Tree (TermOf V S)) :=
  match grow ops [] with
  | some [tree] => some tree
  | _ => none

/-- The trees on the stack spell what has been run, from the bottom to the top. -/
theorem flatMap_operations_of_grow {ops : ExpressionOf V S} {trees : List (Tree (TermOf V S))}
    (stack : List (Tree (TermOf V S))) (h : grow ops stack = some trees) :
    trees.reverse.flatMap operations = stack.reverse.flatMap operations ++ ops := by
  induction ops generalizing stack with
  | nil =>
    cases h
    exact (List.append_nil _).symm
  | cons op ops ih =>
    match op, stack with
    | .value t, stack =>
      rw [ih (.value t :: stack) h]
      simp [operations]
    | .unary which, operand :: stack =>
      rw [ih (.unary which operand :: stack) h]
      simp [operations]
    | .binary which, right :: left :: stack =>
      rw [ih (.binary which left right :: stack) h]
      simp [operations]
    | .unary _, [] => cases h
    | .binary _, [] => cases h
    | .binary _, [_] => cases h

/-- Whether operations find their operands hangs on the height of the stack alone. -/
theorem exists_grow_of_runPostfix {onValue : TermOf V S → Option β}
    {onUnary : Unary → β → Option β} {onBinary : Binary → β → β → Option β}
    {ops : ExpressionOf V S} {final : List β} (stack : List β) (trees : List (Tree (TermOf V S)))
    (hheight : trees.length = stack.length)
    (h : runPostfix none onValue onUnary onBinary ops stack = some final) :
    ∃ grown, grow ops trees = some grown ∧ grown.length = final.length := by
  induction ops generalizing stack trees with
  | nil =>
    cases h
    exact ⟨trees, rfl, hheight⟩
  | cons op ops ih =>
    match op, stack, trees with
    | .value t, stack, trees =>
      obtain ⟨b, _, h⟩ := Option.bind_eq_some_iff.1 h
      exact ih (b :: stack) (.value t :: trees) (congrArg (· + 1) hheight) h
    | .unary which, operand :: stack, tree :: trees =>
      obtain ⟨b, _, h⟩ := Option.bind_eq_some_iff.1 h
      exact ih (b :: stack) (.unary which tree :: trees) hheight h
    | .binary which, right :: left :: stack, second :: first :: trees =>
      obtain ⟨b, _, h⟩ := Option.bind_eq_some_iff.1 h
      exact ih (b :: stack) (.binary which first second :: trees) (Nat.succ.inj hheight) h
    | .unary _, [], _ => cases h
    | .binary _, [], _ => cases h
    | .binary _, [_], _ => cases h

theorem grow_operations (tree : Tree (TermOf V S)) : grow tree.operations [] = some [tree] := by
  have hresult : tree.result (fun t => some (.value t)) (fun which o => some (.unary which o))
      (fun which l r => some (.binary which l r)) = some tree := by
    induction tree with
    | value t => rfl
    | unary which operand ih =>
      rw [result, ih]
      rfl
    | binary which left right ihl ihr =>
      rw [result, ihl, ihr]
      rfl
  have hrun : grow (tree.operations ++ []) [] = _ := runPostfix_operations tree [] []
  rwa [List.append_nil, hresult] at hrun

/-- The operations of a tree are those of no other. -/
theorem ofOperations?_eq_some_iff {ops : ExpressionOf V S} {tree : Tree (TermOf V S)} :
    ofOperations? ops = some tree ↔ tree.operations = ops := by
  constructor
  · intro h
    rw [ofOperations?] at h
    split at h
    case h_1 only hgrow =>
      cases h
      simpa using flatMap_operations_of_grow [] hgrow
    case h_2 => cases h
  · rintro rfl
    rw [ofOperations?, grow_operations]

/-- What leaves one result is the operations of a tree. -/
theorem exists_operations_eq_of_runPostfix {onValue : TermOf V S → Option β}
    {onUnary : Unary → β → Option β} {onBinary : Binary → β → β → Option β}
    {ops : ExpressionOf V S} {b : β}
    (h : runPostfix none onValue onUnary onBinary ops [] = some [b]) :
    ∃ tree : Tree (TermOf V S), tree.operations = ops := by
  obtain ⟨grown, hgrow, hlength⟩ := exists_grow_of_runPostfix ([] : List β) [] rfl h
  obtain ⟨tree, rfl⟩ := List.length_eq_one_iff.1 hlength
  exact ⟨tree, by simpa using flatMap_operations_of_grow [] hgrow⟩

end

/-- The values of trees. A tree has the value of its operation on the values of its operands, all of
    which must have one, and a variable has the term that it stands for. -/
inductive HasValue (symbols : SymbolTable) (σ : Valuation) : Tree Term → Term → Prop
  | constant {t : Term} (h : t.kind ≠ .var) : HasValue symbols σ (.value t) t
  | bound {v : UInt32} {t : Term} (h : σ v = some t) : HasValue symbols σ (.value (.var v)) t
  | unary {which : Unary} {operand : Tree Term} {a t : Term}
      (hoperand : HasValue symbols σ operand a) (h : which.Gives symbols a t) :
      HasValue symbols σ (.unary which operand) t
  | binary {which : Binary} {left right : Tree Term} {a b t : Term}
      (hleft : HasValue symbols σ left a) (hright : HasValue symbols σ right b)
      (h : which.Gives symbols a b t) : HasValue symbols σ (.binary which left right) t

variable {symbols : SymbolTable} {σ : Valuation}

theorem hasValue_value_iff {t u : Term} :
    HasValue symbols σ (.value t) u ↔ t.under σ = some u := by
  constructor
  · intro h
    cases h with
    | constant h =>
      cases t with
      | var v => exact absurd rfl h
      | _ => rfl
    | bound h => exact h
  · intro h
    cases t with
    | var v => exact .bound h
    | _ =>
      cases h
      exact .constant (by rintro ⟨⟩)

theorem hasValue_unary_iff {which : Unary} {operand : Tree Term} {t : Term} :
    HasValue symbols σ (.unary which operand) t ↔
      ∃ a, HasValue symbols σ operand a ∧ which.Gives symbols a t := by
  constructor
  · rintro (_ | _ | ⟨hoperand, h⟩)
    exact ⟨_, hoperand, h⟩
  · rintro ⟨a, hoperand, h⟩
    exact .unary hoperand h

theorem hasValue_binary_iff {which : Binary} {left right : Tree Term} {t : Term} :
    HasValue symbols σ (.binary which left right) t ↔
      ∃ a, HasValue symbols σ left a ∧ ∃ b, HasValue symbols σ right b ∧
        which.Gives symbols a b t := by
  constructor
  · rintro (_ | _ | _ | ⟨hleft, hright, h⟩)
    exact ⟨_, hleft, _, hright, h⟩
  · rintro ⟨a, hleft, b, hright, h⟩
    exact .binary hleft hright h

theorem result_eq_some_iff {tree : Tree Term} {t : Term} :
    tree.result (TermOf.under σ) (fun which operand => which.evaluate symbols operand)
      (Binary.value symbols) = some t ↔ tree.HasValue symbols σ t := by
  induction tree generalizing t with
  | value u => exact hasValue_value_iff.symm
  | unary which operand ih =>
    simp only [result, Option.bind_eq_bind, Option.bind_eq_some_iff, ih,
      Unary.evaluate_eq_some_iff, hasValue_unary_iff]
  | binary which left right ihl ihr =>
    simp only [result, Option.bind_eq_bind, Option.bind_eq_some_iff, ihl, ihr,
      Binary.value_eq_some_iff, hasValue_binary_iff]

/-- The stack ends with the value of the tree alone. -/
theorem value_operations (tree : Tree Term) : Warrant.value symbols σ tree.operations =
    tree.result (TermOf.under σ) (fun which operand => which.evaluate symbols operand)
      (Binary.value symbols) := by
  have hrun : runPostfix none (TermOf.under σ)
      (fun which operand => which.evaluate symbols operand) (Binary.value symbols)
      (tree.operations ++ []) [] = _ := runPostfix_operations tree [] []
  rw [List.append_nil] at hrun
  rw [Warrant.value, hrun]
  cases tree.result (TermOf.under σ) (fun which operand => which.evaluate symbols operand)
    (Binary.value symbols) <;> rfl

theorem exists_operations_eq_of_value {e : Expression} {t : Term}
    (h : Warrant.value symbols σ e = some t) : ∃ tree : Tree Term, tree.operations = e := by
  obtain ⟨stack, hrun, h⟩ := Option.bind_eq_some_iff.1 h
  split at h
  case h_1 => exact exists_operations_eq_of_runPostfix hrun
  case h_2 => cases h

theorem exists_operations_eq_of_renderInfix? {V S : Type} {print : TermOf V S → String}
    {ops : ExpressionOf V S} {text : String} (h : renderInfix? print ops = some text) :
    ∃ tree : Tree (TermOf V S), tree.operations = ops := by
  obtain ⟨stack, hrun, h⟩ := Option.bind_eq_some_iff.1 h
  split at h
  case h_1 => exact exists_operations_eq_of_runPostfix hrun
  case h_2 => cases h

/-- Operations are worked on as the tree that they spell, and only those of one tree have a value or
    can be printed. The value of the tree is that of its operation on the values of its operands.
    Sums, differences and products have one where 64 bits hold them, quotients but for a divisor of
    zero and the least integer divided by -1, sets where the elements of the result may form one;
    the length of a string is the number of its bytes; and terms of other kinds than an operation
    takes have no value. -/
theorem evaluation_exact (symbols : SymbolTable) (bindings : Bindings) (e : Expression) :
    (∀ tree : Tree Term, tree.operations = e →
      (∀ other : Tree Term, other.operations = e → other = tree) ∧
      (∀ t, freshValue? symbols bindings e = some t ↔
        tree.HasValue symbols bindings.valuation t) ∧
      renderInfix? (TermOf.render symbols) e = some (tree.text (TermOf.render symbols))) ∧
    ((∀ tree : Tree Term, tree.operations ≠ e) →
      freshValue? symbols bindings e = none ∧
        renderInfix? (TermOf.render symbols) e = none) ∧
    (∀ which result, Binary.Computes which result → ∀ i j : Int64,
      (∃ t, which.Gives symbols (.integer i) (.integer j) t) ↔
        Int64.minValue.toInt ≤ result i.toInt j.toInt ∧
          result i.toInt j.toInt ≤ Int64.maxValue.toInt) ∧
    (∀ i j : Int64, (∃ t, Binary.div.Gives symbols (.integer i) (.integer j) t) ↔
      ¬(j = 0 ∨ i = Int64.minValue ∧ j = -1)) ∧
    (∀ which condition, Binary.Combines which condition → ∀ elements others : List Term,
      (∃ t, which.Gives symbols (.set elements) (.set others) t) ↔
        (∀ t, condition (t ∈ elements) (t ∈ others) → t.kind ≠ .var ∧ t.kind ≠ .set) ∧
          ∀ t u, condition (t ∈ elements) (t ∈ others) →
            condition (u ∈ elements) (u ∈ others) → t.kind = u.kind) ∧
    (∀ s text, symbols.resolve? s = some text → text.utf8ByteSize < 2 ^ 63 →
      ∃ n : Int64, n.toInt = text.utf8ByteSize ∧
        ∀ t, Unary.length.Gives symbols (.str s) t ↔ t = .integer n) ∧
    (∀ (which : Unary) operand t, which.Gives symbols operand t → which.Takes operand.kind) ∧
    (∀ (which : Binary) left right t, which.Gives symbols left right t →
      which.Takes left.kind right.kind) := by
  refine ⟨?_, fun hnone => ⟨?_, ?_⟩, fun which result h i j => h.exists_gives_iff,
    fun i j => Binary.exists_div_gives_iff, fun which condition h elements others =>
      h.exists_gives_iff, fun s text hs hsize => ?_, fun which operand t h => h.takes,
    fun which left right t h => h.takes⟩
  · rintro tree rfl
    refine ⟨fun other hother => ?_, fun t => ?_, renderInfix?_operations _ tree⟩
    · have htree := ofOperations?_eq_some_iff.2 (rfl : tree.operations = tree.operations)
      exact Option.some.inj ((ofOperations?_eq_some_iff.2 hother).symm.trans htree)
    · rw [freshValue?_eq_value, value_operations, result_eq_some_iff]
  · rw [freshValue?_eq_value, Option.eq_none_iff_forall_ne_some]
    intro t ht
    obtain ⟨tree, htree⟩ := exists_operations_eq_of_value ht
    exact hnone tree htree
  · rw [Option.eq_none_iff_forall_ne_some]
    intro text htext
    obtain ⟨tree, htree⟩ := exists_operations_eq_of_renderInfix? htext
    exact hnone tree htree
  · refine ⟨.ofNat text.utf8ByteSize, Int64.toInt_ofNat_of_lt hsize, fun t => ?_⟩
    rw [← Unary.evaluate_eq_some_iff, Unary.evaluate, hs]
    simp [eq_comm]

end Tree

end Warrant
