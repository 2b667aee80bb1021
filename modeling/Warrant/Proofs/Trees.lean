import Warrant.Proofs.Translation
import Warrant.Expression

namespace Warrant

/-- An expression with its operands below its operations. -/
inductive Tree (α : Type) where
  | value (term : α)
  | unary (which : Unary) (operand : Tree α)
  | binary (which : Binary) (left right : Tree α)

/-- How loosely an operation binds that stands between its operands. Methods have none, and one is
    that of negation, which stands before its operand. -/
def Binary.looseness? : Binary → Option Nat
  | mul | div => some 2
  | add | sub => some 3
  | lessThan | greaterThan | lessOrEqual | greaterOrEqual | equal => some 4
  | and => some 5
  | or => some 6
  | contains | startsWith | endsWith | matchesPattern | intersection | union => none

namespace Tree

variable {α β V S : Type} {m : Type → Type} [Monad m]

def map (f : α → β) : Tree α → Tree β
  | value a => value (f a)
  | unary which operand => unary which (operand.map f)
  | binary which left right => binary which (left.map f) (right.map f)

/-- The operations of a tree, each after those of its operands. -/
def operations : Tree (TermOf V S) → ExpressionOf V S
  | value t => [.value t]
  | unary which operand => operand.operations ++ [.unary which]
  | binary which left right => left.operations ++ right.operations ++ [.binary which]

/-- A tree in infix form. -/
def text (print : α → String) : Tree α → String
  | value a => print a
  | unary which operand => which.render (operand.text print)
  | binary which left right => which.render (left.text print) (right.text print)

/-- What becomes of a tree whose operands are worked on from left to right. -/
def result (onValue : α → m β) (onUnary : Unary → β → m β) (onBinary : Binary → β → β → m β) :
    Tree α → m β
  | value a => onValue a
  | unary which operand => do
    onUnary which (← operand.result onValue onUnary onBinary)
  | binary which left right => do
    let first ← left.result onValue onUnary onBinary
    let second ← right.result onValue onUnary onBinary
    onBinary which first second

/-- The trees of the grammar, over terms of some kind, by how loosely the operations outside of all
    parentheses and arguments bind. Operations between operands bind from the left. -/
inductive Fits (good : α → Prop) : Nat → Tree α → Prop
  | value {a : α} (h : good a) : Fits good 0 (.value a)
  | parens {t : Tree α} (h : Fits good 6 t) : Fits good 0 (.unary .parens t)
  | length {t : Tree α} (h : Fits good 0 t) : Fits good 0 (.unary .length t)
  | method {which : Binary} {left right : Tree α} (hmethod : which.looseness? = none)
      (hleft : Fits good 0 left) (hright : Fits good 6 right) :
      Fits good 0 (.binary which left right)
  | negate {t : Tree α} (h : Fits good 1 t) : Fits good 1 (.unary .negate t)
  | operator {which : Binary} {level : Nat} {left right : Tree α}
      (hlevel : which.looseness? = some (level + 1)) (hleft : Fits good (level + 1) left)
      (hright : Fits good level right) : Fits good (level + 1) (.binary which left right)
  | tighter {level : Nat} {t : Tree α} (h : Fits good level t) : Fits good (level + 1) t

section

variable [LawfulMonad m] {stuck : m (List β)} {onValue : TermOf V S → m β}
  {onUnary : Unary → β → m β} {onBinary : Binary → β → β → m β}

/-- The operations of a tree leave the result of the tree on the stack. -/
theorem runPostfix_operations (tree : Tree (TermOf V S)) (ops : ExpressionOf V S)
    (stack : List β) :
    runPostfix stuck onValue onUnary onBinary (tree.operations ++ ops) stack =
      tree.result onValue onUnary onBinary >>= fun b =>
        runPostfix stuck onValue onUnary onBinary ops (b :: stack) := by
  induction tree generalizing ops stack with
  | value t => rfl
  | unary which operand ih =>
    rw [operations, List.append_assoc, List.singleton_append, ih, result, bind_assoc]
    rfl
  | binary which left right ihl ihr =>
    rw [operations, List.append_assoc, List.append_assoc, List.singleton_append, ihl, result,
      bind_assoc]
    refine bind_congr fun first => ?_
    rw [ihr, bind_assoc]
    rfl

end

/-- Operations of a tree are printed as the tree. -/
theorem renderInfix?_operations (print : TermOf V S → String) (tree : Tree (TermOf V S)) :
    renderInfix? print tree.operations = some (tree.text print) := by
  have hresult : tree.result (fun t => some (print t)) (fun which o => some (which.render o))
      (fun which l r => some (which.render l r)) = some (tree.text print) := by
    induction tree with
    | value t => rfl
    | unary which operand ih =>
      rw [result, ih]
      rfl
    | binary which left right ihl ihr =>
      rw [result, ihl, ihr]
      rfl
  have hrun : runPostfix none (fun t => some (print t)) (fun which o => some (which.render o))
      (fun which l r => some (which.render l r)) (tree.operations ++ []) [] = _ :=
    runPostfix_operations tree [] []
  rw [List.append_nil, hresult] at hrun
  rw [renderInfix?, hrun]
  rfl

variable {f : α → β} {good : β → Prop}

theorem Fits.imp {good good' : α → Prop} {level : Nat} {t : Tree α} (h : t.Fits good level)
    (himp : ∀ a, good a → good' a) : t.Fits good' level := by
  induction h with
  | value h => exact .value (himp _ h)
  | parens _ ih => exact .parens ih
  | length _ ih => exact .length ih
  | method hmethod _ _ ihl ihr => exact .method hmethod ihl ihr
  | negate _ ih => exact .negate ih
  | operator hlevel _ _ ihl ihr => exact .operator hlevel ihl ihr
  | tighter _ ih => exact .tighter ih

theorem Fits.mono {good : α → Prop} {level level' : Nat} {t : Tree α} (h : t.Fits good level)
    (hle : level ≤ level') : t.Fits good level' := by
  induction hle with
  | refl => exact h
  | step _ ih => exact ih.tighter

theorem Fits.of_map {level : Nat} {t : Tree α} (h : (t.map f).Fits good level) :
    t.Fits (fun a => good (f a)) level := by
  generalize hmap : t.map f = t' at h
  induction h generalizing t with
  | value h =>
    cases t <;> cases hmap
    exact .value h
  | parens _ ih =>
    cases t <;> cases hmap
    exact .parens (ih rfl)
  | length _ ih =>
    cases t <;> cases hmap
    exact .length (ih rfl)
  | method hmethod _ _ ihl ihr =>
    cases t <;> cases hmap
    exact .method hmethod (ihl rfl) (ihr rfl)
  | negate _ ih =>
    cases t <;> cases hmap
    exact .negate (ih rfl)
  | operator hlevel _ _ ihl ihr =>
    cases t <;> cases hmap
    exact .operator hlevel (ihl rfl) (ihr rfl)
  | tighter _ ih => exact .tighter (ih hmap)

theorem Fits.of_mem_operations {good : TermOf V S → Prop} {level : Nat} {tree : Tree (TermOf V S)}
    (h : tree.Fits good level) {op : OpOf V S} (hop : op ∈ tree.operations) {t : TermOf V S}
    (ht : op.term? = some t) : good t := by
  induction h with
  | value h =>
    obtain rfl := List.mem_singleton.1 hop
    cases ht
    exact h
  | parens _ ih | length _ ih | negate _ ih =>
    rcases List.mem_append.1 hop with hop | hop
    · exact ih hop
    · obtain rfl := List.mem_singleton.1 hop
      cases ht
  | method _ _ _ ihl ihr | operator _ _ _ ihl ihr =>
    rcases List.mem_append.1 hop with hop | hop
    · exact (List.mem_append.1 hop).elim ihl ihr
    · obtain rfl := List.mem_singleton.1 hop
      cases ht
  | tighter _ ih => exact ih hop

/-- Operations that resolve to those of a tree are those of a tree that resolves to it. -/
theorem exists_of_map_eq_operations {symbols : SymbolTable} {tree : Tree Source.Term}
    {e : Expression} (h : e.map (OpOf.resolve symbols) = tree.operations) :
    ∃ t : Tree Term, t.operations = e ∧ t.map (TermOf.resolve symbols) = tree := by
  induction tree generalizing e with
  | value a =>
    obtain ⟨op, rfl, hop⟩ := List.map_eq_singleton_iff.1 h
    cases op <;> cases hop
    exact ⟨.value _, rfl, rfl⟩
  | unary which operand ih =>
    obtain ⟨e, last, rfl, he, hlast⟩ := List.map_eq_append_iff.1 h
    obtain ⟨op, rfl, hop⟩ := List.map_eq_singleton_iff.1 hlast
    cases op <;> cases hop
    obtain ⟨t, rfl, rfl⟩ := ih he
    exact ⟨.unary which t, rfl, rfl⟩
  | binary which left right ihl ihr =>
    obtain ⟨e, last, rfl, he, hlast⟩ := List.map_eq_append_iff.1 h
    obtain ⟨first, second, rfl, hfirst, hsecond⟩ := List.map_eq_append_iff.1 he
    obtain ⟨op, rfl, hop⟩ := List.map_eq_singleton_iff.1 hlast
    cases op <;> cases hop
    obtain ⟨l, rfl, rfl⟩ := ihl hfirst
    obtain ⟨r, rfl, rfl⟩ := ihr hsecond
    exact ⟨.binary which l r, rfl, rfl⟩

end Tree

end Warrant
