import Warrant.Proofs.Content
import Warrant.Proofs.Evaluation

namespace Warrant

section

variable {names : UInt32 → Prop} {strings : UInt64 → Prop} {left right t : Term}

theorem over_compareOrdered {test : Ordering → Bool} (h : compareOrdered test left right = some t) :
    t.Over names strings := by
  unfold compareOrdered at h
  split at h
  · cases h
    trivial
  · cases h
    trivial
  · cases h

theorem over_calculate {operation : Int → Int → Option Int}
    (h : calculate operation left right = some t) : t.Over names strings := by
  unfold calculate at h
  split at h
  · obtain ⟨n, _, hn⟩ := Option.bind_eq_some_iff.1 h
    unfold checkedInteger at hn
    split at hn
    · cases hn
      trivial
    · cases hn
  · cases h

theorem over_compareTexts {symbols : SymbolTable} {test : String → String → Bool}
    (h : compareTexts symbols test left right = some t) : t.Over names strings := by
  unfold compareTexts at h
  split at h
  · obtain ⟨_, _, h⟩ := Option.bind_eq_some_iff.1 h
    obtain ⟨_, _, h⟩ := Option.bind_eq_some_iff.1 h
    cases h
    trivial
  · cases h

theorem over_equalTerms (h : equalTerms left right = some t) : t.Over names strings := by
  unfold equalTerms at h
  split at h
  · cases h
    trivial
  · cases h

theorem over_containsTerm (h : containsTerm left right = some t) : t.Over names strings := by
  unfold containsTerm at h
  split at h
  · cases h
    trivial
  · cases h
  · cases h
    trivial
  · cases h

theorem over_checkedSet {elements : List Term} (helements : ∀ t ∈ elements, t.Over names strings)
    (h : checkedSet elements = some t) : t.Over names strings := by
  unfold checkedSet TermOf.setOf at h
  dsimp only at h
  split at h
  · cases h
    exact TermOf.over_ofElements helements
  · cases h

theorem over_unary {symbols : SymbolTable} {which : Unary} (hleft : left.Over names strings)
    (h : which.evaluate symbols left = some t) : t.Over names strings := by
  cases which with
  | negate =>
    unfold Unary.evaluate at h
    dsimp only at h
    split at h
    · cases h
      trivial
    · cases h
  | parens =>
    cases h
    exact hleft
  | length =>
    unfold Unary.evaluate at h
    dsimp only at h
    split at h
    · obtain ⟨_, _, rfl⟩ := Option.map_eq_some_iff.1 h
      trivial
    · cases h
      trivial
    · cases h
      trivial
    · cases h

/-- Values of operations have no strings but those of their operands. -/
theorem over_evaluatePlain {symbols : SymbolTable} {which : Binary}
    (hleft : left.Over names strings) (hright : right.Over names strings)
    (h : which.evaluatePlain symbols left right = some t) : t.Over names strings := by
  cases which with
  | lessThan | greaterThan | lessOrEqual | greaterOrEqual =>
    rw [Binary.evaluatePlain] at h
    exact over_compareOrdered h
  | equal => exact over_equalTerms h
  | contains => exact over_containsTerm h
  | startsWith | endsWith =>
    rw [Binary.evaluatePlain] at h
    exact over_compareTexts h
  | matchesPattern => cases h
  | add | sub | mul | div =>
    rw [Binary.evaluatePlain] at h
    exact over_calculate h
  | and | or =>
    unfold Binary.evaluatePlain at h
    dsimp only at h
    split at h
    · cases h
      trivial
    · cases h
  | intersection =>
    unfold Binary.evaluatePlain at h
    dsimp only at h
    split at h
    · refine over_checkedSet (fun t ht => ?_) h
      exact TermOf.allOver_iff.1 hleft t (List.mem_filter.1 ht).1
    · cases h
  | union =>
    unfold Binary.evaluatePlain at h
    dsimp only at h
    split at h
    · refine over_checkedSet (fun t ht => ?_) h
      rcases List.mem_append.1 ht with ht | ht
      · exact TermOf.allOver_iff.1 hleft t ht
      · exact TermOf.allOver_iff.1 hright t ht
    · cases h

theorem over_binary {symbols : SymbolTable} {which : Binary} (hleft : left.Over names strings)
    (hright : right.Over names strings) (h : which.value symbols left right = some t) :
    t.Over names strings := by
  unfold Binary.value at h
  split at h
  · obtain ⟨_, _, h⟩ := Option.bind_eq_some_iff.1 h
    obtain ⟨_, _, h⟩ := Option.bind_eq_some_iff.1 h
    cases h
    trivial
  · exact over_evaluatePlain hleft hright h

end

/-- Whether variables stand for terms over some names and strings only. -/
def Valuation.Over (names : UInt32 → Prop) (strings : UInt64 → Prop) (σ : Valuation) : Prop :=
  ∀ v t, σ v = some t → t.Over names strings

section

variable {names : UInt32 → Prop} {strings : UInt64 → Prop} {σ : Valuation}
  (hσ : σ.Over names strings)
include hσ

theorem over_under {pattern t : Term} (hpattern : pattern.Over names strings)
    (ht : pattern.under σ = some t) : t.Over names strings := by
  cases pattern with
  | var v => exact hσ v t ht
  | _ =>
    cases ht
    exact hpattern

/-- A value has no strings but those of the expression and of what its variables stand for. -/
theorem over_of_value {symbols : SymbolTable} {e : Expression}
    (he : ∀ op ∈ e, op.Over names strings) {t : Term} (ht : value symbols σ e = some t) :
    t.Over names strings := by
  have hrun (stack result : List Term) (hstack : ∀ t ∈ stack, t.Over names strings)
      (h : runPostfix none (TermOf.under σ) (fun which operand => which.evaluate symbols operand)
        (Binary.value symbols) e stack = some result) :
      ∀ t ∈ result, t.Over names strings := by
    clear ht
    induction e generalizing stack with
    | nil =>
      cases h
      exact hstack
    | cons op ops ih =>
      obtain ⟨hop, hops⟩ := List.forall_mem_cons.1 he
      match op, stack with
      | .value pattern, stack =>
        obtain ⟨t, ht, h⟩ := Option.bind_eq_some_iff.1 h
        exact ih hops _ (List.forall_mem_cons.2 ⟨over_under hσ hop ht, hstack⟩) h
      | .unary which, operand :: stack =>
        obtain ⟨hoperand, hstack⟩ := List.forall_mem_cons.1 hstack
        obtain ⟨t, ht, h⟩ := Option.bind_eq_some_iff.1 h
        exact ih hops _ (List.forall_mem_cons.2 ⟨over_unary hoperand ht, hstack⟩) h
      | .binary which, right :: left :: stack =>
        obtain ⟨hright, hstack⟩ := List.forall_mem_cons.1 hstack
        obtain ⟨hleft, hstack⟩ := List.forall_mem_cons.1 hstack
        obtain ⟨t, ht, h⟩ := Option.bind_eq_some_iff.1 h
        exact ih hops _ (List.forall_mem_cons.2 ⟨over_binary hleft hright ht, hstack⟩) h
      | .unary _, [] => cases h
      | .binary _, [] => cases h
      | .binary _, [_] => cases h
  obtain ⟨stack, hstack, h⟩ := Option.bind_eq_some_iff.1 ht
  match stack with
  | [] => cases h
  | [_] =>
    cases h
    exact hrun [] [t] (by simp) hstack t List.mem_cons_self
  | _ :: _ :: _ => cases h

end

section

variable {names : UInt32 → Prop} {strings : UInt64 → Prop} {table table' : SymbolTable}
  (hagree : ∀ s, strings s → table.resolve? s = table'.resolve? s)
include hagree

theorem compareTexts_congr {test : String → String → Bool} {left right : Term}
    (hleft : left.Over names strings) (hright : right.Over names strings) :
    compareTexts table test left right = compareTexts table' test left right := by
  unfold compareTexts
  split
  case h_1 s t => rw [hagree s hleft, hagree t hright]
  case h_2 => rfl

theorem unary_congr (which : Unary) {operand : Term} (h : operand.Over names strings) :
    which.evaluate table operand = which.evaluate table' operand := by
  cases which with
  | negate => rfl
  | parens => rfl
  | length =>
    cases operand with
    | str s => rw [Unary.evaluate, Unary.evaluate, hagree s h]
    | _ => rfl

theorem binary_congr (which : Binary) {left right : Term} (hleft : left.Over names strings)
    (hright : right.Over names strings) :
    which.value table left right = which.value table' left right := by
  cases which with
  | startsWith => exact compareTexts_congr hagree hleft hright
  | endsWith => exact compareTexts_congr hagree hleft hright
  | matchesPattern =>
    cases left with
    | str s =>
      cases right with
      | str p =>
        rw [Binary.value, Binary.value, SymbolTable.pattern?, SymbolTable.pattern?,
          hagree s hleft, hagree p hright]
      | _ => rfl
    | _ => rfl
  | _ => rfl

/-- Tables in which the strings of an expression and of its variables are the same give it the same
    value. -/
theorem value_congr {σ : Valuation} (hσ : σ.Over names strings) {e : Expression}
    (he : ∀ op ∈ e, op.Over names strings) : value table σ e = value table' σ e := by
  have hpostfix (stack : List Term) (hstack : ∀ t ∈ stack, t.Over names strings) :
      runPostfix none (TermOf.under σ) (fun which operand => which.evaluate table operand)
        (Binary.value table) e stack =
      runPostfix none (TermOf.under σ) (fun which operand => which.evaluate table' operand)
        (Binary.value table') e stack := by
    induction e generalizing stack with
    | nil => rfl
    | cons op ops ih =>
      have hnext {t : Term} {stack : List Term} (ht : t.Over names strings)
          (hstack : ∀ t ∈ stack, t.Over names strings) :=
        ih (fun op hop => he op (List.mem_cons_of_mem _ hop)) (t :: stack)
          (List.forall_mem_cons.2 ⟨ht, hstack⟩)
      match op, stack with
      | .value pattern, stack =>
        have hpattern : pattern.Over names strings := he _ List.mem_cons_self
        exact Option.bind_congr fun t ht => hnext (over_under hσ hpattern ht) hstack
      | .unary which, operand :: stack =>
        obtain ⟨hoperand, hstack⟩ := List.forall_mem_cons.1 hstack
        change (which.evaluate table operand).bind _ = (which.evaluate table' operand).bind _
        rw [← unary_congr hagree which hoperand]
        exact Option.bind_congr fun t ht => hnext (over_unary hoperand ht) hstack
      | .binary which, right :: left :: stack =>
        obtain ⟨hright, hstack⟩ := List.forall_mem_cons.1 hstack
        obtain ⟨hleft, hstack⟩ := List.forall_mem_cons.1 hstack
        change (which.value table left right).bind _ = (which.value table' left right).bind _
        rw [← binary_congr hagree which hleft hright]
        exact Option.bind_congr fun t ht => hnext (over_binary hleft hright ht) hstack
      | .unary _, [] => rfl
      | .binary _, [] => rfl
      | .binary _, [_] => rfl
  rw [value, value, hpostfix [] (by simp)]

end

end Warrant
