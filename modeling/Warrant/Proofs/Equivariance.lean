import Warrant.Proofs.Agreeing
import Warrant.Proofs.Numbering
import Warrant.Proofs.Positions
import Warrant.Proofs.Readable

namespace Warrant

open TermOf

section

variable {f : Equiv.Perm UInt32} {g : Equiv.Perm UInt64}

theorem compareOrdered_numbered (test : Ordering → Bool) (t u : Term) :
    compareOrdered test (t.numbered f g) (u.numbered f g) =
      (compareOrdered test t u).map (numbered f g) := by
  cases t <;> cases u <;> simp [compareOrdered, numbered, ofElements]

theorem calculate_numbered (operation : Int → Int → Option Int) (t u : Term) :
    calculate operation (t.numbered f g) (u.numbered f g) =
      (calculate operation t u).map (numbered f g) := by
  have hchecked (result : Option Int) :
      (result.bind checkedInteger).map (numbered f g) = result.bind checkedInteger := by
    cases result with
    | none => rfl
    | some n =>
      rw [Option.bind_some, checkedInteger]
      split <;> simp [numbered]
  cases t <;> cases u <;> simp [calculate, numbered, ofElements, hchecked]

theorem equalTerms_numbered {t u : Term} (ht : t.Settled) (hu : u.Settled) :
    equalTerms (t.numbered f g) (u.numbered f g) = (equalTerms t u).map (numbered f g) := by
  unfold equalTerms
  simp only [kind_numbered, ht.numbered_inj hu]
  split <;> simp [numbered]

theorem mem_numbered_iff {elements : List Term} (helements : (set elements).Settled) {t : Term}
    (ht : t.Settled) :
    t.numbered f g ∈ elements.map (numbered f g) ↔ t ∈ elements := by
  rw [List.mem_map]
  constructor
  · rintro ⟨u, hu, heq⟩
    rwa [← ((helements.of_mem hu).numbered_inj ht).1 heq]
  · exact fun h => ⟨t, h, rfl⟩

theorem containsTerm_numbered {t u : Term} (ht : t.Settled) (hu : u.Settled) :
    containsTerm (t.numbered f g) (u.numbered f g) = (containsTerm t u).map (numbered f g) := by
  cases t with
  | set elements =>
    have hmem {e : Term} (he : e.Settled) := mem_numbered_iff (f := f) (g := g) ht he
    rw [numbered_set, ofElements]
    cases u with
    | set others =>
      rw [numbered_set, ofElements, containsTerm, containsTerm, Option.map_some, numbered]
      congr 2
      rw [Bool.eq_iff_iff, List.all_eq_true, List.all_eq_true]
      simp only [SortedList.mem_ofList, List.forall_mem_map, decide_eq_true_eq]
      exact forall₂_congr fun e he => hmem (hu.of_mem he)
    | var v => simp [containsTerm, numbered]
    | _ =>
      have hscalar := hmem hu
      rw [numbered] at hscalar
      simp [containsTerm, numbered, hscalar]
  | _ => cases u <;> simp [containsTerm, numbered, ofElements]

theorem checkedSet_congr {ts us : List Term} (h : ∀ t, t ∈ ts ↔ t ∈ us) :
    checkedSet ts = checkedSet us := by
  rw [checkedSet, checkedSet, TermOf.setOf, TermOf.setOf, ofElements_congr h]

theorem checkedSet_numbered (elements : List Term) :
    checkedSet (elements.map (numbered f g)) = (checkedSet elements).map (numbered f g) := by
  have hvalidate : (ofElements (elements.map (numbered f g))).validate = .ok () ↔
      (ofElements elements).validate = .ok () := by
    simp only [validate_eq_ok_iff, MayBeRead, ofElements, set.injEq, forall_eq',
      SortedList.mem_ofList, List.forall_mem_map, kind_numbered]
  have hchecked (ts : List Term) : checkedSet ts =
      if (ofElements ts).validate = .ok () then some (ofElements ts) else none := by
    rw [checkedSet, TermOf.setOf]
    cases (ofElements ts).validate <;> rfl
  rw [hchecked, hchecked, ← numbered_ofElements]
  rw [← numbered_ofElements] at hvalidate
  simp only [hvalidate]
  split <;> rfl

variable {names : UInt32 → Prop} {strings : UInt64 → Prop} {left right : SymbolTable}
  (h : ∀ s, strings s → right.resolve? (g s) = left.resolve? s)
include h

theorem compareTexts_numbered (test : String → String → Bool) {t u : Term}
    (ht : t.Over names strings) (hu : u.Over names strings) :
    compareTexts right test (t.numbered f g) (u.numbered f g) =
      (compareTexts left test t u).map (numbered f g) := by
  cases t with
  | str s =>
    cases u with
    | str s' =>
      simp [compareTexts, numbered, h s ht, h s' hu, Option.map_bind, Function.comp_def]
    | _ => simp [compareTexts, numbered, ofElements]
  | _ => cases u <;> simp [compareTexts, numbered, ofElements]

theorem unary_numbered (which : Unary) {t : Term} (ht : t.Settled) (hover : t.Over names strings) :
    which.evaluate right (t.numbered f g) = (which.evaluate left t).map (numbered f g) := by
  cases which with
  | negate => cases t <;> simp [Unary.evaluate, numbered, ofElements]
  | parens => rfl
  | length =>
    cases t with
    | set elements =>
      have hnodup : (elements.map (numbered f g)).Nodup :=
        ht.nodup.map_on fun t ht' u hu' => ((ht.of_mem ht').numbered_inj (ht.of_mem hu')).1
      rw [numbered_set, ofElements, Unary.evaluate, Unary.evaluate]
      simp only [SortedList.length_ofList hnodup, List.length_map, Option.map_some, numbered]
    | str s => simp [Unary.evaluate, numbered, h s hover, Function.comp_def]
    | _ => simp [Unary.evaluate, numbered]

theorem evaluatePlain_numbered (which : Binary) {t u : Term} (ht : t.Settled) (hu : u.Settled)
    (hover : t.Over names strings) (hover' : u.Over names strings) :
    which.evaluatePlain right (t.numbered f g) (u.numbered f g) =
      (which.evaluatePlain left t u).map (numbered f g) := by
  cases which with
  | lessThan | greaterThan | lessOrEqual | greaterOrEqual =>
    rw [Binary.evaluatePlain, Binary.evaluatePlain]
    exact compareOrdered_numbered _ t u
  | equal => exact equalTerms_numbered ht hu
  | contains => exact containsTerm_numbered ht hu
  | startsWith | endsWith =>
    rw [Binary.evaluatePlain, Binary.evaluatePlain]
    exact compareTexts_numbered h _ hover hover'
  | matchesPattern => rfl
  | add | sub | mul | div =>
    rw [Binary.evaluatePlain, Binary.evaluatePlain]
    exact calculate_numbered _ t u
  | and | or => cases t <;> cases u <;> simp [Binary.evaluatePlain, numbered, ofElements]
  | intersection =>
    cases t with
    | set elements =>
      cases u with
      | set others =>
        rw [numbered_set, numbered_set]
        simp only [Binary.evaluatePlain, ofElements, SortedList.mem_ofList]
        rw [← checkedSet_numbered]
        refine checkedSet_congr fun e => ?_
        simp only [List.mem_filter, SortedList.mem_ofList, List.mem_map, decide_eq_true_eq]
        constructor
        · rintro ⟨⟨e, he, rfl⟩, hother⟩
          exact ⟨e, ⟨he, (mem_numbered_iff hu (ht.of_mem he)).1 (List.mem_map.2 hother)⟩, rfl⟩
        · rintro ⟨e, ⟨he, hother⟩, rfl⟩
          exact ⟨⟨e, he, rfl⟩, ⟨e, hother, rfl⟩⟩
      | _ => simp [Binary.evaluatePlain, numbered, ofElements]
    | _ => cases u <;> simp [Binary.evaluatePlain, numbered, ofElements]
  | union =>
    cases t with
    | set elements =>
      cases u with
      | set others =>
        rw [numbered_set, numbered_set]
        simp only [Binary.evaluatePlain, ofElements]
        rw [← checkedSet_numbered]
        refine checkedSet_congr fun e => ?_
        simp only [List.map_append, List.mem_append, SortedList.mem_ofList]
      | _ => simp [Binary.evaluatePlain, numbered, ofElements]
    | _ => cases u <;> simp [Binary.evaluatePlain, numbered, ofElements]

/-- Operations do the same with other numbers for the strings that they meet. -/
theorem binary_numbered (which : Binary) {t u : Term} (ht : t.Settled) (hu : u.Settled)
    (hover : t.Over names strings) (hover' : u.Over names strings) :
    which.value right (t.numbered f g) (u.numbered f g) =
      (which.value left t u).map (numbered f g) := by
  by_cases hwhich : which = .matchesPattern
  case pos =>
    subst hwhich
    cases t with
    | str s =>
      cases u with
      | str s' =>
        simp [Binary.value, numbered, SymbolTable.pattern?, h s hover, h s' hover',
          Option.map_bind, Function.comp_def]
      | _ => simp [Binary.value, Binary.evaluatePlain, numbered, ofElements]
    | _ => cases u <;> simp [Binary.value, Binary.evaluatePlain, numbered, ofElements]
  case neg =>
    have hplain (symbols : SymbolTable) (t u : Term) :
        which.value symbols t u = which.evaluatePlain symbols t u := by
      cases which <;> first | rfl | exact absurd rfl hwhich
    rw [hplain, hplain]
    exact evaluatePlain_numbered h which ht hu hover hover'

/-- Renumbering a valuation renumbers the variables and what they stand for. -/
def Valuation.numbered (f : Equiv.Perm UInt32) (g : Equiv.Perm UInt64) (σ : Valuation) :
    Valuation := fun v => (σ (f.symm v)).map (TermOf.numbered f g)

def Valuation.Settled (σ : Valuation) : Prop := ∀ v t, σ v = some t → t.Settled

omit h in
theorem under_numbered (σ : Valuation) (t : Term) :
    (t.numbered f g).under (σ.numbered f g) = (t.under σ).map (TermOf.numbered f g) := by
  cases t <;> simp [TermOf.numbered, under, Valuation.numbered, ofElements]

omit h in
theorem settled_under {σ : Valuation} (hσ : σ.Settled) {pattern t : Term}
    (hpattern : pattern.Settled) (ht : pattern.under σ = some t) : t.Settled := by
  cases pattern with
  | var v => exact hσ v t ht
  | _ =>
    cases ht
    exact hpattern

omit h in
theorem settled_unary {symbols : SymbolTable} {which : Unary} {t u : Term} (ht : t.Settled)
    (hu : which.evaluate symbols t = some u) : u.Settled := by
  have hsame : which.evaluate symbols (t.numbered (Equiv.refl _) (Equiv.refl _)) =
      (which.evaluate symbols t).map (numbered (Equiv.refl _) (Equiv.refl _)) :=
    unary_numbered (fun _ _ => rfl) which ht t.over_true
  rw [Equiv.coe_refl, Equiv.coe_refl, ht, hu] at hsame
  exact (Option.some.inj hsame).symm

omit h in
theorem settled_binary {symbols : SymbolTable} {which : Binary} {t u w : Term} (ht : t.Settled)
    (hu : u.Settled) (hw : which.value symbols t u = some w) : w.Settled := by
  have hsame : which.value symbols (t.numbered (Equiv.refl _) (Equiv.refl _))
        (u.numbered (Equiv.refl _) (Equiv.refl _)) =
      (which.value symbols t u).map (numbered (Equiv.refl _) (Equiv.refl _)) :=
    binary_numbered (fun _ _ => rfl) which ht hu t.over_true u.over_true
  rw [Equiv.coe_refl, Equiv.coe_refl, ht, hu, hw] at hsame
  exact (Option.some.inj hsame).symm

theorem runPostfix_numbered {σ : Valuation} (hσ : σ.Settled) (hσ' : σ.Over names strings)
    {e : Expression} (he : ∀ op ∈ e, op.Settled) (he' : ∀ op ∈ e, op.Over names strings)
    (stack : List Term) (hstack : ∀ t ∈ stack, t.Settled ∧ t.Over names strings) :
    runPostfix none (under (σ.numbered f g)) (fun which operand => which.evaluate right operand)
      (Binary.value right) (e.map (OpOf.numbered f g)) (stack.map (TermOf.numbered f g)) =
    (runPostfix none (under σ) (fun which operand => which.evaluate left operand)
      (Binary.value left) e stack).map (List.map (TermOf.numbered f g)) := by
  induction e generalizing stack with
  | nil => rfl
  | cons op ops ih =>
    obtain ⟨hop, hops⟩ := List.forall_mem_cons.1 he
    obtain ⟨hop', hops'⟩ := List.forall_mem_cons.1 he'
    have hnext {t : Term} {stack : List Term} (ht : t.Settled) (ht' : t.Over names strings)
        (hstack : ∀ t ∈ stack, t.Settled ∧ t.Over names strings) :=
      ih hops hops' (t :: stack) (List.forall_mem_cons.2 ⟨⟨ht, ht'⟩, hstack⟩)
    match op, stack with
    | .value pattern, stack =>
      have hpattern : pattern.Settled := OpOf.value.inj hop
      change ((pattern.numbered f g).under (σ.numbered f g)).bind _ =
        ((pattern.under σ).bind _).map _
      rw [under_numbered, Option.bind_map, Option.map_bind]
      exact Option.bind_congr fun t ht =>
        hnext (settled_under hσ hpattern ht) (over_under hσ' hop' ht) hstack
    | .unary which, operand :: stack =>
      obtain ⟨⟨hoperand, hoperand'⟩, hstack⟩ := List.forall_mem_cons.1 hstack
      change (which.evaluate _ (operand.numbered f g)).bind _ =
        ((which.evaluate _ operand).bind _).map _
      rw [unary_numbered h which hoperand hoperand', Option.bind_map, Option.map_bind]
      exact Option.bind_congr fun t ht =>
        hnext (settled_unary hoperand ht) (over_unary hoperand' ht) hstack
    | .binary which, second :: first :: stack =>
      obtain ⟨⟨hsecond, hsecond'⟩, hstack⟩ := List.forall_mem_cons.1 hstack
      obtain ⟨⟨hfirst, hfirst'⟩, hstack⟩ := List.forall_mem_cons.1 hstack
      change (which.value _ (first.numbered f g) (second.numbered f g)).bind _ =
        ((which.value _ first second).bind _).map _
      rw [binary_numbered h which hfirst hsecond hfirst' hsecond', Option.bind_map,
        Option.map_bind]
      exact Option.bind_congr fun t ht =>
        hnext (settled_binary hfirst hsecond ht) (over_binary hfirst' hsecond' ht) hstack
    | .unary _, [] => rfl
    | .binary _, [] => rfl
    | .binary _, [_] => rfl

/-- Expressions have the same values with other numbers, where these have the same strings. -/
theorem value_numbered {σ : Valuation} (hσ : σ.Settled) (hσ' : σ.Over names strings)
    {e : Expression} (he : ∀ op ∈ e, op.Settled) (he' : ∀ op ∈ e, op.Over names strings) :
    value right (σ.numbered f g) (e.map (OpOf.numbered f g)) =
      (value left σ e).map (TermOf.numbered f g) := by
  have hrun := runPostfix_numbered (f := f) h hσ hσ' he he' [] (by simp)
  rw [List.map_nil] at hrun
  rw [value, value, hrun]
  cases runPostfix none (under σ) (fun which operand => which.evaluate left operand)
    (Binary.value left) e [] with
  | none => rfl
  | some stack =>
    rcases stack with _ | ⟨t, _ | ⟨_, _⟩⟩
    · rfl
    · rfl
    · rfl

end

end Warrant
