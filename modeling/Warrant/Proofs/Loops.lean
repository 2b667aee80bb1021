import Mathlib.Algebra.BigOperators.Group.List.Basic
import Mathlib.Data.List.Basic

namespace Warrant

variable {ε α β : Type}

theorem ok_bind (a : α) (f : α → Except ε β) : (.ok a : Except ε α) >>= f = f a := rfl

theorem bind_eq_ok_iff {x : Except ε α} {f : α → Except ε β} {b : β} :
    x >>= f = .ok b ↔ ∃ a, x = .ok a ∧ f a = .ok b := by
  cases x with
  | error fault => exact iff_of_false nofun fun ⟨_, h, _⟩ => nomatch h
  | ok a =>
    constructor
    · exact fun h => ⟨a, rfl, h⟩
    · rintro ⟨_, ⟨⟩, h⟩
      exact h

theorem map_eq_ok_iff {x : Except ε α} {f : α → β} {b : β} :
    f <$> x = .ok b ↔ ∃ a, x = .ok a ∧ f a = b := by
  cases x <;> simp [Functor.map, Except.map]

theorem eq_ok_iff_forall_ne_error {x : Except ε Unit} : x = .ok () ↔ ∀ e, x ≠ .error e := by
  cases x <;> simp

/-- One step after another ends well where both do. -/
theorem then_eq_ok_iff {x y : Except ε Unit} :
    (x >>= fun _ => y) = .ok () ↔ x = .ok () ∧ y = .ok () :=
  bind_eq_ok_iff.trans ⟨fun ⟨_, hx, hy⟩ => ⟨hx, hy⟩, fun ⟨hx, hy⟩ => ⟨(), hx, hy⟩⟩

/-- What follows a step that reports a fault is not reached. -/
theorem bind_eq_error_iff {x y : Except ε Unit} {e : ε} :
    (x >>= fun _ => y) = .error e ↔ x = .error e ∨ x = .ok () ∧ y = .error e := by
  cases x with
  | error fault => exact ⟨.inl, fun h => h.elim id fun h => nomatch h.1⟩
  | ok => exact ⟨fun h => .inr ⟨rfl, h⟩, fun h => h.elim nofun And.right⟩

/-- Items that each add something to a list are no more than the list is long. -/
theorem length_le_flatMap {f : α → List β} {xs : List α} (h : ∀ x ∈ xs, f x ≠ []) :
    xs.length ≤ (xs.flatMap f).length := by
  have hlengths : ∀ n ∈ xs.map fun x => (f x).length, 1 ≤ n :=
    List.forall_mem_map.2 fun x hx => List.length_pos_iff.2 (h x hx)
  have hle := List.length_le_sum_of_one_le _ hlengths
  rwa [List.length_map, ← List.length_flatMap] at hle

/-- A loop in a loop is one over all that the inner loops go through. -/
theorem forM_flatMap {m : Type → Type} [Monad m] [LawfulMonad m] (f : α → List β)
    (visit : β → m Unit) (xs : List α) :
    (xs.flatMap f).forM visit = xs.forM fun x => (f x).forM visit := by
  induction xs with
  | nil => rfl
  | cons x xs ih =>
    simp only [List.flatMap_cons, List.forM_eq_forM, List.forM_append, List.forM_cons] at ih ⊢
    rw [ih]

/-- A loop that reports faults ends well where no item is at fault. -/
theorem forM_eq_ok_iff {f : α → Except ε Unit} {xs : List α} :
    xs.forM f = .ok () ↔ ∀ x ∈ xs, f x = .ok () := by
  induction xs with
  | nil => exact iff_of_true rfl nofun
  | cons x xs ih =>
    have hstep : (x :: xs).forM f = .ok () ↔ f x = .ok () ∧ xs.forM f = .ok () := then_eq_ok_iff
    rw [hstep, ih, List.forall_mem_cons]

/-- Whether a fault is that of the first of some items that have one. -/
def FirstFault (fault : α → ε → Prop) (xs : List α) (e : ε) : Prop :=
  ∃ before x after, xs = before ++ x :: after ∧ (∀ y ∈ before, ∀ e', ¬fault y e') ∧ fault x e

theorem not_firstFault_nil {fault : α → ε → Prop} {e : ε} : ¬FirstFault fault [] e := by
  rintro ⟨before, x, after, hsplit, -⟩
  cases before <;> cases hsplit

theorem firstFault_cons_iff {fault : α → ε → Prop} {x : α} {xs : List α} {e : ε} :
    FirstFault fault (x :: xs) e ↔
      fault x e ∨ (∀ e', ¬fault x e') ∧ FirstFault fault xs e := by
  constructor
  · rintro ⟨before, y, after, hsplit, hbefore, hy⟩
    cases before with
    | nil =>
      cases hsplit
      exact .inl hy
    | cons first before =>
      cases hsplit
      obtain ⟨hx, hbefore⟩ := List.forall_mem_cons.1 hbefore
      exact .inr ⟨hx, before, y, after, rfl, hbefore, hy⟩
  · rintro (hx | ⟨hx, before, y, after, rfl, hbefore, hy⟩)
    · exact ⟨[], x, xs, rfl, nofun, hx⟩
    · exact ⟨x :: before, y, after, rfl, List.forall_mem_cons.2 ⟨hx, hbefore⟩, hy⟩

theorem firstFault_singleton_iff {fault : α → ε → Prop} {x : α} {e : ε} :
    FirstFault fault [x] e ↔ fault x e := by
  rw [firstFault_cons_iff]
  exact or_iff_left fun h => not_firstFault_nil h.2

/-- There is a first item at fault if any is. -/
theorem exists_firstFault_iff {fault : α → ε → Prop} {xs : List α} :
    (∃ e, FirstFault fault xs e) ↔ ∃ x ∈ xs, ∃ e, fault x e := by
  induction xs with
  | nil => exact iff_of_false (fun ⟨_, h⟩ => not_firstFault_nil h) fun ⟨_, h, _⟩ => nomatch h
  | cons x xs ih =>
    rw [List.exists_mem_cons_iff, ← ih]
    by_cases hx : ∃ e, fault x e
    · obtain ⟨e, he⟩ := hx
      exact iff_of_true ⟨e, firstFault_cons_iff.2 (.inl he)⟩ (.inl ⟨e, he⟩)
    · have hnone := not_exists.1 hx
      simp [firstFault_cons_iff, hnone]

theorem firstFault_append_iff {fault : α → ε → Prop} {xs ys : List α} {e : ε} :
    FirstFault fault (xs ++ ys) e ↔
      FirstFault fault xs e ∨ (∀ e', ¬FirstFault fault xs e') ∧ FirstFault fault ys e := by
  induction xs with
  | nil => simp [not_firstFault_nil]
  | cons x xs ih =>
    rw [List.cons_append]
    simp only [firstFault_cons_iff, ih]
    by_cases hx : ∀ e', ¬fault x e'
    · simp [hx]
    · simp only [hx, false_and, or_false]

/-- A loop reports the fault of the first item that has one. -/
theorem forM_eq_error_iff {f : α → Except ε Unit} {fault : α → ε → Prop}
    (h : ∀ x e, f x = .error e ↔ fault x e) {xs : List α} {e : ε} :
    xs.forM f = .error e ↔ FirstFault fault xs e := by
  induction xs with
  | nil => exact iff_of_false nofun not_firstFault_nil
  | cons x xs ih =>
    have hok : f x = .ok () ↔ ∀ e', ¬fault x e' :=
      eq_ok_iff_forall_ne_error.trans (forall_congr' fun e' => not_congr (h x e'))
    have hstep : (x :: xs).forM f = .error e ↔
        f x = .error e ∨ f x = .ok () ∧ xs.forM f = .error e := bind_eq_error_iff
    rw [hstep, firstFault_cons_iff, ih, hok, h x e]

end Warrant
