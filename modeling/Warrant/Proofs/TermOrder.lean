import Warrant.Term

namespace Warrant

theorem Kind.rank_inj {k l : Kind} : k.rank = l.rank ↔ k = l := by
  constructor
  · cases k <;> cases l <;> simp [rank]
  · exact congrArg rank

namespace TermOf

variable {V S : Type} [Ord V] [Ord S]

/-- Terms of different kinds are compared by kind. -/
theorem compare_of_kind_ne {a b : TermOf V S} (h : a.kind ≠ b.kind) :
    compare a b = Ord.compare a.kind.rank b.kind.rank := by
  cases a <;> cases b <;> first | rfl | exact absurd rfl h

theorem kind_eq_of_compare_eq {a b : TermOf V S} (h : compare a b = .eq) : a.kind = b.kind := by
  by_cases hkind : a.kind = b.kind
  · exact hkind
  · rw [compare_of_kind_ne hkind, Std.LawfulEqOrd.compare_eq_iff_eq, Kind.rank_inj] at h
    exact h

theorem rank_le_of_isLE {a b : TermOf V S} (h : (compare a b).isLE) :
    a.kind.rank ≤ b.kind.rank := by
  by_cases hkind : a.kind = b.kind
  · exact Nat.le_of_eq (congrArg Kind.rank hkind)
  · rw [compare_of_kind_ne hkind, Nat.isLE_compare] at h
    exact h

mutual

theorem compare_eq_iff [Std.LawfulEqOrd V] [Std.LawfulEqOrd S] (a b : TermOf V S) :
    compare a b = .eq ↔ a = b := by
  by_cases hkind : a.kind = b.kind
  case neg =>
    refine iff_of_false (fun h => hkind (kind_eq_of_compare_eq h)) ?_
    rintro rfl
    exact hkind rfl
  case pos =>
    cases a with
    | set elements =>
      cases b <;> cases hkind
      rw [compare, set.injEq]
      exact compareElements_eq_iff elements _
    | _ =>
      cases b <;> cases hkind
      simp [compare]

theorem compareElements_eq_iff [Std.LawfulEqOrd V] [Std.LawfulEqOrd S]
    (as bs : List (TermOf V S)) : compareElements as bs = .eq ↔ as = bs := by
  match as, bs with
  | [], [] => simp [compareElements]
  | [], _ :: _ => simp [compareElements]
  | _ :: _, [] => simp [compareElements]
  | a :: as, b :: bs =>
    rw [compareElements, Ordering.then_eq_eq, compare_eq_iff a b, compareElements_eq_iff as bs,
      List.cons.injEq]

end

mutual

theorem compare_swap [Std.OrientedOrd V] [Std.OrientedOrd S] (a b : TermOf V S) :
    compare a b = (compare b a).swap := by
  by_cases hkind : a.kind = b.kind
  case neg =>
    rw [compare_of_kind_ne hkind, compare_of_kind_ne (Ne.symm hkind)]
    exact Std.OrientedOrd.eq_swap
  case pos =>
    cases a with
    | set elements =>
      cases b <;> cases hkind
      rw [compare, compare]
      exact compareElements_swap elements _
    | _ =>
      cases b <;> cases hkind
      exact Std.OrientedOrd.eq_swap

theorem compareElements_swap [Std.OrientedOrd V] [Std.OrientedOrd S]
    (as bs : List (TermOf V S)) : compareElements as bs = (compareElements bs as).swap := by
  match as, bs with
  | [], [] => rfl
  | [], _ :: _ => rfl
  | _ :: _, [] => rfl
  | a :: as, b :: bs =>
    rw [compareElements, compareElements, compare_swap a b, compareElements_swap as bs,
      Ordering.swap_then]

end

mutual

theorem compare_trans [Std.TransOrd V] [Std.TransOrd S] [Std.LawfulEqOrd V] [Std.LawfulEqOrd S]
    (a b c : TermOf V S) (hab : (compare a b).isLE) (hbc : (compare b c).isLE) :
    (compare a c).isLE := by
  have hle := rank_le_of_isLE hab
  have hle' := rank_le_of_isLE hbc
  by_cases hkind : a.kind = c.kind
  case neg =>
    rw [compare_of_kind_ne hkind, Nat.isLE_compare]
    exact Nat.le_trans hle hle'
  case pos =>
    -- a term between two terms of one kind is of that kind
    have hmiddle : a.kind = b.kind := by
      have hrank := congrArg Kind.rank hkind
      rw [← Kind.rank_inj]
      omega
    cases a with
    | set elements =>
      cases b <;> cases hmiddle
      cases c <;> cases hkind
      rw [compare] at hab hbc ⊢
      exact compareElements_trans elements _ _ hab hbc
    | _ =>
      cases b <;> cases hmiddle
      cases c <;> cases hkind
      exact Std.TransOrd.isLE_trans hab hbc

theorem compareElements_trans [Std.TransOrd V] [Std.TransOrd S] [Std.LawfulEqOrd V]
    [Std.LawfulEqOrd S] (as bs cs : List (TermOf V S)) (hab : (compareElements as bs).isLE)
    (hbc : (compareElements bs cs).isLE) : (compareElements as cs).isLE := by
  match as, bs, cs with
  | [], _, [] => rfl
  | [], _, _ :: _ => rfl
  | _ :: _, [], _ => cases hab
  | _ :: _, _ :: _, [] => cases hbc
  | a :: as, b :: bs, c :: cs =>
    rw [compareElements, Ordering.isLE_then_iff_and] at hab hbc ⊢
    refine ⟨compare_trans a b c hab.1 hbc.1, ?_⟩
    cases hac : compare a c with
    | lt => exact .inl rfl
    | gt =>
      have htrans := compare_trans a b c hab.1 hbc.1
      rw [hac] at htrans
      cases htrans
    | eq =>
      -- where the first and the last are one, so is the one between them
      obtain rfl := (compare_eq_iff a c).1 hac
      have hswap := compare_swap a b
      have hsame : compare a b = .eq := by
        have hle := hab.1
        rw [hswap] at hle
        cases hba : compare b a with
        | lt =>
          rw [hba] at hle
          cases hle
        | eq => rw [hswap, hba]; rfl
        | gt =>
          have hle' := hbc.1
          rw [hba] at hle'
          cases hle'
      have hsame' : compare b a = .eq := by
        rw [(compare_eq_iff a b).1 hsame] at hac ⊢
        exact hac
      rw [hsame] at hab
      rw [hsame'] at hbc
      exact .inr (compareElements_trans as bs cs (hab.2.resolve_left nofun)
        (hbc.2.resolve_left nofun))

end

instance [Std.LawfulEqOrd V] [Std.LawfulEqOrd S] : Std.LawfulEqOrd (TermOf V S) where
  compare_self := (compare_eq_iff _ _).2 rfl
  eq_of_compare h := (compare_eq_iff _ _).1 h

instance [Std.TransOrd V] [Std.TransOrd S] [Std.LawfulEqOrd V] [Std.LawfulEqOrd S] :
    Std.TransOrd (TermOf V S) where
  eq_swap := compare_swap _ _
  isLE_trans hab hbc := compare_trans _ _ _ hab hbc

mutual

/-- Whether the elements of every set in a term are increasing, at any depth. -/
def Ordered : TermOf V S → Prop
  | set elements => elements.Pairwise (fun a b => Ord.compare a b = .lt) ∧ AllOrdered elements
  | _ => True

def AllOrdered : List (TermOf V S) → Prop
  | [] => True
  | t :: ts => Ordered t ∧ AllOrdered ts

end

theorem allOrdered_iff {ts : List (TermOf V S)} : AllOrdered ts ↔ ∀ t ∈ ts, t.Ordered := by
  induction ts with
  | nil => simp [AllOrdered]
  | cons t ts ih => simp [AllOrdered, ih]

/-- A set whose elements are increasing is the set of its elements. -/
theorem ofElements_of_ordered [Std.OrientedOrd (TermOf V S)] {elements : List (TermOf V S)}
    (h : (set elements).Ordered) : ofElements elements = set elements := by
  rw [Ordered] at h
  rw [ofElements, SortedList.ofList_of_pairwise h.1]

/-- Terms whose sets are increasing form a set that is, too. -/
theorem ordered_ofElements [Std.TransOrd (TermOf V S)] [Std.LawfulEqOrd (TermOf V S)]
    {ts : List (TermOf V S)} (h : ∀ t ∈ ts, t.Ordered) : (ofElements ts).Ordered :=
  ⟨SortedList.pairwise_ofList ts, allOrdered_iff.2 fun t ht => h t (SortedList.mem_ofList.1 ht)⟩

end TermOf

end Warrant
