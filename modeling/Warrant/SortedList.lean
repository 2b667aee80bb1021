namespace Warrant.SortedList

/-- Puts `x` at its place in an increasing list, unless an equal element is already there. -/
def insert {α : Type} [Ord α] (x : α) : List α → List α
  | [] => [x]
  | y :: ys =>
    match compare x y with
    | .lt => x :: y :: ys
    | .eq => y :: ys
    | .gt => y :: insert x ys

/-- The distinct elements of a list in increasing order. -/
def ofList {α : Type} [Ord α] (xs : List α) : List α :=
  xs.foldl (fun sorted x => insert x sorted) []

section

variable {α : Type} [Ord α]

@[simp]
theorem mem_insert [Std.LawfulEqOrd α] {x y : α} {xs : List α} :
    y ∈ insert x xs ↔ y = x ∨ y ∈ xs := by
  induction xs with
  | nil => simp [insert]
  | cons first rest ih =>
    cases h : compare x first with
    | lt => simp [insert, h]
    | eq =>
      obtain rfl : x = first := Std.LawfulEqOrd.eq_of_compare h
      simp [insert]
    | gt => simp [insert, h, ih, or_left_comm]

/-- Nothing else gets into a list, even where unequal elements are not told apart. -/
theorem mem_of_mem_insert {x y : α} {xs : List α} (h : y ∈ insert x xs) : y = x ∨ y ∈ xs := by
  induction xs with
  | nil => exact .inl (List.mem_singleton.1 h)
  | cons first rest ih =>
    cases hcompare : compare x first with
    | lt =>
      rw [insert, hcompare] at h
      exact List.mem_cons.1 h
    | eq =>
      rw [insert, hcompare] at h
      exact .inr h
    | gt =>
      rw [insert, hcompare] at h
      rcases List.mem_cons.1 h with rfl | h
      · exact .inr List.mem_cons_self
      · exact (ih h).imp_right (List.mem_cons_of_mem first)

theorem mem_of_mem_ofList {x : α} {xs : List α} (h : x ∈ ofList xs) : x ∈ xs := by
  suffices hfold : ∀ sorted : List α, x ∈ xs.foldl (fun sorted x => insert x sorted) sorted →
      x ∈ xs ∨ x ∈ sorted by
    exact (hfold [] h).resolve_right List.not_mem_nil
  clear h
  induction xs with
  | nil => exact fun _ h => .inr h
  | cons first rest ih =>
    intro sorted h
    rcases ih _ h with h | h
    · exact .inl (List.mem_cons_of_mem first h)
    · rcases mem_of_mem_insert h with rfl | h
      · exact .inl List.mem_cons_self
      · exact .inr h

/-- An insertion leaves a list increasing. -/
theorem pairwise_insert [Std.TransOrd α] [Std.LawfulEqOrd α] {x : α} {xs : List α}
    (hxs : xs.Pairwise fun a b => compare a b = .lt) :
    (insert x xs).Pairwise fun a b => compare a b = .lt := by
  induction xs with
  | nil => simp [insert]
  | cons first rest ih =>
    obtain ⟨hfirst, hrest⟩ := List.pairwise_cons.1 hxs
    cases h : compare x first with
    | lt =>
      simp only [insert, h, List.pairwise_cons]
      refine ⟨?_, hfirst, hrest⟩
      intro y hy
      rcases List.mem_cons.1 hy with rfl | hy
      · exact h
      · exact Std.TransCmp.lt_trans h (hfirst y hy)
    | eq => simpa [insert, h] using hxs
    | gt =>
      simp only [insert, h, List.pairwise_cons]
      refine ⟨?_, ih hrest⟩
      intro y hy
      rcases mem_insert.1 hy with rfl | hy
      · exact Std.OrientedCmp.gt_iff_lt.1 h
      · exact hfirst y hy

theorem mem_foldl_insert [Std.LawfulEqOrd α] {x : α} {xs sorted : List α} :
    x ∈ xs.foldl (fun sorted x => insert x sorted) sorted ↔ x ∈ xs ∨ x ∈ sorted := by
  induction xs generalizing sorted with
  | nil => simp
  | cons first rest ih => simp [ih, or_left_comm, or_assoc]

@[simp]
theorem mem_ofList [Std.LawfulEqOrd α] {x : α} {xs : List α} : x ∈ ofList xs ↔ x ∈ xs := by
  simp [ofList, mem_foldl_insert]

theorem pairwise_ofList [Std.TransOrd α] [Std.LawfulEqOrd α] (xs : List α) :
    (ofList xs).Pairwise fun a b => compare a b = .lt := by
  suffices h : ∀ sorted : List α, sorted.Pairwise (fun a b => compare a b = .lt) →
      (xs.foldl (fun sorted x => insert x sorted) sorted).Pairwise fun a b => compare a b = .lt by
    exact h [] List.Pairwise.nil
  induction xs with
  | nil => exact fun _ hsorted => hsorted
  | cons first rest ih => exact fun sorted hsorted => ih _ (pairwise_insert hsorted)

/-- What comes after all elements of a list goes to its end. -/
theorem insert_of_forall_lt [Std.OrientedOrd α] {x : α} {xs : List α}
    (h : ∀ y ∈ xs, compare y x = .lt) : insert x xs = xs ++ [x] := by
  induction xs with
  | nil => rfl
  | cons first rest ih =>
    obtain ⟨hfirst, hrest⟩ := List.forall_mem_cons.1 h
    have hgt : compare x first = .gt := Std.OrientedCmp.gt_iff_lt.2 hfirst
    rw [insert, hgt, ih hrest]
    rfl

/-- A list that is increasing already stays as it is. -/
theorem ofList_of_pairwise [Std.OrientedOrd α] {xs : List α}
    (h : xs.Pairwise fun a b => compare a b = .lt) : ofList xs = xs := by
  suffices hfold : ∀ sorted : List α,
      (sorted ++ xs).Pairwise (fun a b => compare a b = .lt) →
        xs.foldl (fun sorted x => insert x sorted) sorted = sorted ++ xs by
    exact hfold [] h
  clear h
  induction xs with
  | nil => exact fun sorted _ => (List.append_nil sorted).symm
  | cons first rest ih =>
    intro sorted hsorted
    have hlast : ∀ y ∈ sorted, compare y first = .lt :=
      fun y hy => (List.pairwise_append.1 hsorted).2.2 y hy first List.mem_cons_self
    rw [List.foldl_cons, insert_of_forall_lt hlast, ih (sorted ++ [first]) (by simpa using hsorted)]
    simp

theorem nodup_ofList [Std.TransOrd α] [Std.LawfulEqOrd α] (xs : List α) : (ofList xs).Nodup := by
  refine (pairwise_ofList xs).imp ?_
  rintro a _ hlt rfl
  simp at hlt

end

end Warrant.SortedList
