import Warrant.Proofs.Evaluation
import Warrant.Proofs.Numbering
import Warrant.Proofs.Readable

namespace Warrant

namespace Unary

/-- What a unary operation makes of a term. A string is as long as it has bytes, and none has more
    than an integer can count. -/
inductive Gives (symbols : SymbolTable) : Unary → Term → Term → Prop
  | negate (b : Bool) : Gives symbols negate (.bool b) (.bool !b)
  | parens (t : Term) : Gives symbols parens t t
  | text {s : UInt64} {text : String} (hs : symbols.resolve? s = some text) :
      Gives symbols length (.str s) (.integer (.ofNat text.utf8ByteSize))
  | bytes (b : List UInt8) : Gives symbols length (.bytes b) (.integer (.ofNat b.length))
  | set (elements : List Term) :
      Gives symbols length (.set elements) (.integer (.ofNat elements.length))

/-- Whether a unary operation is one on terms of a kind. -/
def Takes (k : Kind) : Unary → Prop
  | negate => k = .bool
  | parens => True
  | length => k = .str ∨ k = .bytes ∨ k = .set

variable {symbols : SymbolTable} {which : Unary} {operand t : Term}

theorem evaluate_eq_some_iff :
    which.evaluate symbols operand = some t ↔ which.Gives symbols operand t := by
  constructor
  · intro h
    cases which with
    | negate =>
      cases operand <;> cases h
      exact .negate _
    | parens =>
      cases h
      exact .parens _
    | length =>
      cases operand with
      | str s =>
        obtain ⟨text, hs, rfl⟩ := Option.map_eq_some_iff.1 h
        exact .text hs
      | bytes b =>
        cases h
        exact .bytes b
      | set elements =>
        cases h
        exact .set elements
      | _ => cases h
  · intro h
    cases h with
    | text hs => exact Option.map_eq_some_iff.2 ⟨_, hs, rfl⟩
    | _ => rfl

theorem Gives.takes (h : which.Gives symbols operand t) : which.Takes operand.kind := by
  cases h with
  | negate => rfl
  | parens => trivial
  | text => exact .inl rfl
  | bytes => exact .inr (.inl rfl)
  | set => exact .inr (.inr rfl)

end Unary

theorem compare_int64 (i j : Int64) : compare i j = compare i.toInt j.toInt := by
  simp only [compare, compareOfLessAndEq, Int64.lt_iff_toInt_lt, Int64.toInt_inj]

theorem compare_uint64 (d e : UInt64) : compare d e = compare (d.toNat : Int) e.toNat := by
  simp only [compare, compareOfLessAndEq, UInt64.lt_iff_toNat_lt, UInt64.toNat_inj, Int.ofNat_lt,
    Int.ofNat_inj]

/-- An integer is the result of an operation where 64 bits hold it. -/
theorem checkedInteger_eq_some_iff {n : Int} {t : Term} :
    checkedInteger n = some t ↔ ∃ i : Int64, i.toInt = n ∧ t = .integer i := by
  rw [checkedInteger]
  constructor
  · intro h
    split at h
    case isTrue hfits =>
      cases h
      rw [Int64.toInt_minValue, Int64.toInt_maxValue] at hfits
      exact ⟨_, Int64.toInt_ofInt_of_le hfits.1 (by omega), rfl⟩
    case isFalse => cases h
  · rintro ⟨i, rfl, rfl⟩
    rw [if_pos ⟨i.minValue_le_toInt, i.toInt_le⟩, Int64.ofInt_toInt]

theorem checkedSet_eq_some_iff {elements : List Term} {t : Term} :
    checkedSet elements = some t ↔
      (TermOf.ofElements elements).MayBeRead ∧ t = .ofElements elements := by
  rw [← TermOf.validate_eq_ok_iff, checkedSet, TermOf.setOf]
  cases (TermOf.ofElements elements).validate with
  | ok =>
    change some _ = some t ↔ _
    simp [eq_comm]
  | error => exact iff_of_false nofun nofun

/-- The quotient of two integers fits in 64 bits but for one case. -/
theorem tdiv_fits_iff {i j : Int64} (hj : j ≠ 0) :
    (∃ n : Int64, n.toInt = i.toInt.tdiv j.toInt) ↔ ¬(i = Int64.minValue ∧ j = -1) := by
  have hj : j.toInt ≠ 0 := fun h => hj (Int64.toInt_inj.1 h)
  have hlow := i.le_toInt
  have hhigh := i.toInt_lt
  constructor
  · rintro ⟨n, hn⟩ ⟨rfl, rfl⟩
    have hquotient : Int64.minValue.toInt.tdiv (-1 : Int64).toInt = 2 ^ 63 := by decide
    have hlt := n.toInt_lt
    omega
  · intro hnot
    suffices hfits : -2 ^ 63 ≤ i.toInt.tdiv j.toInt ∧ i.toInt.tdiv j.toInt < 2 ^ 63 from
      ⟨_, Int64.toInt_ofInt_of_le hfits.1 hfits.2⟩
    by_cases hunit : j.toInt.natAbs = 1
    · rcases Int.natAbs_eq j.toInt with hsign | hsign <;> rw [hunit] at hsign
      · rw [hsign, Int.natCast_one, Int.tdiv_one]
        exact ⟨hlow, hhigh⟩
      · have hi : i.toInt ≠ -2 ^ 63 := fun hi =>
          hnot ⟨Int64.toInt_inj.1 (hi.trans Int64.toInt_minValue.symm), Int64.toInt_inj.1 hsign⟩
        rw [hsign, Int.natCast_one, Int.tdiv_neg, Int.tdiv_one]
        omega
    · -- any other divisor halves the distance from zero at least
      have habs := Int.natAbs_tdiv i.toInt j.toInt
      have hhalf : i.toInt.natAbs / j.toInt.natAbs ≤ i.toInt.natAbs / 2 :=
        Nat.div_le_div_left (by omega) (by decide)
      change _ = i.toInt.natAbs / j.toInt.natAbs at habs
      omega

namespace Binary

/-- The comparisons of numbers, with what they test. -/
inductive Orders : Binary → (Int → Int → Prop) → Prop
  | lessThan : Orders lessThan (· < ·)
  | greaterThan : Orders greaterThan (· > ·)
  | lessOrEqual : Orders lessOrEqual (· ≤ ·)
  | greaterOrEqual : Orders greaterOrEqual (· ≥ ·)

/-- The operations on integers that have a result for any two, with the result. -/
inductive Computes : Binary → (Int → Int → Int) → Prop
  | add : Computes add (· + ·)
  | sub : Computes sub (· - ·)
  | mul : Computes mul (· * ·)

inductive Connects : Binary → (Bool → Bool → Bool) → Prop
  | and : Connects and (· && ·)
  | or : Connects or (· || ·)

/-- The operations that make a set of two, with the condition under which a term is in it. -/
inductive Combines : Binary → (Prop → Prop → Prop) → Prop
  | intersection : Combines intersection And
  | union : Combines union Or

/-- What a binary operation makes of two terms. Integers are exact, sets are increasing and may be
    read, and any other two terms have no value. -/
inductive Gives (symbols : SymbolTable) : Binary → Term → Term → Term → Prop
  | integers {which : Binary} {test : Int → Int → Prop} (hwhich : which.Orders test) (i j : Int64)
      {b : Bool} (hb : b = true ↔ test i.toInt j.toInt) :
      Gives symbols which (.integer i) (.integer j) (.bool b)
  | dates {which : Binary} {test : Int → Int → Prop} (hwhich : which.Orders test) (d e : UInt64)
      {b : Bool} (hb : b = true ↔ test d.toNat e.toNat) :
      Gives symbols which (.date d) (.date e) (.bool b)
  | calculate {which : Binary} {result : Int → Int → Int} (hwhich : which.Computes result)
      {i j n : Int64} (hn : n.toInt = result i.toInt j.toInt) :
      Gives symbols which (.integer i) (.integer j) (.integer n)
  | divide {i j n : Int64} (hj : j ≠ 0) (hn : n.toInt = i.toInt.tdiv j.toInt) :
      Gives symbols div (.integer i) (.integer j) (.integer n)
  | startsWith {s p : UInt64} {text start : String} (hs : symbols.resolve? s = some text)
      (hp : symbols.resolve? p = some start) {b : Bool}
      (hb : b = true ↔ start.toList <+: text.toList) :
      Gives symbols startsWith (.str s) (.str p) (.bool b)
  | endsWith {s p : UInt64} {text tail : String} (hs : symbols.resolve? s = some text)
      (hp : symbols.resolve? p = some tail) {b : Bool}
      (hb : b = true ↔ tail.toList <:+ text.toList) :
      Gives symbols endsWith (.str s) (.str p) (.bool b)
  | matchesPattern {s p : UInt64} {text : String} {pattern : Pattern}
      (hs : symbols.resolve? s = some text) (hp : symbols.pattern? p = some pattern) :
      Gives symbols matchesPattern (.str s) (.str p) (.bool (pattern.isMatch text))
  | equal {left right : Term} (hkind : left.kind = right.kind) (hvar : left.kind ≠ .var) {b : Bool}
      (hb : b = true ↔ left = right) : Gives symbols equal left right (.bool b)
  | containsAll (elements others : List Term) {b : Bool}
      (hb : b = true ↔ ∀ t ∈ others, t ∈ elements) :
      Gives symbols contains (.set elements) (.set others) (.bool b)
  | contains (elements : List Term) {t : Term} (hvar : t.kind ≠ .var) (hset : t.kind ≠ .set)
      {b : Bool} (hb : b = true ↔ t ∈ elements) :
      Gives symbols contains (.set elements) t (.bool b)
  | connect {which : Binary} {connective : Bool → Bool → Bool} (hwhich : which.Connects connective)
      (a b : Bool) : Gives symbols which (.bool a) (.bool b) (.bool (connective a b))
  | combine {which : Binary} {condition : Prop → Prop → Prop} (hwhich : which.Combines condition)
      (elements others : List Term) {result : List Term}
      (hmem : ∀ t, t ∈ result ↔ condition (t ∈ elements) (t ∈ others))
      (hincreasing : result.Pairwise fun t u => compare t u = .lt)
      (hvalid : (TermOf.set result : Term).MayBeRead) :
      Gives symbols which (.set elements) (.set others) (.set result)

/-- Whether a binary operation is one on terms of two kinds. -/
def Takes (k l : Kind) : Binary → Prop
  | lessThan | greaterThan | lessOrEqual | greaterOrEqual => k = l ∧ (k = .integer ∨ k = .date)
  | equal => k = l ∧ k ≠ .var
  | contains => k = .set ∧ l ≠ .var
  | startsWith | endsWith | matchesPattern => k = .str ∧ l = .str
  | add | sub | mul | div => k = .integer ∧ l = .integer
  | and | or => k = .bool ∧ l = .bool
  | intersection | union => k = .set ∧ l = .set

variable {symbols : SymbolTable} {which : Binary} {left right t : Term}

/-- A comparison looks at how its operands are ordered. -/
theorem Orders.exists_test {test : Int → Int → Prop} (h : which.Orders test)
    (symbols : SymbolTable) :
    ∃ looks : Ordering → Bool,
      (∀ left right, which.value symbols left right = compareOrdered looks left right) ∧
        ∀ x y : Int, looks (compare x y) = true ↔ test x y := by
  cases h
  case lessThan => exact ⟨(· == .lt), fun _ _ => rfl, fun x y => by simp [Int.compare_eq_lt]⟩
  case greaterThan => exact ⟨(· == .gt), fun _ _ => rfl, fun x y => by simp [Int.compare_eq_gt]⟩
  case lessOrEqual => exact ⟨(· != .gt), fun _ _ => rfl, fun x y => by simp [Int.compare_eq_gt]⟩
  case greaterOrEqual => exact ⟨(· != .lt), fun _ _ => rfl, fun x y => by simp [Int.compare_eq_lt]⟩

theorem Orders.gives {test : Int → Int → Prop} (h : which.Orders test)
    (hvalue : which.value symbols left right = some t) : which.Gives symbols left right t := by
  obtain ⟨looks, hlooks, htest⟩ := h.exists_test symbols
  rw [hlooks, compareOrdered.eq_def] at hvalue
  split at hvalue
  case h_1 i j =>
    cases hvalue
    exact .integers h i j (by rw [compare_int64, htest])
  case h_2 d e =>
    cases hvalue
    exact .dates h d e (by rw [compare_uint64, htest])
  case h_3 => cases hvalue

theorem Computes.value_eq {result : Int → Int → Int} (h : which.Computes result)
    (left right : Term) : which.value symbols left right =
      calculate (fun i j => some (result i j)) left right := by
  cases h <;> rfl

theorem calculate_eq_some_iff (result : Int → Int → Option Int) :
    calculate result left right = some t ↔ ∃ i j n : Int64, left = .integer i ∧
      right = .integer j ∧ result i.toInt j.toInt = some n.toInt ∧ t = .integer n := by
  constructor
  · intro h
    rw [calculate.eq_def] at h
    split at h
    case h_1 i j =>
      obtain ⟨n, hresult, hn⟩ := Option.bind_eq_some_iff.1 h
      obtain ⟨n, rfl, rfl⟩ := checkedInteger_eq_some_iff.1 hn
      exact ⟨i, j, n, rfl, rfl, hresult, rfl⟩
    case h_2 => cases h
  · rintro ⟨i, j, n, rfl, rfl, hresult, rfl⟩
    exact Option.bind_eq_some_iff.2
      ⟨_, hresult, checkedInteger_eq_some_iff.2 ⟨n, rfl, rfl⟩⟩

theorem Computes.gives {result : Int → Int → Int} (h : which.Computes result)
    (hvalue : which.value symbols left right = some t) : which.Gives symbols left right t := by
  rw [h.value_eq, calculate_eq_some_iff] at hvalue
  obtain ⟨i, j, n, rfl, rfl, hn, rfl⟩ := hvalue
  exact .calculate h (Option.some.inj hn).symm

theorem value_div_eq_some_iff :
    div.value symbols left right = some t ↔ ∃ i j n : Int64, left = .integer i ∧
      right = .integer j ∧ (j ≠ 0 ∧ n.toInt = i.toInt.tdiv j.toInt) ∧ t = .integer n := by
  have hquotient (i j n : Int64) :
      (if j.toInt = 0 then none else some (i.toInt.tdiv j.toInt)) = some n.toInt ↔
        j ≠ 0 ∧ n.toInt = i.toInt.tdiv j.toInt := by
    have hzero : j.toInt = 0 ↔ j = 0 := by rw [← Int64.toInt_zero, Int64.toInt_inj]
    simp [hzero, eq_comm]
  simp only [← hquotient]
  exact calculate_eq_some_iff fun i j => if j = 0 then none else some (i.tdiv j)

theorem compareTexts_eq_some_iff {test : String → String → Bool} :
    compareTexts symbols test left right = some t ↔ ∃ s p text other, left = .str s ∧
      right = .str p ∧ symbols.resolve? s = some text ∧ symbols.resolve? p = some other ∧
        t = .bool (test text other) := by
  constructor
  · intro h
    rw [compareTexts.eq_def] at h
    split at h
    case h_1 s p =>
      obtain ⟨text, hs, h⟩ := Option.bind_eq_some_iff.1 h
      obtain ⟨other, hp, h⟩ := Option.bind_eq_some_iff.1 h
      cases h
      exact ⟨s, p, text, other, rfl, rfl, hs, hp, rfl⟩
    case h_2 => cases h
  · rintro ⟨s, p, text, other, rfl, rfl, hs, hp, rfl⟩
    simp [compareTexts, hs, hp]

theorem Combines.exists_combined {condition : Prop → Prop → Prop} (h : which.Combines condition)
    (symbols : SymbolTable) (elements others : List Term) : ∃ combined : List Term,
      which.value symbols (.set elements) (.set others) = checkedSet combined ∧
        ∀ t, t ∈ combined ↔ condition (t ∈ elements) (t ∈ others) := by
  cases h
  case intersection => exact ⟨elements.filter (· ∈ others), rfl, by simp⟩
  case union => exact ⟨elements ++ others, rfl, by simp⟩

theorem Combines.gives {condition : Prop → Prop → Prop} (h : which.Combines condition)
    (hvalue : which.value symbols left right = some t) : which.Gives symbols left right t := by
  obtain ⟨elements, others, rfl, rfl⟩ : ∃ elements others, left = .set elements ∧
      right = .set others := by
    cases h <;> cases left <;> cases right <;>
      first | exact ⟨_, _, rfl, rfl⟩ | cases hvalue
  obtain ⟨combined, hcombined, hmem⟩ := h.exists_combined symbols elements others
  rw [hcombined] at hvalue
  obtain ⟨hvalid, rfl⟩ := checkedSet_eq_some_iff.1 hvalue
  exact .combine h elements others (fun t => SortedList.mem_ofList.trans (hmem t))
    (SortedList.pairwise_ofList combined) hvalid

theorem Connects.gives {connective : Bool → Bool → Bool} (h : which.Connects connective)
    (hvalue : which.value symbols left right = some t) : which.Gives symbols left right t := by
  obtain ⟨a, b, rfl, rfl⟩ : ∃ a b, left = .bool a ∧ right = .bool b := by
    cases h <;> cases left <;> cases right <;>
      first | exact ⟨_, _, rfl, rfl⟩ | cases hvalue
  obtain rfl : TermOf.bool (connective a b) = t := by
    cases h <;> exact Option.some.inj hvalue
  exact .connect h a b

theorem gives_of_equalTerms (h : equalTerms left right = some t) :
    equal.Gives symbols left right t := by
  rw [equalTerms] at h
  split at h
  case isTrue hkind =>
    cases h
    exact .equal hkind.1 hkind.2 decide_eq_true_iff
  case isFalse => cases h

theorem gives_of_containsTerm (h : containsTerm left right = some t) :
    Gives symbols contains left right t := by
  cases left with
  | set elements =>
    cases right with
    | var => cases h
    | set others =>
      cases h
      exact .containsAll elements others (by simp)
    | _ =>
      cases h
      exact .contains elements (by rintro ⟨⟩) (by rintro ⟨⟩) decide_eq_true_iff
  | _ => cases h

/-- What a binary operation makes of two terms is what it is said to make of them. -/
theorem value_eq_some_iff :
    which.value symbols left right = some t ↔ which.Gives symbols left right t := by
  constructor
  · intro h
    cases which with
    | lessThan => exact Orders.lessThan.gives h
    | greaterThan => exact Orders.greaterThan.gives h
    | lessOrEqual => exact Orders.lessOrEqual.gives h
    | greaterOrEqual => exact Orders.greaterOrEqual.gives h
    | equal => exact gives_of_equalTerms h
    | contains => exact gives_of_containsTerm h
    | startsWith =>
      obtain ⟨s, p, text, start, rfl, rfl, hs, hp, rfl⟩ := compareTexts_eq_some_iff.1 h
      exact .startsWith hs hp List.isPrefixOf_iff_prefix
    | endsWith =>
      obtain ⟨s, p, text, tail, rfl, rfl, hs, hp, rfl⟩ := compareTexts_eq_some_iff.1 h
      exact .endsWith hs hp List.isSuffixOf_iff_suffix
    | matchesPattern =>
      cases left with
      | str s =>
        cases right with
        | str p =>
          obtain ⟨text, hs, h⟩ := Option.bind_eq_some_iff.1 h
          obtain ⟨pattern, hp, h⟩ := Option.bind_eq_some_iff.1 h
          cases h
          exact .matchesPattern hs hp
        | _ => cases h
      | _ => cases h
    | add => exact Computes.add.gives h
    | sub => exact Computes.sub.gives h
    | mul => exact Computes.mul.gives h
    | div =>
      obtain ⟨i, j, n, rfl, rfl, ⟨hj, hn⟩, rfl⟩ := value_div_eq_some_iff.1 h
      exact .divide hj hn
    | and => exact Connects.and.gives h
    | or => exact Connects.or.gives h
    | intersection => exact Combines.intersection.gives h
    | union => exact Combines.union.gives h
  · intro h
    cases h with
    | integers hwhich i j hb =>
      obtain ⟨looks, hlooks, htest⟩ := hwhich.exists_test symbols
      rw [hlooks, compareOrdered, compare_int64, Bool.eq_iff_iff.2 ((htest _ _).trans hb.symm)]
    | dates hwhich d e hb =>
      obtain ⟨looks, hlooks, htest⟩ := hwhich.exists_test symbols
      rw [hlooks, compareOrdered, compare_uint64, Bool.eq_iff_iff.2 ((htest _ _).trans hb.symm)]
    | calculate hwhich hn =>
      rw [hwhich.value_eq, calculate_eq_some_iff]
      exact ⟨_, _, _, rfl, rfl, congrArg some hn.symm, rfl⟩
    | divide hj hn =>
      exact value_div_eq_some_iff.2 ⟨_, _, _, rfl, rfl, ⟨hj, hn⟩, rfl⟩
    | startsWith hs hp hb =>
      refine compareTexts_eq_some_iff.2 ⟨_, _, _, _, rfl, rfl, hs, hp, congrArg _ ?_⟩
      exact Bool.eq_iff_iff.2 (hb.trans List.isPrefixOf_iff_prefix.symm)
    | endsWith hs hp hb =>
      refine compareTexts_eq_some_iff.2 ⟨_, _, _, _, rfl, rfl, hs, hp, congrArg _ ?_⟩
      exact Bool.eq_iff_iff.2 (hb.trans List.isSuffixOf_iff_suffix.symm)
    | matchesPattern hs hp => simp [Binary.value, hs, hp]
    | equal hkind hvar hb =>
      have hvalue : decide (left = right) = _ :=
        Bool.eq_iff_iff.2 (decide_eq_true_iff.trans hb.symm)
      change equalTerms left right = _
      rw [equalTerms, if_pos ⟨hkind, hvar⟩, hvalue]
    | containsAll elements others hb =>
      refine congrArg (fun b => some (TermOf.bool b)) (Bool.eq_iff_iff.2 ?_)
      simpa using hb.symm
    | contains elements hvar hset hb =>
      have hvalue : containsTerm (.set elements) right =
          some (.bool (decide (right ∈ elements))) := by
        cases right with
        | var => exact absurd rfl hvar
        | set => exact absurd rfl hset
        | _ => rfl
      refine hvalue.trans (congrArg (fun b => some (TermOf.bool b)) (Bool.eq_iff_iff.2 ?_))
      exact decide_eq_true_iff.trans hb.symm
    | connect hwhich a b => cases hwhich <;> rfl
    | combine hwhich elements others hmem hincreasing hvalid =>
      obtain ⟨combined, hcombined, hcombinedMem⟩ :=
        hwhich.exists_combined symbols elements others
      have hresult : TermOf.ofElements combined = TermOf.set _ :=
        (TermOf.ofElements_congr fun t => (hcombinedMem t).trans (hmem t).symm).trans
          (congrArg TermOf.set (SortedList.ofList_of_pairwise hincreasing))
      rw [hcombined]
      exact checkedSet_eq_some_iff.2 ⟨hresult ▸ hvalid, hresult.symm⟩

/-- Terms of other kinds have no value. -/
theorem Gives.takes (h : which.Gives symbols left right t) :
    which.Takes left.kind right.kind := by
  cases h with
  | integers hwhich => cases hwhich <;> exact ⟨rfl, .inl rfl⟩
  | dates hwhich => cases hwhich <;> exact ⟨rfl, .inr rfl⟩
  | calculate hwhich => cases hwhich <;> exact ⟨rfl, rfl⟩
  | divide => exact ⟨rfl, rfl⟩
  | startsWith | endsWith | matchesPattern => exact ⟨rfl, rfl⟩
  | equal hkind hvar => exact ⟨hkind, hvar⟩
  | containsAll => exact ⟨rfl, by rintro ⟨⟩⟩
  | contains elements hvar => exact ⟨rfl, hvar⟩
  | connect hwhich => cases hwhich <;> exact ⟨rfl, rfl⟩
  | combine hwhich => cases hwhich <;> exact ⟨rfl, rfl⟩

/-- A sum, a difference or a product has a value exactly where 64 bits hold it. -/
theorem Computes.exists_gives_iff {result : Int → Int → Int} (h : which.Computes result)
    {i j : Int64} : (∃ t, which.Gives symbols (.integer i) (.integer j) t) ↔
      Int64.minValue.toInt ≤ result i.toInt j.toInt ∧
        result i.toInt j.toInt ≤ Int64.maxValue.toInt := by
  simp only [← value_eq_some_iff, h.value_eq, ← Option.isSome_iff_exists]
  change (checkedInteger (result i.toInt j.toInt)).isSome ↔ _
  rw [checkedInteger]
  split <;> simp_all

/-- A quotient has a value but for a divisor of zero and where 64 bits do not hold it. -/
theorem exists_div_gives_iff {i j : Int64} :
    (∃ t, div.Gives symbols (.integer i) (.integer j) t) ↔
      ¬(j = 0 ∨ i = Int64.minValue ∧ j = -1) := by
  simp only [← value_eq_some_iff, value_div_eq_some_iff]
  constructor
  · rintro ⟨_, i, j, n, ⟨⟩, ⟨⟩, ⟨hj, hn⟩, rfl⟩
    exact not_or.2 ⟨hj, (tdiv_fits_iff hj).1 ⟨n, hn⟩⟩
  · intro h
    obtain ⟨hj, hfits⟩ := not_or.1 h
    obtain ⟨n, hn⟩ := (tdiv_fits_iff hj).2 hfits
    exact ⟨_, i, j, n, rfl, rfl, ⟨hj, hn⟩, rfl⟩

/-- Two sets can be combined exactly where the elements of the result may form a set. -/
theorem Combines.exists_gives_iff {condition : Prop → Prop → Prop}
    (h : which.Combines condition) {elements others : List Term} :
    (∃ t, which.Gives symbols (.set elements) (.set others) t) ↔
      (∀ t, condition (t ∈ elements) (t ∈ others) → t.kind ≠ .var ∧ t.kind ≠ .set) ∧
        ∀ t u, condition (t ∈ elements) (t ∈ others) →
          condition (u ∈ elements) (u ∈ others) → t.kind = u.kind := by
  obtain ⟨combined, hcombined, hmem⟩ := h.exists_combined symbols elements others
  have hvalid : (TermOf.ofElements combined).MayBeRead ↔ _ :=
    ⟨fun hread => hread _ rfl, by rintro hread _ ⟨⟩; exact hread⟩
  simp only [← value_eq_some_iff, hcombined, checkedSet_eq_some_iff, exists_and_left, exists_eq,
    and_true, hvalid, SortedList.mem_ofList, hmem]
  exact and_congr_right fun _ =>
    ⟨fun hkind t u ht hu => hkind t ht u hu, fun hkind t ht u hu => hkind t u ht hu⟩

end Binary

end Warrant
