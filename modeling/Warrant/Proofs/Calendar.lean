import Mathlib.Tactic.IntervalCases
import Warrant.Text.Calendar

namespace Warrant.Text.Calendar

/-- A day of an era in centuries, cycles of four years, years and days, where the last day of a
    century counts to its last year, and so does that of a cycle. -/
structure InEra (day century cycle year rest : Nat) : Prop where
  century_le : century ≤ 3
  cycle_le : cycle ≤ 24
  year_le : year ≤ 3
  rest_le : rest ≤ 364 ∨ year = 3 ∧ rest = 365 ∧ (cycle < 24 ∨ century = 3)
  eq : day = 36524 * century + 1461 * cycle + 365 * year + rest

theorem exists_inEra {day : Nat} (h : day < 146097) :
    ∃ century cycle year rest, InEra day century cycle year rest := by
  obtain ⟨century, inCentury, hcentury, hlast, hday⟩ : ∃ century inCentury, century ≤ 3 ∧
      (inCentury < 36524 ∨ century = 3 ∧ inCentury = 36524) ∧
      day = 36524 * century + inCentury := by
    by_cases hend : day = 146096
    · exact ⟨3, 36524, by omega, by omega, by omega⟩
    · exact ⟨day / 36524, day % 36524, by omega, by omega, by omega⟩
  obtain ⟨year, rest, hyear, hrest, hcycle⟩ : ∃ year rest, year ≤ 3 ∧
      (rest ≤ 364 ∨ year = 3 ∧ rest = 365) ∧ inCentury % 1461 = 365 * year + rest := by
    by_cases hend : inCentury % 1461 = 1460
    · exact ⟨3, 365, by omega, by omega, by omega⟩
    · exact ⟨inCentury % 1461 / 365, inCentury % 1461 % 365, by omega, by omega, by omega⟩
  exact ⟨century, inCentury / 1461, year, rest, hcentury, by omega, hyear, by omega, by omega⟩

namespace InEra

variable {day century cycle year rest : Nat} (h : InEra day century cycle year rest)
include h

/-- The years of an era that are over, from the days that are over. -/
theorem yearOfEra_eq :
    (day - day / 1460 + day / 36524 - day / 146096) / 365 = 100 * century + 4 * cycle + year := by
  obtain ⟨hcentury, hcycle, hyear, hrest, hday⟩ := h
  by_cases hend : day = 146096
  · subst hend
    omega
  have hcenturies : day / 36524 = century := by omega
  have heras : day / 146096 = 0 := by omega
  have hcycles : day / 1460 =
      25 * century + cycle + (24 * century + cycle + 365 * year + rest) / 1460 := by omega
  rw [hcenturies, heras, hcycles]
  -- the days by which four years exceed 1460 add up to less than two cycles
  have hexcess : (24 * century + cycle + 365 * year + rest) / 1460 = 0 ∨
      (24 * century + cycle + 365 * year + rest) / 1460 = 1 := by omega
  rcases hexcess with hzero | hone <;> omega

theorem dayOfYear_eq :
    day - (365 * (100 * century + 4 * cycle + year) + (100 * century + 4 * cycle + year) / 4 -
      (100 * century + 4 * cycle + year) / 100) = rest := by
  obtain ⟨hcentury, hcycle, hyear, hrest, hday⟩ := h
  have hcycles : (100 * century + 4 * cycle + year) / 4 = 25 * century + cycle := by omega
  have hcenturies : (100 * century + 4 * cycle + year) / 100 = century := by omega
  rw [hcycles, hcenturies]
  omega

/-- The year that ends with a leap day is one. -/
theorem isLeap_of_rest (era : Nat) (hrest : rest = 365) :
    isLeap (100 * century + 4 * cycle + year + era * 400 + 1) = true := by
  obtain ⟨hcentury, hcycle, hyear, hlast, hday⟩ := h
  rw [isLeap, decide_eq_true_eq]
  omega

end InEra

/-- The year, month and day that lie some days after 1 March of a year. -/
def fromMarch (year days : Nat) : Nat × Nat × Nat :=
  let monthFromMarch := (5 * days + 2) / 153
  let month := if monthFromMarch < 10 then monthFromMarch + 3 else monthFromMarch - 9
  (year + (if month ≤ 2 then 1 else 0), month, days - (153 * monthFromMarch + 2) / 5 + 1)

/-- Within a year that begins in March, the months are as long as they are in the calendar. -/
theorem fromMarch_spec {year days : Nat}
    (hdays : days ≤ 364 ∨ days = 365 ∧ isLeap (year + 1) = true) :
    1 ≤ (fromMarch year days).2.1 ∧ (fromMarch year days).2.1 ≤ 12 ∧
      1 ≤ (fromMarch year days).2.2 ∧
      (fromMarch year days).2.2 ≤ daysInMonth (fromMarch year days).1 (fromMarch year days).2.1 ∧
      dayNumber (fromMarch year days).1 (fromMarch year days).2.1 (fromMarch year days).2.2 =
        year * 365 + year / 4 - year / 100 + year / 400 + days := by
  have hle : (5 * days + 2) / 153 ≤ 11 := by omega
  -- only the last month of such a year needs to know whether the year has a leap day
  have hfebruary : days - 337 + 1 ≤ if isLeap (year + 1) = true then 29 else 28 := by
    rcases hdays with hdays | ⟨hdays, hleap⟩
    · split <;> omega
    · rw [if_pos hleap]
      omega
  rw [fromMarch]
  generalize hmonth : (5 * days + 2) / 153 = month at hle ⊢
  interval_cases month
  all_goals
    simp only [Nat.reduceLT, Nat.reduceAdd, Nat.reduceSub, Nat.reduceLeDiff, ↓reduceIte]
    rw [dayNumber]
    simp only [Nat.reduceLeDiff, ↓reduceIte, daysInMonth]
    refine ⟨trivial, trivial, trivial, ?_, ?_⟩ <;> omega

/-- The days after the start of 1970 are numbered by dates that there are. -/
theorem civil_spec (days : Nat) :
    1 ≤ (civil days).2.1 ∧ (civil days).2.1 ≤ 12 ∧ 1 ≤ (civil days).2.2 ∧
      (civil days).2.2 ≤ daysInMonth (civil days).1 (civil days).2.1 ∧
      dayNumber (civil days).1 (civil days).2.1 (civil days).2.2 = days + 719468 := by
  obtain ⟨century, cycle, year, rest, h⟩ :=
    exists_inEra (Nat.mod_lt (days + 719468) (by decide : 0 < 146097))
  have hcivil : civil days = fromMarch
      (100 * century + 4 * cycle + year + (days + 719468) / 146097 * 400) rest := by
    rw [civil, fromMarch]
    simp only [h.yearOfEra_eq, h.dayOfYear_eq]
  have hrest : rest ≤ 364 ∨ rest = 365 ∧ isLeap
      (100 * century + 4 * cycle + year + (days + 719468) / 146097 * 400 + 1) = true := by
    rcases h.rest_le with hle | ⟨_, hrest, _⟩
    · exact .inl hle
    · exact .inr ⟨hrest, h.isLeap_of_rest _ hrest⟩
  obtain ⟨hmonth, hmonth', hday, hday', hnumber⟩ := fromMarch_spec hrest
  rw [hcivil, hnumber]
  refine ⟨hmonth, hmonth', hday, hday', ?_⟩
  obtain ⟨hcentury, hcycle, hyear, _, heq⟩ := h
  omega

/-- Up to the last second there is, years have no more than four digits. -/
theorem civil_lt {days : Nat} (h : days ≤ 2932896) : (civil days).1 < 10000 := by
  obtain ⟨hmonth, hmonth', hday, _, hnumber⟩ := civil_spec days
  generalize (civil days).1 = year at *
  generalize (civil days).2.1 = month at *
  generalize (civil days).2.2 = day at *
  by_contra hyear
  have hlast (y : Int) (hy : 9999 ≤ y) : 3652059 ≤ y * 365 + y / 4 - y / 100 + y / 400 := by
    have hfours : 2499 ≤ y / 4 := by omega
    have hcenturies : y / 100 ≤ 99 + (y - 9999) := by omega
    have heras : 24 ≤ y / 400 := by omega
    omega
  rw [dayNumber] at hnumber
  split at hnumber
  · have hless := hlast (year - 1) (by omega)
    omega
  · have hless := hlast year (by omega)
    omega

theorem daysInMonth_le (year month : Nat) : daysInMonth year month ≤ 31 := by
  unfold daysInMonth
  split
  · split <;> decide
  all_goals decide

theorem digitChar_spec : ∀ n < 10, (Nat.digitChar n).isDigit = true ∧
    (Nat.digitChar n).toNat - '0'.toNat = n := by decide

theorem isDigit_of_mem_padded {width n : Nat} {c : Char} (h : c ∈ padded width n) :
    c.isDigit = true := by
  induction width generalizing n with
  | zero => cases h
  | succ width ih =>
    rcases List.mem_append.1 h with h | h
    · exact ih h
    · rw [List.mem_singleton.1 h]
      exact (digitChar_spec _ (Nat.mod_lt n (by decide))).1

@[simp]
theorem length_padded (width n : Nat) : (padded width n).length = width := by
  induction width generalizing n with
  | zero => rfl
  | succ width ih => rw [padded, List.length_append, ih, List.length_singleton]

theorem decimal_padded {width n : Nat} (h : n < 10 ^ width) : decimal (padded width n) = n := by
  induction width generalizing n with
  | zero =>
    rw [pow_zero, Nat.lt_one_iff] at h
    rw [h]
    rfl
  | succ width ih =>
    have hrest : n / 10 < 10 ^ width := by
      rw [pow_succ] at h
      omega
    have hvalue := ih hrest
    rw [decimal] at hvalue ⊢
    rw [padded, List.foldl_append, hvalue, List.foldl_cons, List.foldl_nil,
      (digitChar_spec _ (Nat.mod_lt n (by decide))).2]
    omega

/-- A field that is written with its width is read back. -/
theorem field?_padded {width n : Nat} (hwidth : 0 < width) (h : n < 10 ^ width)
    (rest : List Char) : field? width (padded width n ++ rest) = some (n, rest) := by
  have htake : (padded width n ++ rest).take width = padded width n := by
    rw [List.take_append_of_le_length (by simp), List.take_of_length_le (by simp)]
  have hnumber : natural? (padded width n) = some n := by
    have hsome : padded width n ≠ [] := List.ne_nil_of_length_pos (by simpa using hwidth)
    have hdigits : (padded width n).all Char.isDigit = true :=
      List.all_eq_true.2 fun c hc => isDigit_of_mem_padded hc
    rw [natural?, if_pos ⟨hsome, hdigits⟩, decimal_padded h]
  rw [field?, htake, length_padded, if_pos rfl, hnumber, Option.map_some,
    List.drop_append_of_le_length (by simp), List.drop_of_length_le (by simp), List.nil_append]

theorem mark?_cons (c : Char) (rest : List Char) : mark? c (c :: rest) = some rest := if_pos rfl

/-- The fields of a time that is written. -/
theorem exists_of_format? {time : Nat} {text : List Char}
    (h : format? time = some text) :
    ∃ year month day hour minute second, text =
      padded 4 year ++ '-' :: (padded 2 month ++ '-' ::
        (padded 2 day ++ 'T' :: (padded 2 hour ++ ':' ::
          (padded 2 minute ++ ':' :: (padded 2 second ++ ['Z']))))) := by
  rw [format?] at h
  split at h
  case isTrue => cases h
  case isFalse =>
    generalize civil (time / 86400) = date at h
    obtain ⟨year, month, day⟩ := date
    cases h
    refine ⟨year, month, day, time % 86400 / 3600, time % 86400 / 60 % 60, time % 86400 % 60, ?_⟩
    simp only [List.append_assoc, List.cons_append, List.nil_append]

theorem exists_digit_of_format? {time : Nat} {text : List Char}
    (h : format? time = some text) : ∃ c cs, text = c :: cs ∧ c.isDigit = true := by
  obtain ⟨year, month, day, hour, minute, second, htext⟩ := exists_of_format? h
  cases hyear : padded 4 year with
  | nil =>
    have hlength := congrArg List.length hyear
    simp at hlength
  | cons c cs =>
    rw [hyear] at htext
    exact ⟨c, _, htext, isDigit_of_mem_padded (hyear ▸ List.mem_cons_self : c ∈ _)⟩

/-- A universal time is read from the text that is written of it. -/
theorem parse?_of_format? {time : Nat} {text : List Char} (h : format? time = some text) :
    parse? text = some time := by
  rw [format?] at h
  split at h
  case isTrue => cases h
  case isFalse hlast =>
    have hdays : time / 86400 ≤ 2932896 := by
      rw [lastSecond] at hlast
      omega
    have hyear := civil_lt hdays
    obtain ⟨hmonth, hmonth', hday, hday', hnumber⟩ := civil_spec (time / 86400)
    generalize civil (time / 86400) = date at *
    obtain ⟨year, month, day⟩ := date
    dsimp only at *
    have hlong : daysInMonth year month ≤ 31 := daysInMonth_le year month
    cases h
    simp only [List.append_assoc, List.cons_append, List.nil_append]
    have hfield {n : Nat} (hn : n < 10 ^ 2) (rest : List Char) :
        field? 2 (padded 2 n ++ rest) = some (n, rest) := field?_padded (by decide) hn rest
    have hmonth'' : month < 10 ^ 2 := by omega
    have hday'' : day < 10 ^ 2 := by omega
    have hhour : time % 86400 / 3600 < 10 ^ 2 := by omega
    have hminute : time % 86400 / 60 % 60 < 10 ^ 2 := by omega
    have hsecond : time % 86400 % 60 < 10 ^ 2 := by omega
    refine Option.bind_eq_some_iff.2 ⟨_, field?_padded (by decide) hyear _, ?_⟩
    refine Option.bind_eq_some_iff.2 ⟨_, mark?_cons '-' _, ?_⟩
    refine Option.bind_eq_some_iff.2 ⟨_, hfield hmonth'' _, ?_⟩
    refine Option.bind_eq_some_iff.2 ⟨_, mark?_cons '-' _, ?_⟩
    refine Option.bind_eq_some_iff.2 ⟨_, hfield hday'' _, ?_⟩
    refine Option.bind_eq_some_iff.2 ⟨_, mark?_cons 'T' _, ?_⟩
    refine Option.bind_eq_some_iff.2 ⟨_, hfield hhour _, ?_⟩
    refine Option.bind_eq_some_iff.2 ⟨_, mark?_cons ':' _, ?_⟩
    refine Option.bind_eq_some_iff.2 ⟨_, hfield hminute _, ?_⟩
    refine Option.bind_eq_some_iff.2 ⟨_, mark?_cons ':' _, ?_⟩
    refine Option.bind_eq_some_iff.2 ⟨_, hfield hsecond _, ?_⟩
    refine Option.bind_eq_some_iff.2 ⟨['Z'], rfl, ?_⟩
    refine Option.bind_eq_some_iff.2 ⟨0, rfl, ?_⟩
    have hseconds : seconds year month day (time % 86400 / 3600) (time % 86400 / 60 % 60)
        (min (time % 86400 % 60) 59) = time := by
      rw [seconds, epoch, hnumber]
      omega
    dsimp only
    rw [if_neg (by omega), if_neg (by omega), hseconds, sub_zero, if_neg (by omega),
      Int.toNat_natCast]

end Warrant.Text.Calendar
