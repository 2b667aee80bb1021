import Warrant.Grammar.Statement
import Warrant.Proofs.Loops

namespace Warrant.Grammar

/-- What holds of the characters of a list is decided one by one: there are finitely many
    characters, and looking at all of them would never end. -/
instance decidableForallMem (p : Char → Prop) [DecidablePred p] (cs : List Char) :
    Decidable (∀ c ∈ cs, p c) := List.decidableBAll p cs

section

variable {p : Char → Bool} {xs rest : List Char}

/-- A run of characters ends where one follows that does not belong to it. -/
theorem takeWhile_append (hrest : ∀ c ∈ rest.head?, p c = false) (hxs : ∀ x ∈ xs, p x = true) :
    (xs ++ rest).takeWhile p = xs := by
  rw [List.takeWhile_append_of_pos hxs]
  cases rest with
  | nil => simp
  | cons c cs => simp [hrest c rfl]

theorem dropWhile_append (hrest : ∀ c ∈ rest.head?, p c = false) (hxs : ∀ x ∈ xs, p x = true) :
    (xs ++ rest).dropWhile p = rest := by
  rw [List.dropWhile_append_of_pos hxs]
  cases rest with
  | nil => rfl
  | cons c cs => simp [hrest c rfl]

theorem dropWhile_append_left (hrest : ∀ c ∈ rest.head?, p c = false) (xs : List Char) :
    (xs ++ rest).dropWhile p = xs.dropWhile p ++ rest := by
  have hstop : rest.dropWhile p = rest := dropWhile_append hrest (List.forall_mem_nil _)
  rw [List.dropWhile_append]
  split
  case isTrue hempty => rw [hstop, List.isEmpty_iff.1 hempty, List.nil_append]
  case isFalse => rfl

end

/-- The texts of some items with something between them, the first of them apart. -/
theorem intercalate_cons {α : Type} (glue text : List α) (texts : List (List α)) :
    glue.intercalate (text :: texts) = text ++ texts.flatMap (glue ++ ·) := by
  induction texts generalizing text with
  | nil => simp [List.intercalate]
  | cons next texts ih => simp [List.intercalate_cons_cons, ih]

namespace Parser

variable {α β : Type} {p q : Parser α} {text rest : List Char} {value : α}

/-- Whether a parser leaves a text to others. -/
def Mismatches (p : Parser α) (text : List Char) : Prop :=
  ∃ fault rest, p text = .mismatch fault rest

theorem bind_of_ok {next : α → Parser β} (h : p text = .ok value rest) :
    (p >>= next) text = next value rest := by
  dsimp only [Bind.bind]
  rw [h]

theorem bind_congr {next : α → Parser β} {text' : List Char} (h : p text = p text') :
    (p >>= next) text = (p >>= next) text' := by
  dsimp only [Bind.bind]
  rw [h]

theorem Mismatches.bind {next : α → Parser β} (h : p.Mismatches text) :
    (p >>= next).Mismatches text := by
  obtain ⟨fault, rest, h⟩ := h
  refine ⟨fault, rest, ?_⟩
  dsimp only [Bind.bind]
  rw [h]

theorem not_mismatches_of_ok (h : p text = .ok value rest) : ¬p.Mismatches text := by
  rintro ⟨fault, left, hmismatch⟩
  rw [h] at hmismatch
  cases hmismatch

theorem orElse_of_ok (h : p text = .ok value rest) : p.orElse q text = .ok value rest := by
  rw [Parser.orElse, h]

theorem Mismatches.orElse_eq (h : p.Mismatches text) : p.orElse q text = q text := by
  obtain ⟨fault, rest, h⟩ := h
  rw [Parser.orElse, h]

theorem exists_of_bind_eq_ok {next : α → Parser β} {result : β}
    (h : (p >>= next) text = .ok result rest) :
    ∃ value between, p text = .ok value between ∧ next value between = .ok result rest := by
  dsimp only [Bind.bind] at h
  split at h
  case h_1 value between hvalue => exact ⟨value, between, hvalue, h⟩
  case h_2 => cases h
  case h_3 => cases h

theorem map_mismatches_iff (f : α → β) :
    (p >>= fun value => pure (f value)).Mismatches text ↔ p.Mismatches text := by
  refine ⟨?_, .bind⟩
  rintro ⟨fault, left, h⟩
  dsimp only [Bind.bind] at h
  split at h
  case h_1 => cases h
  case h_2 fault left hp => exact ⟨fault, left, hp⟩
  case h_3 => cases h

theorem orElse_of_not_mismatches (h : ¬p.Mismatches text) : p.orElse q text = p text := by
  rw [Parser.orElse]
  split
  case h_1 fault left hp => exact absurd ⟨fault, left, hp⟩ h
  case h_2 => rfl

theorem of_orElse_eq_ok (h : p.orElse q text = .ok value rest) :
    p text = .ok value rest ∨ q text = .ok value rest := by
  by_cases hp : p.Mismatches text
  · exact .inr (hp.orElse_eq.symm.trans h)
  · exact .inl ((orElse_of_not_mismatches hp).symm.trans h)

theorem orElse_mismatches_iff :
    (p.orElse q).Mismatches text ↔ p.Mismatches text ∧ q.Mismatches text := by
  by_cases hp : p.Mismatches text
  · rw [Mismatches, hp.orElse_eq]
    exact ⟨fun hq => ⟨hp, hq⟩, And.right⟩
  · rw [Mismatches, orElse_of_not_mismatches hp]
    exact ⟨fun h => absurd h hp, fun h => absurd h.1 hp⟩

/-- There may always be no further item. -/
theorem separatedTail_matches (separator : Parser Unit) (p : Parser α) (count : Nat)
    (text : List Char) : ¬(separatedTail separator p count).Mismatches text := by
  rintro ⟨fault, left, h⟩
  induction count generalizing text fault left with
  | zero => cases h
  | succ count ih =>
    rw [separatedTail] at h
    split at h
    case h_1 => cases h
    case h_2 => cases h
    case h_3 =>
      split at h
      case h_1 => cases h
      case h_2 => cases h
      case h_3 =>
        split at h
        case h_1 => cases h
        case h_2 => exact ih _ _ _ h

theorem separated1_mismatches_iff {separator : Parser Unit} :
    (separated1 separator p).Mismatches text ↔ p.Mismatches text := by
  constructor
  · rintro ⟨fault, left, h⟩
    rw [separated1] at h
    split at h
    case h_1 =>
      split at h
      case h_1 => cases h
      case h_2 => exact absurd ⟨fault, left, h⟩ (separatedTail_matches _ _ _ _)
    case h_2 fault left hp => exact ⟨fault, left, hp⟩
    case h_3 => cases h
  · rintro ⟨fault, left, h⟩
    exact ⟨fault, left, by rw [separated1, h]⟩

theorem separatedTail_cases {separator : Parser Unit} {values : List α} {count : Nat}
    (h : separatedTail separator p count text = .ok values rest) :
    (values = [] ∧ rest = text) ∨ values ≠ [] ∧ ∃ left, separator text = .ok () left := by
  cases count with
  | zero =>
    cases h
    exact .inl ⟨rfl, rfl⟩
  | succ count =>
    rw [separatedTail] at h
    split at h
    case h_1 =>
      cases h
      exact .inl ⟨rfl, rfl⟩
    case h_2 => cases h
    case h_3 left hseparator =>
      split at h
      case h_1 =>
        cases h
        exact .inl ⟨rfl, rfl⟩
      case h_2 => cases h
      case h_3 =>
        split at h
        case h_1 =>
          cases h
          exact .inr ⟨nofun, left, hseparator⟩
        case h_2 hnone => exact absurd h (hnone _ _)

theorem separated0_cases {separator : Parser Unit} {values : List α}
    (h : separated0 separator p text = .ok values rest) :
    (values = [] ∧ rest = text) ∨ ∃ value others between, values = value :: others ∧
      p text = .ok value between ∧ ((others = [] ∧ rest = between) ∨
        others ≠ [] ∧ ∃ left, separator between = .ok () left) := by
  rw [separated0, separated1] at h
  cases hp : p text with
  | mismatch fault left =>
    rw [hp] at h
    cases h
    exact .inl ⟨rfl, rfl⟩
  | failure fault left =>
    rw [hp] at h
    cases h
  | ok value between =>
    rw [hp] at h
    cases htail : separatedTail separator p between.length between with
    | mismatch fault left =>
      exact absurd ⟨fault, left, htail⟩ (separatedTail_matches separator p _ between)
    | failure fault left =>
      simp only [htail] at h
      cases h
    | ok others left =>
      simp only [htail] at h
      cases h
      exact .inr ⟨value, others, between, rfl, rfl, separatedTail_cases htail⟩

theorem sign_eq_ok_iff {mark : String} :
    sign mark text = .ok () rest ↔ text.dropWhile isSpacing = mark.toList ++ rest := by
  rw [sign, exact]
  split
  case isTrue hmark =>
    obtain ⟨left, hleft⟩ := List.isPrefixOf_iff_prefix.1 hmark
    rw [← hleft, List.drop_left, List.append_cancel_left_eq]
    simp
  case isFalse hmark =>
    refine ⟨nofun, fun h => absurd ?_ hmark⟩
    rw [h, List.isPrefixOf_iff_prefix]
    exact List.prefix_append _ rest

/-- A sign is missing where another character comes next. -/
theorem sign_mismatches {mark : String} {m : Char} {ms : List Char} (hmark : mark.toList = m :: ms)
    (h : (text.dropWhile isSpacing).head? ≠ some m) : (sign mark).Mismatches text := by
  refine ⟨.sign, text.dropWhile isSpacing, ?_⟩
  rw [sign, exact, hmark, if_neg]
  cases hnext : text.dropWhile isSpacing with
  | nil => simp
  | cons c cs =>
    rw [hnext] at h
    have hne : m ≠ c := fun hc => h (by rw [hc, List.head?_cons])
    simp [hne]

theorem sign_mismatches_cons {mark : String} {m c : Char} {ms cs : List Char}
    (hmark : mark.toList = m :: ms) (hc : isSpacing c = false) (hne : c ≠ m) :
    (sign mark).Mismatches (c :: cs) :=
  sign_mismatches hmark (by simpa [hc] using hne)

theorem spacing_append {pad : List Char} (hpad : ∀ c ∈ pad, isSpacing c = true)
    (htext : ∀ c ∈ text.head?, isSpacing c = false) : spacing (pad ++ text) = .ok () text := by
  rw [spacing, dropWhile_append htext hpad]

/-- Whether a parser reads a value from a text, with spaces before it or without, if what comes
    after it is as demanded. -/
def Reads (p : Parser α) (after : List Char → Prop) (text : List Char) (value : α) : Prop :=
  ∀ pad rest, (∀ c ∈ pad, isSpacing c = true) → after rest →
    p (pad ++ (text ++ rest)) = .ok value rest

/-- Whether no further item is read: there is no separator, or no item after it. -/
def NoFurther (separator : Parser Unit) (p : Parser α) (text : List Char) : Prop :=
  separator.Mismatches text ∨ ∃ left, separator text = .ok () left ∧ p.Mismatches left

theorem NoFurther.separatedTail_eq {separator : Parser Unit} (h : NoFurther separator p text)
    (count : Nat) : separatedTail separator p count text = .ok [] text := by
  cases count with
  | zero => rfl
  | succ count =>
    rw [separatedTail]
    rcases h with ⟨fault, left, h⟩ | ⟨left, h, fault, left', hitem⟩
    · rw [h]
    · rw [h]
      dsimp only
      rw [hitem]

/-! Items are read one after the other if what stands between them may come after an item. -/

section

variable {ι : Type} {separator : Parser Unit} {after : List Char → Prop} {glue : List Char}
  {write : ι → List Char} {made : ι → α} (hafter : ∀ rest, after (glue ++ rest))
include hafter

theorem after_flatMap (write : ι → List Char) {rest : List Char} (hrest : after rest)
    (xs : List ι) :
    after (xs.flatMap (fun x => glue ++ write x) ++ rest) := by
  cases xs with
  | nil => exact hrest
  | cons x xs =>
    rw [List.flatMap_cons, List.append_assoc, List.append_assoc]
    exact hafter _

variable (hglue : ∀ rest, separator (glue ++ rest) = .ok () (' ' :: rest))
include hglue

theorem separatedTail_append {xs : List ι} (hxs : ∀ x ∈ xs, p.Reads after (write x) (made x))
    {rest : List Char} (hrest : after rest) (hend : NoFurther separator p rest) {count : Nat}
    (hcount : xs.length ≤ count) :
    separatedTail separator p count (xs.flatMap (fun x => glue ++ write x) ++ rest) =
      .ok (xs.map made) rest := by
  induction xs generalizing count with
  | nil => exact hend.separatedTail_eq count
  | cons x xs ih =>
    obtain ⟨hx, hxs⟩ := List.forall_mem_cons.1 hxs
    cases count with
    | zero => simp at hcount
    | succ count =>
      have hitem := hx [' '] _ (by simp [isSpacing]) (after_flatMap hafter write hrest xs)
      rw [List.flatMap_cons, List.append_assoc, List.append_assoc, separatedTail, hglue]
      dsimp only
      rw [← List.singleton_append, hitem]
      dsimp only
      rw [ih hxs (Nat.le_of_succ_le_succ hcount)]
      rfl

theorem Reads.separated1_append {xs : List ι} (hxs : ∀ x ∈ xs, p.Reads after (write x) (made x))
    (hne : xs ≠ []) (hsome : glue ≠ []) :
    (Parser.separated1 separator p).Reads (fun rest => after rest ∧ NoFurther separator p rest)
      (glue.intercalate (xs.map write)) (xs.map made) := by
  rintro pad rest hpad ⟨hrest, hend⟩
  cases xs with
  | nil => exact absurd rfl hne
  | cons x xs =>
    obtain ⟨hx, hxs⟩ := List.forall_mem_cons.1 hxs
    have htail : (xs.map write).flatMap (glue ++ ·) = xs.flatMap (fun x => glue ++ write x) :=
      List.flatMap_map ..
    have hcount : xs.length ≤ (xs.flatMap (fun x => glue ++ write x) ++ rest).length := by
      have hle : xs.length ≤ (xs.flatMap fun x => glue ++ write x).length :=
        length_le_flatMap fun x _ => List.append_ne_nil_of_left_ne_nil hsome _
      rw [List.length_append]
      omega
    rw [List.map_cons, intercalate_cons, htail, List.append_assoc, Parser.separated1,
      hx pad _ hpad (after_flatMap hafter write hrest xs)]
    dsimp only
    rw [separatedTail_append hafter hglue hxs hrest hend hcount]
    rfl

theorem Reads.separated1 {xs : List ι} (hxs : ∀ x ∈ xs, p.Reads after (write x) (made x))
    (hne : xs ≠ []) (hsome : glue ≠ []) :
    (Parser.separated1 separator p).Reads (fun rest => after rest ∧ separator.Mismatches rest)
      (glue.intercalate (xs.map write)) (xs.map made) :=
  fun pad rest hpad hrest => Reads.separated1_append hafter hglue hxs hne hsome pad rest hpad
    ⟨hrest.1, .inl hrest.2⟩

theorem separated0_append {xs : List ι} (hxs : ∀ x ∈ xs, p.Reads after (write x) (made x))
    (hsome : glue ≠ []) {rest : List Char} (hrest : after rest) (hend : separator.Mismatches rest)
    (hitem : p.Mismatches rest) :
    separated0 separator p (glue.intercalate (xs.map write) ++ rest) = .ok (xs.map made) rest := by
  by_cases hempty : xs = []
  · subst hempty
    obtain ⟨fault, left, hitem⟩ := hitem
    change separated0 separator p rest = .ok [] rest
    simp [separated0, Parser.separated1, hitem]
  · have hread := Reads.separated1 hafter hglue hxs hempty hsome [] rest (by simp) ⟨hrest, hend⟩
    rw [List.nil_append] at hread
    rw [separated0, hread]

/-- Items are read up to one that is not there: what is left begins with that one or, where others
    come before it, with what stands between them. -/
theorem separated0_stops {xs : List ι} (hxs : ∀ x ∈ xs, p.Reads after (write x) (made x))
    (hsome : glue ≠ []) {bad : List Char} {texts : List (List Char)} {rest : List Char}
    (hbad : ∀ pad rest, (∀ c ∈ pad, isSpacing c = true) → p.Mismatches (pad ++ (bad ++ rest))) :
    ∃ left, separated0 separator p
        (glue.intercalate (xs.map write ++ bad :: texts) ++ rest) = .ok (xs.map made) left ∧
      (bad <+: left ∨ glue <+: left) := by
  cases xs with
  | nil =>
    obtain ⟨fault, left, hmismatch⟩ :=
      hbad [] (texts.flatMap (glue ++ ·) ++ rest) (List.forall_mem_nil _)
    rw [List.map_nil, List.nil_append, intercalate_cons, List.append_assoc]
    refine ⟨bad ++ (texts.flatMap (glue ++ ·) ++ rest), ?_, .inl (List.prefix_append bad _)⟩
    rw [separated0, Parser.separated1]
    rw [List.nil_append] at hmismatch
    rw [hmismatch]
    rfl
  | cons x xs =>
    let left := glue ++ (bad ++ (texts.flatMap (glue ++ ·) ++ rest))
    have htext : glue.intercalate ((x :: xs).map write ++ bad :: texts) ++ rest =
        glue.intercalate ((x :: xs).map write) ++ left := by
      rw [List.map_cons, List.cons_append, intercalate_cons, intercalate_cons]
      simp [left]
    have hread := Reads.separated1_append hafter hglue hxs (by simp) hsome [] left (by simp)
      ⟨hafter _, .inr ⟨_, hglue _, hbad [' '] _ (by simp [isSpacing])⟩⟩
    rw [List.nil_append] at hread
    refine ⟨left, ?_, .inr (List.prefix_append glue _)⟩
    rw [htext, separated0, hread]

end

end Parser

/-- A fact is a predicate no argument of which is a variable. -/
theorem fact_eq_ok_iff {text rest : List Char} {f : Source.Fact} :
    fact text = .ok f rest ↔ predicate text = .ok f rest ∧ f.argVariables = [] := by
  rw [fact]
  cases predicate text with
  | ok p left =>
    dsimp only
    split
    case isTrue hempty =>
      refine ⟨?_, And.left⟩
      rintro ⟨⟩
      exact ⟨rfl, List.isEmpty_iff.1 hempty⟩
    case isFalse hsome =>
      refine ⟨nofun, ?_⟩
      rintro ⟨⟨⟩, hempty⟩
      exact absurd (List.isEmpty_iff.2 hempty) hsome
  | mismatch fault left => exact ⟨nofun, nofun⟩
  | failure fault left => exact ⟨nofun, nofun⟩

theorem readWhole_eq_ok_iff {α : Type} {p : Parser α} {text : String} {value : α} :
    readWhole p text = .ok value ↔
      ∃ rest, p text.toList = .ok value rest ∧ afterTerminator rest = [] := by
  rw [readWhole]
  cases p text.toList with
  | ok result rest =>
    dsimp only
    split
    case isTrue hempty =>
      simp only [Except.ok.injEq, Outcome.ok.injEq]
      refine ⟨fun h => ⟨rest, ⟨h, rfl⟩, List.isEmpty_iff.1 hempty⟩, ?_⟩
      rintro ⟨_, ⟨h, -⟩, -⟩
      exact h
    case isFalse hsome =>
      refine ⟨nofun, ?_⟩
      rintro ⟨_, ⟨⟩, hempty⟩
      exact absurd (List.isEmpty_iff.2 hempty) hsome
  | mismatch fault rest => exact ⟨nofun, nofun⟩
  | failure fault rest => exact ⟨nofun, nofun⟩

end Warrant.Grammar
