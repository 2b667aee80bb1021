import Warrant.Proofs.Building
import Warrant.Proofs.Faults

namespace Warrant

variable {V S : Type}

/-- What is wrong with a set the elements of which are of some kinds: that there are variables, or
    else two kinds of scalars, or else sets. -/
inductive Kind.SetFault (kinds : Set Kind) : TermError → Prop where
  | variable (h : .var ∈ kinds) : SetFault kinds .variableInSet
  | mixed (hvar : .var ∉ kinds) (h : ¬(kinds \ {.set}).Subsingleton) : SetFault kinds .mixedSet
  | nested (hvar : .var ∉ kinds) (hone : (kinds \ {.set}).Subsingleton) (h : .set ∈ kinds) :
    SetFault kinds .nestedSet

/-- A set has one fault at most. -/
theorem Kind.SetFault.eq {kinds : Set Kind} {e e' : TermError} (h : SetFault kinds e)
    (h' : SetFault kinds e') : e = e' := by
  cases h <;> cases h' <;> first | rfl | contradiction

namespace TermOf

/-- The kinds of some terms. -/
def kinds (ts : List (TermOf V S)) : Set Kind := {k | ∃ t ∈ ts, t.kind = k}

theorem kind_mem_kinds {t : TermOf V S} {ts : List (TermOf V S)} (h : t ∈ ts) :
    t.kind ∈ kinds ts := ⟨t, h, rfl⟩

theorem MayBeRead.not_setFault {ts : List (TermOf V S)} (h : (set ts).MayBeRead) (e : TermError) :
    ¬Kind.SetFault (kinds ts) e := by
  obtain ⟨hscalar, hsame⟩ := h ts rfl
  rintro (⟨t, ht, hvar⟩ | ⟨-, hmixed⟩ | ⟨-, -, t, ht, hset⟩)
  · exact (hscalar t ht).1 hvar
  · refine hmixed ?_
    rintro _ ⟨⟨t, ht, rfl⟩, -⟩ _ ⟨⟨u, hu, rfl⟩, -⟩
    exact hsame t ht u hu
  · exact (hscalar t ht).2 hset

section

variable [Ord V] [Ord S]

/-- In a set in order, the first element that may not stand there tells of the kinds of all. -/
theorem HasFault.setFault {ts : List (TermOf V S)} {e : TermError}
    (hordered : ts.Pairwise fun a b => compare a b = .lt) (h : (set ts).HasFault e) :
    Kind.SetFault (kinds ts) e := by
  obtain ⟨first, rest, heq, before, t, after, hsplit, hbefore, hfault⟩ := h
  obtain rfl : ts = first :: rest := TermOf.set.inj heq
  have ht : t.kind ∈ kinds (first :: rest) :=
    kind_mem_kinds (hsplit ▸ List.mem_append_right before List.mem_cons_self)
  -- what is before is of the kind of the first, and what is after is of no lower kind
  have hearlier (u : TermOf V S) (hu : u ∈ before) :
      u.kind ≠ .var ∧ u.kind ≠ .set ∧ u.kind = first.kind := by
    have hvar : u.kind ≠ .var := fun h => hbefore u hu _ (.variable h)
    have hset : u.kind ≠ .set := fun h => hbefore u hu _ (.nested h)
    exact ⟨hvar, hset, by_contra fun hkind => hbefore u hu _ (.mixed hvar hset hkind)⟩
  have hlater (u : TermOf V S) (hu : u ∈ t :: after) : t.kind.rank ≤ u.kind.rank := by
    rcases List.mem_cons.1 hu with rfl | hu
    · exact le_rfl
    · rw [hsplit, List.pairwise_append, List.pairwise_cons] at hordered
      exact rank_le_of_isLE (by rw [hordered.2.1.1 u hu]; rfl)
  have hkinds (k : Kind) (hk : k ∈ kinds (first :: rest)) :
      (k ≠ .var ∧ k ≠ .set ∧ k = first.kind) ∨ t.kind.rank ≤ k.rank := by
    obtain ⟨u, hu, rfl⟩ := hk
    rw [hsplit] at hu
    exact (List.mem_append.1 hu).imp (hearlier u) (hlater u)
  have hnoVar (htvar : t.kind ≠ .var) : .var ∉ kinds (first :: rest) := fun hvar => by
    rcases hkinds _ hvar with ⟨h, -⟩ | hle
    · exact h rfl
    · exact htvar (Kind.rank_inj.1 (Nat.le_zero.1 hle))
  cases hfault with
  | «variable» h => exact .variable (h ▸ ht)
  | nested h =>
    rw [h] at ht hkinds
    have hsome (k : Kind) (hk : k ∈ kinds (first :: rest) \ {.set}) : k = first.kind := by
      rcases hkinds k hk.1 with ⟨-, -, hfirst⟩ | hle
      · exact hfirst
      · refine absurd (Kind.rank_inj.1 (le_antisymm ?_ hle)) hk.2
        cases k <;> decide
    refine .nested (hnoVar (by rw [h]; decide)) (fun k hk l hl => ?_) ht
    rw [hsome k hk, hsome l hl]
  | mixed hvar hset hkind =>
    refine .mixed (hnoVar hvar) fun hone => ?_
    cases before with
    | nil => exact hkind (congrArg kind (List.cons.inj hsplit).1.symm)
    | cons b before =>
      obtain rfl : first = b := (List.cons.inj hsplit).1
      have hfirst := (hearlier first List.mem_cons_self).2.1
      exact hkind (hone ⟨ht, hset⟩ ⟨kind_mem_kinds List.mem_cons_self, hfirst⟩)

theorem kinds_ofList [Std.LawfulEqOrd (TermOf V S)] (ts : List (TermOf V S)) :
    kinds (SortedList.ofList ts) = kinds ts := by
  simp only [kinds, SortedList.mem_ofList]

/-- Whether terms may form a set and what is wrong otherwise is told by their kinds. -/
theorem validate_ofElements_eq_error_iff [Std.TransOrd (TermOf V S)]
    [Std.LawfulEqOrd (TermOf V S)] {ts : List (TermOf V S)} {e : TermError} :
    (ofElements ts).validate = .error e ↔ Kind.SetFault (kinds ts) e := by
  rw [← kinds_ofList]
  cases h : (ofElements ts).validate with
  | error e' =>
    have hfault := (validate_eq_error_iff.1 h).setFault (SortedList.pairwise_ofList ts)
    rw [Except.error.injEq]
    constructor
    · rintro rfl
      exact hfault
    · exact hfault.eq
  | ok => exact iff_of_false nofun ((validate_eq_ok_iff.1 h).not_setFault e)

/-- Terms of the same kinds may form a set alike. -/
theorem validate_ofElements_congr {V' S' : Type} [Ord V'] [Ord S'] [Std.TransOrd (TermOf V S)]
    [Std.LawfulEqOrd (TermOf V S)] [Std.TransOrd (TermOf V' S')]
    [Std.LawfulEqOrd (TermOf V' S')] {ts : List (TermOf V S)} {us : List (TermOf V' S')}
    (h : kinds ts = kinds us) : (ofElements ts).validate = (ofElements us).validate := by
  have hfault (e : TermError) :
      (ofElements ts).validate = .error e ↔ (ofElements us).validate = .error e := by
    rw [validate_ofElements_eq_error_iff, validate_ofElements_eq_error_iff, h]
  cases hts : (ofElements ts).validate with
  | error e => exact ((hfault e).1 hts).symm
  | ok =>
    cases hus : (ofElements us).validate with
    | error e => exact absurd ((hfault e).2 hus) (by rw [hts]; nofun)
    | ok => rfl

end

/-- Terms that are interned one after another are numbered by the positions in the table that is
    left. -/
theorem fst_run_mapM_intern (ts : List Source.Term) (table : SymbolTable) :
    ((ts.mapM intern).run table).1 =
      ts.map (numbered ((ts.mapM intern).run table).2.variablePosition
        ((ts.mapM intern).run table).2.position) := by
  obtain ⟨names, h⟩ := exists_interns_mapM fun t (_ : t ∈ ts) => t.exists_interns_intern
  exact h.fst_run table

theorem kinds_fst_run_mapM_intern (ts : List Source.Term) (table : SymbolTable) :
    kinds ((ts.mapM intern).run table).1 = kinds ts := by
  rw [fst_run_mapM_intern, kinds, kinds]
  simp only [List.mem_map, exists_exists_and_eq_and, kind_numbered]

/-- Interning what has been interned changes nothing, and makes the same of it. -/
theorem run_intern_ofElements (ts : List Source.Term) (table : SymbolTable) :
    (intern (ofElements ts)).run ((ts.mapM intern).run table).2 =
      (ofElements ((ts.mapM intern).run table).1, ((ts.mapM intern).run table).2) := by
  have htable : ((intern (ofElements ts)).run ((ts.mapM intern).run table).2).2 =
      ((ts.mapM intern).run table).2 := by
    refine (introduces_intern (ofElements ts)).snd_run_eq_self fun name hname => ?_
    refine (introduces_mapM fun t _ => introduces_intern t).mem_names_run ?_ table
    rw [ofElements, strings, stringsOfAll_eq_flatMap, List.mem_flatMap] at hname
    obtain ⟨t, ht, hname⟩ := hname
    exact List.mem_flatMap.2 ⟨t, SortedList.mem_ofList.1 ht, hname⟩
  obtain ⟨names, h⟩ := exists_interns_intern (ofElements ts)
  refine Prod.ext ?_ htable
  rw [h.fst_run, htable, fst_run_mapM_intern, numbered_ofElements]

end TermOf

namespace Source

/-- The positions of strings do not matter for what may form a set, as their kinds are looked at
    only. -/
theorem setOf_eq (items : List Term) : setOf items = TermOf.setOf items := by
  have hvalidate : (TermOf.ofElements (((SortedList.ofList items).mapM TermOf.intern).run
      .empty).1).validate = (TermOf.ofElements items).validate := by
    refine TermOf.validate_ofElements_congr ?_
    rw [TermOf.kinds_fst_run_mapM_intern, TermOf.kinds_ofList]
  rw [setOf, hvalidate]
  rfl

/-- Terms that may form a set are told apart by what they are interned as. -/
theorem length_ofList_intern {items : List Term} {symbols : SymbolTable}
    (hread : (TermOf.ofElements items).MayBeRead)
    (hsize : ((items.mapM TermOf.intern).run symbols).2.size ≤ UInt64.size) :
    (SortedList.ofList ((items.mapM TermOf.intern).run symbols).1).length =
      (SortedList.ofList items).length := by
  have hstrings {t : Term} (ht : t ∈ items) {name : String} (hname : name ∈ t.strings) :
      name ∈ ((items.mapM TermOf.intern).run symbols).2.names :=
    (introduces_mapM fun t _ => TermOf.introduces_intern t).mem_names_run
      (List.mem_flatMap.2 ⟨t, ht, hname⟩) symbols
  rw [TermOf.fst_run_mapM_intern]
  generalize ((items.mapM TermOf.intern).run symbols).2 = after at hsize hstrings ⊢
  let number := TermOf.numbered after.variablePosition after.position
  have hback : ((SortedList.ofList items).map number).map (TermOf.resolve after) =
      SortedList.ofList items := by
    rw [List.map_map, map_eq_self_iff]
    intro t ht
    obtain ⟨hvar, hset⟩ := (hread _ rfl).1 t ht
    have hordered := TermOf.allOrdered_iff.1 hread.ordered_ofElements.2 t ht
    exact TermOf.resolve_numbered hsize (TermOf.isGround_of_kind_ne hvar hset) hordered
      fun _ => hstrings (SortedList.mem_ofList.1 ht)
  have hnodup : ((SortedList.ofList items).map number).Nodup :=
    .of_map (TermOf.resolve after) (by rw [hback]; exact SortedList.nodup_ofList items)
  have hsame : SortedList.ofList (items.map number) =
      SortedList.ofList ((SortedList.ofList items).map number) := by
    refine SortedList.ofList_congr fun t => ?_
    simp only [List.mem_map, SortedList.mem_ofList]
  rw [hsame, SortedList.length_ofList hnodup, List.length_map]

/-- Terms form a set as they are written out if and only if they do once they are interned, and
    what is wrong with them otherwise is the same. Interning the set then adds no strings to those
    of the terms and makes the set of the interned terms, with as many elements. -/
theorem setOf_agrees_with_interned (items : List Term) (symbols : SymbolTable)
    (hsize : ((items.mapM TermOf.intern).run symbols).2.size ≤ UInt64.size) :
    let interned := ((items.mapM TermOf.intern).run symbols).1
    let after := ((items.mapM TermOf.intern).run symbols).2
    ((∃ built, setOf items = .ok built) ↔ ∃ t, TermOf.setOf interned = .ok t) ∧
      (∀ e, setOf items = .error e ↔ TermOf.setOf interned = .error e) ∧
      ∀ built, setOf items = .ok built → ∃ elements elements',
        built = .set elements ∧ TermOf.setOf interned = .ok (.set elements') ∧
          (TermOf.intern built).run after = (.set elements', after) ∧
          elements.length = elements'.length := by
  intro interned after
  have hvalidate : (TermOf.ofElements interned).validate = (TermOf.ofElements items).validate :=
    TermOf.validate_ofElements_congr (TermOf.kinds_fst_run_mapM_intern items symbols)
  rw [setOf_eq, TermOf.setOf, TermOf.setOf, hvalidate]
  cases h : (TermOf.ofElements items).validate with
  | error e => simp
  | ok =>
    refine ⟨by simp, by simp, ?_⟩
    rintro _ ⟨⟩
    have hlength := length_ofList_intern (TermOf.validate_eq_ok_iff.1 h) hsize
    exact ⟨_, _, rfl, rfl, TermOf.run_intern_ofElements items symbols, hlength.symm⟩

/-- Two strings, the second of which in alphabetical order comes first in a table. -/
theorem letters_setOf_agrees_with_interned :
    let items : List Term := [.str "b", .str "a", .str "b"]
    let after : SymbolTable := .ofList ["b", "a"]
    setOf items = .ok (.set [.str "a", .str "b"]) ∧
      TermOf.setOf ((items.mapM TermOf.intern).run (.ofList ["b"])).1 =
        .ok (.set [.str 0, .str 1]) ∧
      (TermOf.intern (.set [.str "a", .str "b"])).run after = (.set [.str 0, .str 1], after) := by
  intro items after
  obtain ⟨-, -, hbuilt⟩ := setOf_agrees_with_interned items (.ofList ["b"]) (by decide +kernel)
  have hok : setOf items = .ok (.set [.str "a", .str "b"]) := by decide +kernel
  have hinterned : TermOf.setOf ((items.mapM TermOf.intern).run (.ofList ["b"])).1 =
      .ok (.set [.str 0, .str 1]) := by decide +kernel
  obtain ⟨_, elements, -, helements, hrun, -⟩ := hbuilt _ hok
  have hafter : ((items.mapM TermOf.intern).run (.ofList ["b"])).2 = after := by decide +kernel
  rw [hinterned] at helements
  rw [← Except.ok.inj helements, hafter] at hrun
  exact ⟨hok, hinterned, hrun⟩

end Source

end Warrant
