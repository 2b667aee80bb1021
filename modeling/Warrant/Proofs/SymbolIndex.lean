import Mathlib.Data.Set.Card
import Mathlib.Order.Interval.Finset.Nat
import Warrant.Proofs.Positions
import Warrant.Source

namespace Warrant

namespace SymbolTable

section

variable {table : SymbolTable}

/-- Strings and positions tell each other just as long as 64 bits hold all positions. -/
theorem find?_iff_resolve?_iff :
    (∀ name s, table.find? name = some s ↔ table.resolve? s = some name) ↔
      table.size ≤ UInt64.size := by
  constructor
  · intro h
    by_contra hlarge
    -- the first string that 64 bits cannot number is found at the position of the very first
    have hlarge : UInt64.size < table.names.length := not_le.1 hlarge
    have hfind := find?_eq_some_iff.2 ⟨UInt64.size, List.getElem?_eq_getElem hlarge, rfl⟩
    have hfirst : table.names[0]? = some table.names[UInt64.size] := (h _ _).1 hfind
    obtain ⟨hpos, hsame⟩ := List.getElem?_eq_some_iff.1 hfirst
    rw [List.Nodup.getElem_inj_iff table.nodup] at hsame
    exact absurd hsame (by decide)
  · exact fun hsize name s => ⟨resolve?_of_find? hsize, find?_of_resolve?⟩

/-- As many positions have a string as there are strings. -/
theorem ncard_resolves (hsize : table.size ≤ UInt64.size) :
    {s | ∃ name, table.resolve? s = some name}.ncard = table.size := by
  have htoNat {i : Nat} (hi : i < table.size) : (UInt64.ofNat i).toNat = i :=
    UInt64.toNat_ofNat_of_lt' (lt_of_lt_of_le hi hsize)
  have hset : {s | ∃ name, table.resolve? s = some name} = UInt64.ofNat '' Set.Iio table.size := by
    ext s
    rw [Set.mem_ofPred_eq, exists_resolve?_iff]
    constructor
    · exact fun hs => ⟨s.toNat, hs, UInt64.ofNat_toNat⟩
    · rintro ⟨i, hi, rfl⟩
      rwa [htoNat hi]
  have hinjective : Set.InjOn UInt64.ofNat (Set.Iio table.size) := fun i hi j hj hsame => by
    rw [← htoNat hi, hsame, htoNat hj]
  rw [hset, hinjective.ncard_image, ← Finset.coe_Iio, Set.ncard_coe_finset, Nat.card_Iio]

end

variable (table : SymbolTable) (count : Nat)

theorem names_ofList_take :
    (ofList (table.names.take count)).names = table.names.take count :=
  names_ofList (table.nodup.sublist (List.take_sublist count table.names))

theorem isDisjoint_take_drop :
    (ofList (table.names.take count)).isDisjoint (table.drop count) = true := by
  rw [isDisjoint_iff, names_ofList_take]
  exact List.disjoint_take_drop table.nodup le_rfl

/-- A table that is split is put together again by extending its first part by the rest. -/
theorem extend_take_drop :
    (ofList (table.names.take count)).extend (table.drop count) = table := by
  apply ext_names
  rw [names_extend (isDisjoint_take_drop table count), names_ofList_take]
  exact List.take_append_drop count table.names

theorem isDisjoint_comm (other : SymbolTable) :
    table.isDisjoint other = other.isDisjoint table := by
  rw [Bool.eq_iff_iff, isDisjoint_iff, isDisjoint_iff, List.disjoint_comm]

/-- What is done to a table, one step after another. -/
inductive Operation where
  | insert (name : String)
  | add (name : String)
  | extend (other : SymbolTable)
  | splitOff (count : Nat)

/-- The table after an operation. A string that is added is wanted as a term. -/
def perform : Operation → SymbolTable
  | .insert name => ((intern name).run table).2
  | .add name => ((TermOf.intern (.str name)).run table).2
  | .extend other => table.extend other
  | .splitOff count => table.drop count

def performAll (operations : List Operation) : SymbolTable := operations.foldl perform table

/-- Whether an operation only puts strings behind those that there are. -/
def Operation.Appends : Operation → Prop
  | .splitOff _ => False
  | _ => True

theorem prefix_perform {operation : Operation} (h : operation.Appends) :
    table.names <+: (table.perform operation).names := by
  cases operation with
  | insert name | add name => exact prefix_intern table name
  | extend other => exact prefix_extend table other
  | splitOff count => exact h.elim

end SymbolTable

/-- Strings in the order in which they came, beside an index that is kept of their positions. -/
structure IndexedNames where
  names : List String
  index : Std.HashMap String UInt64

namespace IndexedNames

open SymbolTable (Operation)

def empty : IndexedNames := ⟨[], ∅⟩

/-- The position of a string by the index. The strings themselves are not looked at. -/
def find? (store : IndexedNames) (name : String) : Option UInt64 := store.index[name]?

/-- The position of a string. One that the index lacks goes behind the strings and into the
    index. -/
def intern (name : String) : StateM IndexedNames UInt64 := fun store =>
  match store.find? name with
  | some symbol => (symbol, store)
  | none =>
    let symbol := UInt64.ofNat store.names.length
    (symbol, ⟨store.names ++ [name], store.index.insert name symbol⟩)

def append (store : IndexedNames) (names : List String) : IndexedNames :=
  names.foldl (fun store name => ((intern name).run store).2) store

/-- The strings after the first `count`, with an index of their own. -/
def splitOff (store : IndexedNames) (count : Nat) : IndexedNames :=
  empty.append (store.names.drop count)

def perform (store : IndexedNames) : Operation → IndexedNames
  | .insert name | .add name => ((intern name).run store).2
  | .extend other => store.append other.names
  | .splitOff count => store.splitOff count

def performAll (store : IndexedNames) (operations : List Operation) : IndexedNames :=
  operations.foldl perform store

/-- Whether the strings are those of a table, and the index tells of each string what is found by
    looking through them. -/
structure InStep (store : IndexedNames) (table : SymbolTable) : Prop where
  names_eq : store.names = table.names
  find?_eq : ∀ name, store.find? name = table.find? name

theorem inStep_empty : InStep empty .empty := ⟨rfl, fun _ => Std.HashMap.getElem?_empty⟩

variable {store : IndexedNames} {table : SymbolTable}

/-- The strings and the index change together. -/
theorem InStep.intern (h : InStep store table) (name : String) :
    InStep ((IndexedNames.intern name).run store).2 (table.insert name) := by
  have hfound := h.find?_eq name
  change InStep (IndexedNames.intern name store).2 _
  rw [IndexedNames.intern]
  cases hfind : table.find? name with
  | some symbol =>
    rw [hfound, hfind, SymbolTable.insert_of_mem (SymbolTable.mem_names_of_find? hfind)]
    exact h
  | none =>
    have hsize : store.names.length = table.size := congrArg List.length h.names_eq
    have hself := table.find?_intern name
    have hothers (other : String) (hne : other ≠ name) := table.find?_intern_of_ne hne
    rw [SymbolTable.run_intern_of_find?_eq_none hfind] at hself hothers
    rw [hfound, hfind]
    refine ⟨?_, fun other => ?_⟩
    · rw [SymbolTable.names_insert_of_not_mem (SymbolTable.find?_eq_none_iff.1 hfind), h.names_eq]
    · rw [find?, Std.HashMap.getElem?_insert, hsize]
      by_cases hother : other = name
      · rw [hother, hself, BEq.rfl, if_pos rfl]
      · rw [hothers other hother, beq_false_of_ne (Ne.symm hother), if_neg Bool.false_ne_true]
        exact h.find?_eq other

theorem InStep.append (h : InStep store table) (names : List String) :
    InStep (store.append names) (names.foldl SymbolTable.insert table) := by
  induction names generalizing store table with
  | nil => exact h
  | cons name names ih => exact ih (h.intern name)

/-- The strings of a table, taken one after another, are in step with it. -/
theorem inStep_append_names (table : SymbolTable) : InStep (empty.append table.names) table := by
  have h := inStep_empty.append table.names
  rwa [← SymbolTable.ofList, SymbolTable.ofList_names] at h

theorem InStep.splitOff (h : InStep store table) (count : Nat) :
    InStep (store.splitOff count) (table.drop count) := by
  rw [IndexedNames.splitOff, h.names_eq]
  exact inStep_append_names (table.drop count)

/-- The first strings, extended by those that are split off, are in step with the table again. -/
theorem InStep.append_splitOff (h : InStep store table) (count : Nat) :
    InStep ((empty.append (store.names.take count)).append (store.splitOff count).names)
      table := by
  have hfirst := inStep_append_names (.ofList (table.names.take count))
  have hwhole := hfirst.append (table.drop count).names
  rwa [← SymbolTable.extend, SymbolTable.extend_take_drop, SymbolTable.names_ofList_take,
    ← (h.splitOff count).names_eq, ← h.names_eq] at hwhole

theorem InStep.perform (h : InStep store table) (operation : Operation) :
    InStep (store.perform operation) (table.perform operation) := by
  cases operation with
  | insert name | add name =>
    have hnext := h.intern name
    rwa [← SymbolTable.snd_run_intern] at hnext
  | extend other => exact h.append other.names
  | splitOff count => exact h.splitOff count

theorem InStep.performAll (h : InStep store table) (operations : List Operation) :
    InStep (store.performAll operations) (table.performAll operations) := by
  induction operations generalizing store table with
  | nil => exact h
  | cons operation operations ih => exact ih (h.perform operation)

end IndexedNames

namespace SymbolTable

/-- Whatever is done to a table, an index that is kept beside its strings stays in step, and no
    string comes twice. Strings and positions tell each other as long as 64 bits number the strings,
    of which there are then as many as positions that have one. What a position stands for stays
    until the table is split. Wherever it is split, the parts have no string in common, and the
    first extended by the second is the table again, with its index. -/
theorem performAll_keeps_bijection (start : SymbolTable) (operations : List Operation) :
    let table := start.performAll operations
    let store := (IndexedNames.empty.append start.names).performAll operations
    store.InStep table ∧ store.names.Nodup ∧
      ((∀ name s, table.find? name = some s ↔ table.resolve? s = some name) ↔
        table.size ≤ UInt64.size) ∧
      (∀ s, (∃ name, table.resolve? s = some name) ↔ s.toNat < table.size) ∧
      (table.size ≤ UInt64.size →
        {s | ∃ name, table.resolve? s = some name}.ncard = table.size) ∧
      (∀ operation : Operation, operation.Appends → ∀ s : UInt64, s.toNat < table.size →
        (table.perform operation).resolve? s = table.resolve? s) ∧
      (∀ count, let first := ofList (table.names.take count)
        first.names = table.names.take count ∧ first.extend (table.drop count) = table ∧
          first.isDisjoint (table.drop count) = true ∧
          ((IndexedNames.empty.append (store.names.take count)).append
            (store.splitOff count).names).InStep table) ∧
      ∀ other : SymbolTable, table.isDisjoint other = other.isDisjoint table ∧
        (table.isDisjoint other = true ↔ ¬∃ name, name ∈ table.names ∧ name ∈ other.names) := by
  intro table store
  have hstep : store.InStep table :=
    (IndexedNames.inStep_append_names start).performAll operations
  refine ⟨hstep, ?_, find?_iff_resolve?_iff, fun s => exists_resolve?_iff, ncard_resolves,
    fun operation h s hs => ?_, fun count => ?_, fun other => ?_⟩
  · rw [hstep.names_eq]
    exact table.nodup
  · exact resolve?_of_prefix (prefix_perform table h) hs
  · exact ⟨names_ofList_take table count, extend_take_drop table count,
      isDisjoint_take_drop table count, hstep.append_splitOff count⟩
  · refine ⟨isDisjoint_comm table other, isDisjoint_iff.trans ?_⟩
    simp only [not_exists, not_and, List.disjoint_left]

/-- Some strings are put behind the standard ones, one of them twice, and split off. The index that
    has been kept tells of each where it is now. -/
theorem standard_performAll_keeps_bijection :
    let operations : List Operation :=
      [.insert "file", .add "read", .extend (.ofList ["read", "note"]), .splitOff 7]
    let table := standard.performAll operations
    let store := (IndexedNames.empty.append standard.names).performAll operations
    table.names = ["file", "read", "note"] ∧ store.find? "note" = some 2 ∧
      table.resolve? 2 = some "note" ∧ store.find? "right" = none ∧
      {s | ∃ name, table.resolve? s = some name}.ncard = 3 ∧
      (table.perform (.insert "right")).resolve? 2 = some "note" := by
  intro operations table store
  obtain ⟨hstep, -, htell, -, hcount, hkeeps, -⟩ := performAll_keeps_bijection standard operations
  have hsize : table.size ≤ UInt64.size := by decide +kernel
  have hnote : table.find? "note" = some 2 := by decide +kernel
  have hright : table.find? "right" = none := by decide +kernel
  have hresolve : table.resolve? 2 = some "note" := (htell.2 hsize _ _).1 hnote
  have hkept := hkeeps (.insert "right") trivial 2 (by decide +kernel)
  refine ⟨by decide +kernel, (hstep.find?_eq "note").trans hnote, hresolve,
    (hstep.find?_eq "right").trans hright, (hcount hsize).trans ?_, hkept.trans hresolve⟩
  decide +kernel

end SymbolTable

end Warrant
