import Mathlib.Data.List.Nodup
import Mathlib.Data.List.Perm.Subperm
import Warrant.SymbolTable

namespace Warrant.SymbolTable

theorem ext_names {table table' : SymbolTable} (h : table.names = table'.names) :
    table = table' := by
  cases table
  cases table'
  cases h
  rfl

theorem find?_eq_some_iff {table : SymbolTable} {name : String} {symbol : UInt64} :
    table.find? name = some symbol ↔
      ∃ i : Nat, table.names[i]? = some name ∧ UInt64.ofNat i = symbol := by
  rw [find?, Option.map_eq_some_iff]
  refine exists_congr fun i => and_congr_left fun _ => ?_
  rw [List.idxOf?_eq_some_iff, List.getElem?_eq_some_iff]
  refine exists_congr fun hi => ⟨And.left, fun h => ⟨h, fun j hj hj' => ?_⟩⟩
  have hsame : table.names[j] = table.names[i] := hj'.trans h.symm
  rw [List.Nodup.getElem_inj_iff table.nodup] at hsame
  exact absurd hsame (Nat.ne_of_lt hj)

theorem find?_eq_none_iff {table : SymbolTable} {name : String} :
    table.find? name = none ↔ name ∉ table.names := by
  rw [find?, Option.map_eq_none_iff, List.idxOf?_eq_none_iff]

theorem exists_find?_of_mem {table : SymbolTable} {name : String} (h : name ∈ table.names) :
    ∃ symbol, table.find? name = some symbol := by
  rw [← Option.isSome_iff_exists, Option.isSome_iff_ne_none, ne_eq, find?_eq_none_iff, not_not]
  exact h

section

variable {table table' : SymbolTable} (hstart : table.names <+: table'.names)
include hstart

theorem getElem?_of_prefix {name : String} {i : Nat} (h : table.names[i]? = some name) :
    table'.names[i]? = some name := by
  obtain ⟨rest, hrest⟩ := hstart
  rw [← hrest, List.getElem?_append_left (List.getElem?_eq_some_iff.1 h).1]
  exact h

/-- A table that goes on has the same string at a position of the table. -/
theorem resolve?_of_prefix {s : UInt64} (h : s.toNat < table.size) :
    table'.resolve? s = table.resolve? s := by
  have hname : table.names[s.toNat]? = some table.names[s.toNat] := List.getElem?_eq_getElem h
  have hname' := getElem?_of_prefix hstart hname
  exact hname'.trans hname.symm

/-- A table that goes on finds what the table did. -/
theorem find?_of_prefix {name : String} {symbol : UInt64} (h : table.find? name = some symbol) :
    table'.find? name = some symbol := by
  obtain ⟨i, hi, rfl⟩ := find?_eq_some_iff.1 h
  exact find?_eq_some_iff.2 ⟨i, getElem?_of_prefix hstart hi, rfl⟩

end

theorem mem_names_of_find? {table : SymbolTable} {name : String} {symbol : UInt64}
    (h : table.find? name = some symbol) : name ∈ table.names := by
  obtain ⟨i, hi, -⟩ := find?_eq_some_iff.1 h
  exact List.mem_of_getElem? hi

/-- A string that a table has is found where it is and leaves the table as it is. -/
theorem run_intern_of_find? {table : SymbolTable} {name : String} {symbol : UInt64}
    (h : table.find? name = some symbol) : (intern name).run table = (symbol, table) := by
  change intern name table = _
  rw [intern, h]

/-- A string that a table lacks is put behind those that it has. -/
theorem run_intern_of_find?_eq_none {table : SymbolTable} {name : String}
    (h : table.find? name = none) :
    (intern name).run table = (UInt64.ofNat table.size, table.insert name) := by
  change intern name table = _
  rw [intern, h]

theorem snd_run_intern (table : SymbolTable) (name : String) :
    ((intern name).run table).2 = table.insert name := by
  cases hfind : table.find? name with
  | some symbol => rw [run_intern_of_find? hfind, insert_of_mem (mem_names_of_find? hfind)]
  | none => rw [run_intern_of_find?_eq_none hfind]

theorem prefix_intern (table : SymbolTable) (name : String) :
    table.names <+: ((intern name).run table).2.names := by
  rw [snd_run_intern]
  exact table.names_prefix_insert name

theorem mem_names_intern {table : SymbolTable} {name other : String}
    (h : other ∈ ((intern name).run table).2.names) : other ∈ table.names ∨ other = name := by
  rw [snd_run_intern] at h
  exact mem_names_insert.1 h

/-- The position that a string gets is the one where it is found. -/
theorem find?_intern (table : SymbolTable) (name : String) :
    ((intern name).run table).2.find? name = some ((intern name).run table).1 := by
  cases hfind : table.find? name with
  | some symbol =>
    rw [run_intern_of_find? hfind]
    exact hfind
  | none =>
    rw [run_intern_of_find?_eq_none hfind, find?_eq_some_iff]
    refine ⟨table.size, ?_, rfl⟩
    rw [names_insert_of_not_mem (find?_eq_none_iff.1 hfind), size, List.getElem?_concat_length]

/-- All other strings are found where they were. -/
theorem find?_intern_of_ne (table : SymbolTable) {name other : String} (h : other ≠ name) :
    ((intern name).run table).2.find? other = table.find? other := by
  cases hfind : table.find? other with
  | some symbol => exact find?_of_prefix (prefix_intern table name) hfind
  | none =>
    rw [find?_eq_none_iff] at hfind ⊢
    exact fun hmem => (mem_names_intern hmem).elim hfind h

theorem size_intern_le (table : SymbolTable) (name : String) :
    ((intern name).run table).2.size ≤ table.size + 1 := by
  have hsubset : ((intern name).run table).2.names ⊆ table.names ++ [name] := by
    intro other hother
    rw [List.mem_append, List.mem_singleton]
    exact mem_names_intern hother
  have hlength := (List.subperm_of_subset ((intern name).run table).2.nodup hsubset).length_le
  simpa [size] using hlength

theorem prefix_extend (table other : SymbolTable) : table.names <+: (table.extend other).names := by
  rw [extend]
  generalize other.names = names
  induction names generalizing table with
  | nil => exact List.prefix_rfl
  | cons name names ih => exact (table.names_prefix_insert name).trans (ih (table.insert name))

/-- Distinct strings are kept in their order. -/
theorem names_foldl_insert {table : SymbolTable} {names : List String}
    (h : (table.names ++ names).Nodup) :
    (names.foldl insert table).names = table.names ++ names := by
  induction names generalizing table with
  | nil => exact (List.append_nil _).symm
  | cons name names ih =>
    have hfresh : name ∉ table.names := fun hmem =>
      (List.nodup_append.1 h).2.2 name hmem name List.mem_cons_self rfl
    have hnames := names_insert_of_not_mem hfresh
    rw [List.foldl_cons, ih, hnames]
    · simp
    · rw [hnames]
      simpa using h

theorem names_ofList {names : List String} (h : names.Nodup) : (ofList names).names = names :=
  names_foldl_insert (show (empty.names ++ names).Nodup from h)

theorem ofList_names (table : SymbolTable) : ofList table.names = table :=
  ext_names (names_ofList table.nodup)

theorem isDisjoint_iff {table other : SymbolTable} :
    table.isDisjoint other = true ↔ table.names.Disjoint other.names := by
  rw [isDisjoint, List.all_eq_true, List.disjoint_right]
  refine forall₂_congr fun name _ => ?_
  rw [Option.isNone_iff_eq_none, find?_eq_none_iff]

/-- Strings that are all new are put behind those that there are. -/
theorem names_extend {table other : SymbolTable} (h : table.isDisjoint other = true) :
    (table.extend other).names = table.names ++ other.names :=
  names_foldl_insert (List.nodup_append'.2 ⟨table.nodup, other.nodup, isDisjoint_iff.1 h⟩)

/-- Whether a symbol stands for a string among some. -/
def ResolvesTo (table : SymbolTable) (strings : String → Prop) (symbol : UInt64) : Prop :=
  ∃ name, table.resolve? symbol = some name ∧ strings name

theorem resolvesTo_iff {table : SymbolTable} {strings : String → Prop} {symbol : UInt64} :
    table.ResolvesTo strings symbol ↔ (table.resolve? symbol).elim False strings := by
  cases h : table.resolve? symbol with
  | none => simp [ResolvesTo, h]
  | some name => simp [ResolvesTo, h]

instance (table : SymbolTable) (strings : String → Prop) [DecidablePred strings] :
    DecidablePred (table.ResolvesTo strings) := fun symbol =>
  have : Decidable ((table.resolve? symbol).elim False strings) :=
    match table.resolve? symbol with
    | none => .isFalse id
    | some name => inferInstanceAs (Decidable (strings name))
  decidable_of_iff _ resolvesTo_iff.symm

/-- Whether a symbol is the position of a string among some. -/
def Has (table : SymbolTable) (strings : String → Prop) (symbol : UInt64) : Prop :=
  ∃ name, table.find? name = some symbol ∧ strings name

section

variable {table : SymbolTable} {strings : String → Prop} {symbol : UInt64}

theorem find?_of_resolve? {name : String} (h : table.resolve? symbol = some name) :
    table.find? name = some symbol :=
  find?_eq_some_iff.2 ⟨symbol.toNat, h, UInt64.ofNat_toNat⟩

theorem ResolvesTo.has (h : table.ResolvesTo strings symbol) : table.Has strings symbol := by
  obtain ⟨name, hresolve, hname⟩ := h
  exact ⟨name, find?_of_resolve? hresolve, hname⟩

theorem Has.imp {strings' : String → Prop} (h : table.Has strings symbol)
    (hstrings : ∀ name, strings name → strings' name) : table.Has strings' symbol := by
  obtain ⟨name, hfind, hname⟩ := h
  exact ⟨name, hfind, hstrings name hname⟩

theorem Has.of_prefix {table' : SymbolTable} (h : table.Has strings symbol)
    (hstart : table.names <+: table'.names) : table'.Has strings symbol := by
  obtain ⟨name, hfind, hname⟩ := h
  exact ⟨name, find?_of_prefix hstart hfind, hname⟩

/-- As long as 64 bits hold all positions, no two strings share one. -/
theorem resolve?_of_find? (hsize : table.size ≤ UInt64.size) {name : String}
    (h : table.find? name = some symbol) : table.resolve? symbol = some name := by
  obtain ⟨i, hi, rfl⟩ := find?_eq_some_iff.1 h
  have hbound : i < table.size := (List.getElem?_eq_some_iff.1 hi).1
  rw [resolve?, UInt64.toNat_ofNat_of_lt' (Nat.lt_of_lt_of_le hbound hsize)]
  exact hi

theorem find?_inj (hsize : table.size ≤ UInt64.size) {name name' : String}
    (h : table.find? name = some symbol) (h' : table.find? name' = some symbol) :
    name = name' := by
  have hresolve := resolve?_of_find? hsize h
  rw [resolve?_of_find? hsize h', Option.some.injEq] at hresolve
  exact hresolve.symm

end

end Warrant.SymbolTable
