import Mathlib.Logic.Equiv.Defs
import Warrant.Proofs.Symbols

namespace Warrant.SymbolTable

/-- Whether tables have the same strings, each at the position that its own is exchanged for. -/
structure Moved (g : Equiv.Perm UInt64) (left right : SymbolTable) : Prop where
  resolve : ∀ s, right.resolve? (g s) = left.resolve? s
  find : ∀ name, right.find? name = (left.find? name).map g

theorem Moved.symm {g : Equiv.Perm UInt64} {left right : SymbolTable}
    (h : Moved g left right) : Moved g.symm right left where
  resolve s := by rw [← h.resolve, Equiv.apply_symm_apply]
  find name := by rw [h.find, Option.map_map, Equiv.symm_comp_self, Option.map_id, id_eq]

/-- Whether the string at a position is in another table, too. -/
def Shared (source target : SymbolTable) : UInt64 → Prop := source.ResolvesTo (· ∈ target.names)

theorem Shared.of_prefix {source target target' : SymbolTable} {s : UInt64}
    (h : source.Shared target s) (hstart : target.names <+: target'.names) :
    source.Shared target' s := by
  obtain ⟨name, hresolve, hmem⟩ := h
  exact ⟨name, hresolve, hstart.subset hmem⟩

/-- The position of a string. Strings that a table does not have are taken to be at the last
    position that there is. -/
def position (table : SymbolTable) (name : String) : UInt64 := (table.find? name).getD (-1)

def variablePosition (table : SymbolTable) (name : String) : UInt32 :=
  (table.position name).toUInt32

theorem find?_eq_position {table : SymbolTable} {name : String} (h : name ∈ table.names) :
    table.find? name = some (table.position name) := by
  obtain ⟨symbol, hsymbol⟩ := exists_find?_of_mem h
  rw [position, hsymbol, Option.getD_some]

theorem position_of_not_mem {table : SymbolTable} {name : String} (h : name ∉ table.names) :
    table.position name = -1 := by
  rw [position, find?_eq_none_iff.2 h, Option.getD_none]

theorem position_of_resolve? {table : SymbolTable} {symbol : UInt64} {name : String}
    (h : table.resolve? symbol = some name) : table.position name = symbol := by
  rw [position, find?_of_resolve? h, Option.getD_some]

theorem resolve?_eq_none_iff {table : SymbolTable} {symbol : UInt64} :
    table.resolve? symbol = none ↔ table.size ≤ symbol.toNat := by
  rw [resolve?, List.getElem?_eq_none_iff, size]

theorem exists_resolve?_iff {table : SymbolTable} {symbol : UInt64} :
    (∃ name, table.resolve? symbol = some name) ↔ symbol.toNat < table.size := by
  rw [← Option.ne_none_iff_exists', ne_eq, resolve?_eq_none_iff, Nat.not_le]

theorem position_lt {table : SymbolTable} (hsize : table.size ≤ UInt64.size) {name : String}
    (h : name ∈ table.names) : (table.position name).toNat < table.size :=
  exists_resolve?_iff.1 ⟨name, resolve?_of_find? hsize (find?_eq_position h)⟩

/-- The position in another table of the string at a position, if there is one. -/
def moved (left right : SymbolTable) (symbol : UInt64) : UInt64 :=
  (left.resolve? symbol).elim symbol right.position

def movedVariable (left right : SymbolTable) (v : UInt32) : UInt32 :=
  (moved left right v.toUInt64).toUInt32

section

variable {left right : SymbolTable} (hsame : ∀ name, name ∈ left.names ↔ name ∈ right.names)
  (hsize : left.size < UInt32.size)

include hsame in
theorem size_eq_of_same : left.size = right.size := by
  have hperm : left.names.Perm right.names :=
    (List.perm_ext_iff_of_nodup left.nodup right.nodup).2 hsame
  exact hperm.length_eq

include hsize in
theorem resolve?_position {name : String} (h : name ∈ left.names) :
    left.resolve? (left.position name) = some name := by
  refine resolve?_of_find? (Nat.le_of_lt (Nat.lt_trans hsize ?_)) (find?_eq_position h)
  decide

theorem moved_of_resolve? {symbol : UInt64} {name : String}
    (h : left.resolve? symbol = some name) : moved left right symbol = right.position name := by
  rw [moved, h, Option.elim_some]

theorem moved_of_size_le {symbol : UInt64} (h : left.size ≤ symbol.toNat) :
    moved left right symbol = symbol := by
  rw [moved, resolve?_eq_none_iff.2 h, Option.elim_none]

include hsame hsize

theorem resolve?_moved (symbol : UInt64) :
    right.resolve? (moved left right symbol) = left.resolve? symbol := by
  have hcount := size_eq_of_same hsame
  cases hresolve : left.resolve? symbol with
  | none =>
    have hle := resolve?_eq_none_iff.1 hresolve
    rw [moved_of_size_le hle, resolve?_eq_none_iff, ← hcount]
    exact hle
  | some name =>
    rw [moved_of_resolve? hresolve, resolve?_position (hcount ▸ hsize)]
    exact (hsame name).1 (List.mem_of_getElem? hresolve)

theorem moved_moved (symbol : UInt64) : moved right left (moved left right symbol) = symbol := by
  have hresolve := resolve?_moved hsame hsize symbol
  cases hname : left.resolve? symbol with
  | none =>
    have hle := resolve?_eq_none_iff.1 hname
    rw [moved_of_size_le hle, moved_of_size_le (size_eq_of_same hsame ▸ hle)]
  | some name =>
    rw [hname] at hresolve
    rw [moved_of_resolve? hresolve, position_of_resolve? hname]

/-- A string moves to its new position. -/
theorem moved_position (name : String) :
    moved left right (left.position name) = right.position name := by
  by_cases hname : name ∈ left.names
  · exact moved_of_resolve? (resolve?_position hsize hname)
  · rw [position_of_not_mem hname, position_of_not_mem fun h => hname ((hsame name).2 h)]
    refine moved_of_size_le (Nat.le_trans (Nat.le_of_lt hsize) ?_)
    decide

theorem moved_lt (symbol : UInt64) (h : symbol.toNat < UInt32.size) :
    (moved left right symbol).toNat < UInt32.size := by
  have hresolve := resolve?_moved hsame hsize symbol
  cases hname : left.resolve? symbol with
  | none => rwa [moved_of_size_le (resolve?_eq_none_iff.1 hname)]
  | some name =>
    by_contra hlarge
    have hnone : right.resolve? (moved left right symbol) = none := by
      rw [resolve?_eq_none_iff, ← size_eq_of_same hsame]
      omega
    rw [hnone, hname] at hresolve
    cases hresolve

omit hsame hsize in
theorem toUInt64_toUInt32 {s : UInt64} (h : s.toNat < UInt32.size) : s.toUInt32.toUInt64 = s := by
  rw [← UInt64.toNat_inj, UInt32.toNat_toUInt64, UInt64.toNat_toUInt32, Nat.mod_eq_of_lt h]

theorem movedVariable_movedVariable (v : UInt32) :
    movedVariable right left (movedVariable left right v) = v := by
  have hlt := moved_lt hsame hsize v.toUInt64 v.toNat_lt
  rw [movedVariable, movedVariable, toUInt64_toUInt32 hlt, moved_moved hsame hsize,
    UInt32.toUInt32_toUInt64]

theorem movedVariable_position (name : String) :
    movedVariable left right (left.variablePosition name) = right.variablePosition name := by
  rw [movedVariable, variablePosition, variablePosition]
  by_cases hname : name ∈ left.names
  · have hlt := position_lt (Nat.le_of_lt (Nat.lt_trans hsize (by decide))) hname
    rw [toUInt64_toUInt32 (Nat.lt_trans hlt hsize), moved_position hsame hsize]
  · -- the last position of all stays the last one when it is cut off
    rw [position_of_not_mem hname, position_of_not_mem fun h => hname ((hsame name).2 h)]
    rw [moved_of_size_le (Nat.le_trans (Nat.le_pred_of_lt hsize) (by decide))]
    decide

/-- Tables of the same strings differ in where they have them. -/
theorem exists_moved :
    ∃ (f : Equiv.Perm UInt32) (g : Equiv.Perm UInt64), Moved g left right ∧
      f ∘ left.variablePosition = right.variablePosition ∧ g ∘ left.position = right.position := by
  have hsame' (name : String) : name ∈ right.names ↔ name ∈ left.names := (hsame name).symm
  have hsize' : right.size < UInt32.size := size_eq_of_same hsame ▸ hsize
  let f : Equiv.Perm UInt32 := ⟨movedVariable left right, movedVariable right left,
    movedVariable_movedVariable hsame hsize, movedVariable_movedVariable hsame' hsize'⟩
  let g : Equiv.Perm UInt64 := ⟨moved left right, moved right left,
    moved_moved hsame hsize, moved_moved hsame' hsize'⟩
  refine ⟨f, g, ⟨resolve?_moved hsame hsize, fun name => ?_⟩,
    funext (movedVariable_position hsame hsize), funext (moved_position hsame hsize)⟩
  by_cases hname : name ∈ left.names
  · rw [find?_eq_position hname, find?_eq_position ((hsame name).1 hname), Option.map_some]
    exact congrArg some (moved_position hsame hsize name).symm
  · rw [find?_eq_none_iff.2 hname, find?_eq_none_iff.2 fun h => hname ((hsame name).2 h),
      Option.map_none]

end

end Warrant.SymbolTable
