import Warrant.Proofs.Building
import Warrant.Proofs.Storable

namespace Warrant

/-! What is read out of a table is interned into it as what it was. -/

namespace TermOf

/-- A term that is read has its sets in the order of the strings. -/
theorem ordered_resolve (table : SymbolTable) (t : Term) : (t.resolve table).Ordered := by
  induction t using TermOf.induction with
  | set elements ih =>
    rw [resolve_set]
    exact ordered_ofElements (List.forall_mem_map.2 ih)
  | _ => trivial

variable {table : SymbolTable} {t : Term}
  (h : ∀ s ∈ t.positions, ∃ name, table.resolve? s = some name)
include h

/-- Only strings of the table are read where all positions have one. -/
theorem mem_names_of_resolve : ∀ name ∈ (t.resolve table).strings, name ∈ table.names := by
  induction t using TermOf.induction with
  | var v =>
    obtain ⟨name, hname⟩ := h v.toUInt64 List.mem_cons_self
    change ∀ other ∈ [table.name v.toUInt64], other ∈ table.names
    rw [List.forall_mem_singleton, SymbolTable.name_of_resolve? hname]
    exact List.mem_of_getElem? hname
  | str s =>
    obtain ⟨name, hname⟩ := h s List.mem_cons_self
    change ∀ other ∈ [table.name s], other ∈ table.names
    rw [List.forall_mem_singleton, SymbolTable.name_of_resolve? hname]
    exact List.mem_of_getElem? hname
  | set elements ih =>
    rw [resolve_set, ofElements, strings, stringsOfAll_eq_flatMap, List.forall_mem_flatMap]
    intro u hu
    obtain ⟨e, he, rfl⟩ := List.mem_map.1 (SortedList.mem_ofList.1 hu)
    exact ih e he fun s hs => h s (mem_positionsOfAll.2 ⟨e, he, hs⟩)
  | _ =>
    intro name hname
    cases hname

/-- Numbering what is read by the positions of its strings gives back the term, as the elements of
    its sets come back into the order of their positions. -/
theorem numbered_resolve (hordered : t.Ordered) :
    (t.resolve table).numbered table.variablePosition table.position = t := by
  induction t using TermOf.induction with
  | var v =>
    obtain ⟨name, hname⟩ := h v.toUInt64 List.mem_cons_self
    change TermOf.var (table.variablePosition (table.name v.toUInt64)) = .var v
    rw [SymbolTable.name_of_resolve? hname, SymbolTable.variablePosition,
      SymbolTable.position_of_resolve? hname, UInt32.toUInt32_toUInt64]
  | str s =>
    obtain ⟨name, hname⟩ := h s List.mem_cons_self
    change TermOf.str (table.position (table.name s)) = .str s
    rw [SymbolTable.name_of_resolve? hname, SymbolTable.position_of_resolve? hname]
  | set elements ih =>
    have helements : (elements.map (TermOf.resolve table)).map
        (numbered table.variablePosition table.position) = elements := by
      rw [List.map_map, map_eq_self_iff]
      exact fun e he => ih e he (fun s hs => h s (mem_positionsOfAll.2 ⟨e, he, hs⟩))
        (allOrdered_iff.1 hordered.2 e he)
    rw [resolve_set, numbered_ofElements, helements, ofElements_of_ordered hordered]
  | _ => rfl

end TermOf

namespace PredicateOf

/-- What is interned of a predicate points to strings of the table that is left. -/
theorem positions_intern {p : Source.Predicate} {symbols : SymbolTable}
    (hsize : ((PredicateOf.intern p).run symbols).2.size ≤ UInt32.size) :
    ∀ s ∈ ((PredicateOf.intern p).run symbols).1.positions,
      s.toNat < ((PredicateOf.intern p).run symbols).2.size := by
  obtain ⟨names, h⟩ := exists_interns_intern p
  rw [h.fst_run]
  exact inside_of_numbered (numberedInside_of_mem hsize fun name hname =>
    (introduces_intern p).mem_names_run hname symbols)

/-- What is read out of a table is interned into it as it was, and nothing is added. -/
theorem run_intern_resolve {p : Predicate} {symbols : SymbolTable}
    (hordered : ∀ t ∈ p.terms, t.Ordered)
    (hresolve : ∀ s ∈ p.positions, ∃ name, symbols.resolve? s = some name) :
    (PredicateOf.intern (p.resolve symbols)).run symbols = (p, symbols) := by
  obtain ⟨⟨name, hname⟩, hterms⟩ := List.forall_mem_cons.1 hresolve
  rw [List.forall_mem_flatMap] at hterms
  have hread : p.resolve symbols = ⟨name, p.terms.map (TermOf.resolve symbols)⟩ := by
    rw [resolve_eq, SymbolTable.name_of_resolve? hname]
  have hstrings : ∀ other ∈ (p.resolve symbols).strings, other ∈ symbols.names := by
    rw [hread, strings, List.forall_mem_cons, List.forall_mem_flatMap, List.forall_mem_map]
    exact ⟨List.mem_of_getElem? hname, fun t ht => TermOf.mem_names_of_resolve (hterms t ht)⟩
  have hleft := (introduces_intern (p.resolve symbols)).snd_run_eq_self hstrings
  have hback : (p.terms.map (TermOf.resolve symbols)).map
      (TermOf.numbered symbols.variablePosition symbols.position) = p.terms := by
    rw [List.map_map, map_eq_self_iff]
    exact fun t ht => TermOf.numbered_resolve (hterms t ht) (hordered t ht)
  obtain ⟨names, hinterns⟩ := exists_interns_intern (p.resolve symbols)
  refine Prod.ext ?_ hleft
  rw [hinterns.fst_run, hleft, hread, numbered, hback, SymbolTable.position_of_resolve? hname]

/-- Interning and reading undo one another. Interning a predicate whose sets are in order appends
    strings to a table; where 32 bits number all that are there then, what is made points to strings
    of the table only, has its sets in order again and is read as the predicate, in any table that
    goes on from there, too. And a predicate that points to strings of a table only is read out of
    it as one with its sets in order, which is interned as what it was and adds nothing. -/
theorem intern_inverse_resolve (symbols : SymbolTable) :
    (∀ p : Source.Predicate, (∀ t ∈ p.terms, t.Ordered) →
      let interned := ((PredicateOf.intern p).run symbols).1
      let after := ((PredicateOf.intern p).run symbols).2
      symbols.names <+: after.names ∧
        (after.size ≤ UInt32.size →
          (∀ t ∈ interned.terms, t.Ordered) ∧
          (∀ s ∈ interned.positions, ∃ name, after.resolve? s = some name) ∧
          ∀ final : SymbolTable, after.names <+: final.names → interned.resolve final = p)) ∧
      ∀ p : Predicate, (∀ t ∈ p.terms, t.Ordered) →
        (∀ s ∈ p.positions, ∃ name, symbols.resolve? s = some name) →
          (∀ t ∈ (p.resolve symbols).terms, t.Ordered) ∧
          (PredicateOf.intern (p.resolve symbols)).run symbols = (p, symbols) := by
  refine ⟨fun p hordered => ?_, fun p hordered hresolve => ⟨?_, ?_⟩⟩
  · intro interned after
    have hleaves := leaves_intern hordered
    refine ⟨(hleaves symbols).1, fun hsize => ⟨?_, fun s hs => ?_, fun final hfinal => ?_⟩⟩
    · obtain ⟨names, h⟩ := exists_interns_intern p
      change ∀ t ∈ ((PredicateOf.intern p).run symbols).1.terms, t.Ordered
      rw [h.fst_run, numbered, List.forall_mem_map]
      exact fun t _ => t.ordered_numbered
    · exact SymbolTable.exists_resolve?_iff.2 (positions_intern hsize s hs)
    · have hsame := resolve_of_prefix hfinal (over_of_positions (positions_intern hsize))
      exact hsame.trans (hleaves.run hsize)
  · rw [resolve_eq, List.forall_mem_map]
    exact fun t _ => t.ordered_resolve symbols
  · exact run_intern_resolve hordered hresolve

/-- Two strings in a set, whose alphabetical order is not that of their positions. -/
theorem letters_intern_inverse_resolve :
    let p : Source.Predicate := ⟨"right", [.set [.str "a", .str "b"], .var "x"]⟩
    let interned : Predicate := ⟨1, [.set [.str 0, .str 2], .var 3]⟩
    let after : SymbolTable := .ofList ["b", "right", "a", "x"]
    (PredicateOf.intern p).run (.ofList ["b"]) = (interned, after) ∧
      interned.resolve (.ofList ["b", "right", "a", "x", "note"]) = p ∧
      (PredicateOf.intern p).run after = (interned, after) := by
  intro p interned after
  have hrun : (PredicateOf.intern p).run (.ofList ["b"]) = (interned, after) :=
    Prod.ext (by decide +kernel) (by decide +kernel)
  have hp : ∀ t ∈ p.terms, t.Ordered :=
    List.forall_mem_cons.2 ⟨⟨by decide, trivial, trivial, trivial⟩, by simp [TermOf.Ordered]⟩
  obtain ⟨hforward, -⟩ := intern_inverse_resolve (.ofList ["b"])
  obtain ⟨-, hafter⟩ := hforward p hp
  rw [hrun] at hafter
  obtain ⟨hordered, hpositions, hread⟩ := hafter (by decide +kernel)
  obtain ⟨-, hback⟩ := intern_inverse_resolve after
  obtain ⟨-, hagain⟩ := hback interned hordered hpositions
  rw [hread after List.prefix_rfl] at hagain
  exact ⟨hrun, hread _ ⟨["note"], by decide +kernel⟩, hagain⟩

end PredicateOf

end Warrant
