import Warrant.Proofs.Content
import Warrant.Proofs.Execution
import Warrant.Proofs.Symbols
import Warrant.Verifier

namespace Warrant.Renumbering

variable {α β : Type} {source : SymbolTable}

/-- Whether a renumbering appends strings of another table only, whatever table it starts from, and
    what it comes to is as it should be. -/
def Keeps (source : SymbolTable) (x : Renumbering α) (made : SymbolTable → α → Prop) : Prop :=
  ∀ table, table.names <+: (execute x table).2.names ∧
    (execute x table).2.names ⊆ table.names ++ source.names ∧
    ∀ a, (execute x table).1 = .ok a → made (execute x table).2 a

/-- Whether something stays true when strings are appended to a table. -/
def Lasting (made : SymbolTable → α → Prop) : Prop :=
  ∀ (table table' : SymbolTable) (a : α), table.names <+: table'.names → made table a →
    made table' a

theorem Keeps.imp {x : Renumbering α} {made made' : SymbolTable → α → Prop}
    (hx : Keeps source x made) (himp : ∀ table a, made table a → made' table a) :
    Keeps source x made' := by
  intro table
  obtain ⟨hstart, hsubset, hmade⟩ := hx table
  exact ⟨hstart, hsubset, fun a ha => himp _ a (hmade a ha)⟩

theorem Keeps.of_execute {x : Renumbering α} {made : SymbolTable → α → Prop}
    (hx : Keeps source x made) {table table' : SymbolTable} {a : α}
    (h : execute x table = (.ok a, table')) :
    table.names <+: table'.names ∧ table'.names ⊆ table.names ++ source.names ∧ made table' a := by
  obtain ⟨hstart, hsubset, hmade⟩ := hx table
  rw [h] at hstart hsubset hmade
  exact ⟨hstart, hsubset, hmade a rfl⟩

theorem keeps_pure {a : α} {made : SymbolTable → α → Prop} (h : ∀ table, made table a) :
    Keeps source (pure a) made := by
  intro table
  rw [execute_pure]
  refine ⟨List.prefix_rfl, List.subset_append_left _ _, ?_⟩
  rintro b ⟨⟩
  exact h table

theorem Keeps.bind {x : Renumbering α} {f : α → Renumbering β} {made : SymbolTable → α → Prop}
    {made' : SymbolTable → β → Prop} (hx : Keeps source x made) (hlasting : Lasting made)
    (hf : ∀ a, Keeps source (f a) fun table b => made table a → made' table b) :
    Keeps source (x >>= f) made' := by
  intro table
  obtain ⟨hstart, hsubset, hmade⟩ := hx table
  rw [execute_bind]
  generalize execute x table = result at hstart hsubset hmade
  obtain ⟨_ | a, middle⟩ := result
  · refine ⟨hstart, hsubset, ?_⟩
    rintro b ⟨⟩
  · obtain ⟨hstart', hsubset', hmade'⟩ := hf a middle
    refine ⟨hstart.trans hstart', ?_, ?_⟩
    · intro name hname
      rcases List.mem_append.1 (hsubset' hname) with hname | hname
      · exact hsubset hname
      · exact List.mem_append_right _ hname
    · exact fun b hb => hmade' b hb (hlasting _ _ a hstart' (hmade a rfl))

/-- What is made from a result is kept with the result. -/
theorem Keeps.map {x : Renumbering α} {f : α → β} {made : SymbolTable → α → Prop}
    {made' : SymbolTable → β → Prop} (hx : Keeps source x made) (hlasting : Lasting made)
    (hf : ∀ table a, made table a → made' table (f a)) :
    Keeps source (x >>= fun a => pure (f a)) made' :=
  hx.bind hlasting fun a => keeps_pure fun table h => hf table a h

theorem Keeps.mapM {f : α → Renumbering β} {made : SymbolTable → β → Prop}
    (hlasting : Lasting made) {xs : List α} (hf : ∀ x ∈ xs, Keeps source (f x) made) :
    Keeps source (xs.mapM f) fun table ys => ∀ y ∈ ys, made table y := by
  induction xs with
  | nil => exact keeps_pure fun table => by simp
  | cons x xs ih =>
    rw [List.mapM_cons]
    refine (hf x List.mem_cons_self).bind hlasting fun y => ?_
    refine (ih fun x hx => hf x (List.mem_cons_of_mem _ hx)).map ?_ ?_
    · exact fun table table' ys hstart hys y hy => hlasting table table' y hstart (hys y hy)
    · exact fun table ys hys hy => List.forall_mem_cons.2 ⟨hy, hys⟩

/-- A symbol becomes the position of the string that it stands for. -/
theorem keeps_symbol (source : SymbolTable) (strings : String → Prop) {position : UInt64}
    (hposition : ∀ name, source.resolve? position = some name → strings name) :
    Keeps source (symbol source position) fun table s => table.Has strings s := by
  intro table
  rw [symbol]
  cases hresolve : source.resolve? position with
  | none =>
    refine ⟨List.prefix_rfl, List.subset_append_left _ _, ?_⟩
    rintro a ⟨⟩
  | some name =>
    refine ⟨SymbolTable.prefix_intern table name, ?_, ?_⟩
    · intro other hother
      rcases SymbolTable.mem_names_intern hother with hother | rfl
      · exact List.mem_append_left _ hother
      · exact List.mem_append_right _ (List.mem_of_getElem? hresolve)
    · rintro a ⟨⟩
      exact ⟨name, SymbolTable.find?_intern table name, hposition name hresolve⟩

theorem lasting_has (strings : String → Prop) :
    Lasting fun table (s : UInt64) => table.Has strings s :=
  fun _ _ _ hstart h => h.of_prefix hstart

theorem lasting_true : Lasting fun _ (_ : α) => True := fun _ _ _ _ _ => trivial

theorem keeps_variableName (source : SymbolTable) (position : UInt32) :
    Keeps source (variableName source position) fun _ _ => True :=
  (keeps_symbol source (fun _ => True) fun _ _ => trivial).map (lasting_has _)
    fun _ _ _ => trivial

section

variable {names : UInt32 → Prop} {strings heads bodies predicates : UInt64 → Prop}
  {strings' heads' bodies' predicates' : SymbolTable → UInt64 → Prop}
  {f : UInt32 → Renumbering UInt32} {g : UInt64 → Renumbering UInt64}

theorem lasting_over (hstrings : Lasting strings') :
    Lasting fun table (t : Term) => t.Over (fun _ => True) (strings' table) :=
  fun table table' t hstart h =>
    TermOf.Over.imp (fun _ h => h) (fun s => hstrings table table' s hstart) t h

theorem lasting_predicateOver (hstrings : Lasting strings') (hpredicates : Lasting predicates') :
    Lasting fun table (p : Predicate) =>
      p.Over (fun _ => True) (strings' table) (predicates' table) :=
  fun table table' _ hstart h =>
    h.imp (fun _ h => h) (fun s => hstrings table table' s hstart)
      fun s => hpredicates table table' s hstart

theorem lasting_ruleOver (hstrings : Lasting strings') (hheads : Lasting heads')
    (hbodies : Lasting bodies') :
    Lasting fun table (r : Rule) =>
      r.Over (fun _ => True) (strings' table) (heads' table) (bodies' table) :=
  fun table table' _ hstart h =>
    h.imp (fun _ h => h) (fun s => hstrings table table' s hstart)
      (fun s => hheads table table' s hstart) fun s => hbodies table table' s hstart

theorem Lasting.forall_mem {made : SymbolTable → α → Prop} (h : Lasting made) :
    Lasting fun table (xs : List α) => ∀ x ∈ xs, made table x :=
  fun table table' _ hstart hxs x hx => h table table' x hstart (hxs x hx)

mutual

theorem keeps_term (hf : ∀ v, Keeps source (f v) fun _ _ => True)
    (hg : ∀ s, strings s → Keeps source (g s) strings') (hstrings : Lasting strings') :
    (t : Term) → t.Over names strings →
    Keeps source (t.traverse f g) fun table t => t.Over (fun _ => True) (strings' table)
  | .var v, _ => by
    rw [TermOf.traverse]
    exact (hf v).map lasting_true fun _ _ _ => trivial
  | .str s, h => by
    rw [TermOf.traverse]
    exact (hg s h).map hstrings fun _ _ h => h
  | .set elements, h => by
    rw [TermOf.traverse]
    exact (keeps_terms hf hg hstrings elements h).map (lasting_over hstrings).forall_mem
      fun _ _ h => TermOf.over_ofElements h
  | .integer _, _ => by
    rw [TermOf.traverse]
    exact keeps_pure fun _ => trivial
  | .date _, _ => by
    rw [TermOf.traverse]
    exact keeps_pure fun _ => trivial
  | .bytes _, _ => by
    rw [TermOf.traverse]
    exact keeps_pure fun _ => trivial
  | .bool _, _ => by
    rw [TermOf.traverse]
    exact keeps_pure fun _ => trivial

theorem keeps_terms (hf : ∀ v, Keeps source (f v) fun _ _ => True)
    (hg : ∀ s, strings s → Keeps source (g s) strings') (hstrings : Lasting strings') :
    (ts : List Term) → TermOf.AllOver names strings ts →
    Keeps source (TermOf.traverseList f g ts) fun table ts =>
      ∀ t ∈ ts, t.Over (fun _ => True) (strings' table)
  | [], _ => by
    rw [TermOf.traverseList]
    exact keeps_pure fun _ => by simp
  | t :: ts, h => by
    rw [TermOf.traverseList]
    refine (keeps_term hf hg hstrings t h.1).bind (lasting_over hstrings) fun t => ?_
    refine (keeps_terms hf hg hstrings ts h.2).map (lasting_over hstrings).forall_mem ?_
    exact fun _ _ hts ht => List.forall_mem_cons.2 ⟨ht, hts⟩

end

variable (hf : ∀ v, Keeps source (f v) fun _ _ => True)
  (hg : ∀ s, strings s → Keeps source (g s) strings') (hstrings : Lasting strings')
include hf hg hstrings

theorem keeps_predicate (hpredicates : Lasting predicates')
    (hname : ∀ s, predicates s → Keeps source (g s) predicates') {p : Predicate}
    (h : p.Over names strings predicates) :
    Keeps source (p.traverse f g) fun table p =>
      p.Over (fun _ => True) (strings' table) (predicates' table) := by
  refine (hname p.name h.1).bind hpredicates fun name => ?_
  refine (Keeps.mapM (lasting_over hstrings) fun t ht =>
    keeps_term hf hg hstrings t (h.2 t ht)).map (lasting_over hstrings).forall_mem ?_
  exact fun _ _ hterms hname => ⟨hname, hterms⟩

theorem keeps_op {op : Op} (h : op.Over names strings) :
    Keeps source (op.traverse f g) fun table op => op.Over (fun _ => True) (strings' table) := by
  cases op with
  | value t =>
    exact (keeps_term hf hg hstrings t h).map (lasting_over hstrings) fun _ _ h => h
  | unary _ => exact keeps_pure fun _ => trivial
  | binary _ => exact keeps_pure fun _ => trivial

theorem keeps_rule (hheads : Lasting heads') (hbodies : Lasting bodies')
    (hhead : ∀ s, heads s → Keeps source (g s) heads')
    (hbody : ∀ s, bodies s → Keeps source (g s) bodies') {r : Rule}
    (h : r.Over names strings heads bodies) :
    Keeps source (r.traverse f g) fun table r =>
      r.Over (fun _ => True) (strings' table) (heads' table) (bodies' table) := by
  have hops : Lasting fun table (op : Op) => op.Over (fun _ => True) (strings' table) :=
    fun table table' _ hstart h => h.imp (fun _ h => h) fun s => hstrings table table' s hstart
  refine (keeps_predicate hf hg hstrings hheads hhead h.head).bind
    (lasting_predicateOver hstrings hheads) fun head => ?_
  refine (Keeps.mapM (lasting_predicateOver hstrings hbodies) fun p hp =>
    keeps_predicate hf hg hstrings hbodies hbody (h.body p hp)).bind
      (lasting_predicateOver hstrings hbodies).forall_mem fun body => ?_
  refine (Keeps.mapM hops.forall_mem fun e he => Keeps.mapM hops fun op hop =>
    keeps_op hf hg hstrings (h.expressions e he op hop)).map hops.forall_mem.forall_mem ?_
  exact fun _ _ hexpressions hbody hhead => ⟨hhead, hbody, hexpressions⟩

end

section

variable {names : UInt32 → Prop} {strings predicates : UInt64 → Prop} {named : String → Prop}

theorem lasting_blockOver :
    Lasting fun table (b : Block) =>
      b.Over (fun _ => True) (table.Has fun _ => True) (table.Has named) :=
  fun _ _ _ hstart h => h.imp (fun _ h => h) (fun _ h => h.of_prefix hstart)
    fun _ h => h.of_prefix hstart

/-- The strings of a block are renumbered to strings of the table, and its predicates to others of
    the same names. -/
theorem keeps_block {b : Block} (h : b.Over names strings predicates)
    (hpredicates : ∀ s, predicates s → ∀ name, source.resolve? s = some name → named name) :
    Keeps source (block source b) fun table b =>
      b.Over (fun _ => True) (table.Has fun _ => True) (table.Has named) := by
  have hf := keeps_variableName source
  have hg (s : UInt64) (_ : strings s) :
      Keeps source (symbol source s) fun table s => table.Has (fun _ => True) s :=
    keeps_symbol source _ fun _ _ => trivial
  have hname (s : UInt64) (hs : predicates s) :
      Keeps source (symbol source s) fun table s => table.Has named s :=
    keeps_symbol source named (hpredicates s hs)
  have hany := lasting_has fun _ => True
  have hnamed := lasting_has named
  have hqueries := lasting_ruleOver hany hany hnamed
  have hcheck : Lasting fun table (check : Check) => ∀ query ∈ check.queries,
      query.Over (fun _ => True) (table.Has fun _ => True) (table.Has fun _ => True)
        (table.Has named) :=
    fun table table' check => hqueries.forall_mem table table' check.queries
  refine (Keeps.mapM (lasting_predicateOver hany hany) fun fact hfact =>
    keeps_predicate hf hg hany hany hg (h.facts fact hfact)).bind
      (lasting_predicateOver hany hany).forall_mem fun facts => ?_
  refine (Keeps.mapM (lasting_ruleOver hany hnamed hnamed) fun rule hrule =>
    keeps_rule hf hg hany hnamed hnamed hname hname (h.rules rule hrule)).bind
      (lasting_ruleOver hany hnamed hnamed).forall_mem fun rules => ?_
  refine (Keeps.mapM hcheck fun check hmem => ?_).map hcheck.forall_mem ?_
  · refine (Keeps.mapM hqueries fun query hquery => ?_).map hqueries.forall_mem fun _ _ h => h
    exact keeps_rule hf hg hany hany hnamed hg hname (h.checks check hmem query hquery)
  · exact fun _ _ hchecks hrules hfacts => ⟨hfacts, hrules, hchecks⟩

end

end Warrant.Renumbering
