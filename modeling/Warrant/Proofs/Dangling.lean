import Warrant.Proofs.Append
import Warrant.Proofs.Loops
import Warrant.Proofs.Positions

namespace Warrant

namespace TermOf

mutual

/-- The positions of the names and strings in a term, from left to right. -/
def positions : Term → List UInt64
  | .var v => [v.toUInt64]
  | .str s => [s]
  | .set elements => positionsOfAll elements
  | _ => []

def positionsOfAll : List Term → List UInt64
  | [] => []
  | t :: ts => positions t ++ positionsOfAll ts

end

mutual

theorem over_of_positions {inside : UInt64 → Prop} : (t : Term) →
    (∀ s ∈ t.positions, inside s) → t.Over (fun v => inside v.toUInt64) inside
  | .var v, h => h v.toUInt64 List.mem_cons_self
  | .str s, h => h s List.mem_cons_self
  | .set elements, h => allOver_of_positions elements h
  | .integer _, _ => trivial
  | .date _, _ => trivial
  | .bytes _, _ => trivial
  | .bool _, _ => trivial

theorem allOver_of_positions {inside : UInt64 → Prop} : (ts : List Term) →
    (∀ s ∈ positionsOfAll ts, inside s) → AllOver (fun v => inside v.toUInt64) inside ts
  | [], _ => trivial
  | t :: ts, h =>
    have h := List.forall_mem_append.1 h
    ⟨over_of_positions t h.1, allOver_of_positions ts h.2⟩

end

end TermOf

def PredicateOf.positions (p : Predicate) : List UInt64 :=
  p.name :: p.terms.flatMap TermOf.positions

def OpOf.positions : Op → List UInt64
  | .value t => t.positions
  | _ => []

def RuleOf.positions (r : Rule) : List UInt64 :=
  r.head.positions ++ (r.body.flatMap PredicateOf.positions ++
    r.expressions.flatMap fun e => e.flatMap OpOf.positions)

def CheckOf.positions (c : Check) : List UInt64 := c.queries.flatMap RuleOf.positions

/-- The positions that a block points to, in the order in which it is loaded. -/
def Block.positions (b : Block) : List UInt64 :=
  b.facts.flatMap PredicateOf.positions ++ (b.rules.flatMap RuleOf.positions ++
    b.checks.flatMap CheckOf.positions)

def Token.positions {scheme : Scheme} (t : Token scheme) : List UInt64 :=
  t.allBlocks.flatMap Block.positions

section

variable {inside : UInt64 → Prop}

theorem PredicateOf.over_of_positions {p : Predicate} (h : ∀ s ∈ p.positions, inside s) :
    p.Over (fun v => inside v.toUInt64) inside inside := by
  obtain ⟨hname, hterms⟩ := List.forall_mem_cons.1 h
  exact ⟨hname, fun t ht => t.over_of_positions (List.forall_mem_flatMap.1 hterms t ht)⟩

theorem RuleOf.over_of_positions {r : Rule} (h : ∀ s ∈ r.positions, inside s) :
    r.Over (fun v => inside v.toUInt64) inside inside inside := by
  rw [positions, List.forall_mem_append, List.forall_mem_append, List.forall_mem_flatMap,
    List.forall_mem_flatMap] at h
  obtain ⟨hhead, hbody, hexpressions⟩ := h
  refine ⟨PredicateOf.over_of_positions hhead,
    fun p hp => PredicateOf.over_of_positions (hbody p hp), fun e he op hop => ?_⟩
  cases op with
  | value t => exact t.over_of_positions (List.forall_mem_flatMap.1 (hexpressions e he) _ hop)
  | unary _ => trivial
  | binary _ => trivial

theorem Block.over_of_positions {b : Block} (h : ∀ s ∈ b.positions, inside s) :
    b.Over (fun v => inside v.toUInt64) inside inside := by
  rw [positions, List.forall_mem_append, List.forall_mem_append, List.forall_mem_flatMap,
    List.forall_mem_flatMap, List.forall_mem_flatMap] at h
  obtain ⟨hfacts, hrules, hchecks⟩ := h
  refine ⟨fun fact hfact => PredicateOf.over_of_positions (hfacts fact hfact),
    fun rule hrule => RuleOf.over_of_positions (hrules rule hrule),
    fun check hcheck query hquery => ?_⟩
  exact RuleOf.over_of_positions (List.forall_mem_flatMap.1 (hchecks check hcheck) query hquery)

end

/-- Whether a table has no string at a position, and what is reported of it. -/
def SymbolTable.Lacks (table : SymbolTable) (position : UInt64) (e : Error) : Prop :=
  table.resolve? position = none ∧ e = .format (.unknownSymbol position)

theorem SymbolTable.exists_lacks_iff {table : SymbolTable} {position : UInt64} :
    (∃ e, table.Lacks position e) ↔ table.size ≤ position.toNat := by
  rw [← resolve?_eq_none_iff]
  exact ⟨fun ⟨_, h⟩ => h.1, fun h => ⟨_, h, rfl⟩⟩

namespace Renumbering

variable {α β : Type} {source : SymbolTable}

/-- Whether a renumbering, whatever table it starts from, appends strings, fails exactly at the first
    of some positions that its source has no string for, and otherwise has all their strings. -/
structure Reports (source : SymbolTable) (x : Renumbering α) (ps : List UInt64) : Prop where
  start : ∀ table, table.names <+: (execute x table).2.names
  fault : ∀ table e, (execute x table).1 = .error e ↔ FirstFault source.Lacks ps e
  shared : ∀ table a table', execute x table = (.ok a, table') →
    ∀ s ∈ ps, source.Shared table' s

theorem reports_pure (a : α) : Reports source (pure a) [] :=
  ⟨fun _ => List.prefix_rfl, fun _ _ => iff_of_false nofun not_firstFault_nil, fun _ _ _ _ => nofun⟩

theorem Reports.bind {x : Renumbering α} {f : α → Renumbering β} {ps qs : List UInt64}
    (hx : Reports source x ps) (hf : ∀ a, Reports source (f a) qs) :
    Reports source (x >>= f) (ps ++ qs) where
  start table := by
    have hstart := hx.start table
    rw [execute_bind]
    generalize execute x table = result at hstart ⊢
    obtain ⟨fault | a, middle⟩ := result
    · exact hstart
    · exact hstart.trans ((hf a).start middle)
  fault table e := by
    have hx := hx.fault table
    rw [execute_bind, firstFault_append_iff]
    generalize execute x table = result at hx ⊢
    obtain ⟨fault | a, middle⟩ := result
    case error =>
      have hfirst (e' : Error) : FirstFault source.Lacks ps e' ↔ fault = e' := by
        rw [← hx e', Except.error.injEq]
      have hreached : ¬∀ e', ¬FirstFault source.Lacks ps e' :=
        fun h => h fault ((hfirst fault).2 rfl)
      change Except.error fault = .error e ↔ _
      rw [Except.error.injEq, hfirst e]
      exact ⟨.inl, fun h => h.resolve_right fun hlater => hreached hlater.1⟩
    case ok =>
      have hnone (e' : Error) : ¬FirstFault source.Lacks ps e' := fun h => nomatch (hx e').2 h
      rw [(hf a).fault middle e, or_iff_right (hnone e)]
      exact (and_iff_right hnone).symm
  shared table b table' h := by
    obtain ⟨a, middle, hfirst, hrest⟩ := exists_of_execute_bind h
    have hstart := (hf a).start middle
    rw [hrest] at hstart
    have hshared := hx.shared table a middle hfirst
    exact List.forall_mem_append.2
      ⟨fun s hs => SymbolTable.Shared.of_prefix (hshared s hs) hstart,
        (hf a).shared middle b table' hrest⟩

theorem Reports.map {x : Renumbering α} {ps : List UInt64} (hx : Reports source x ps) (f : α → β) :
    Reports source (x >>= fun a => pure (f a)) ps := by
  have h := hx.bind fun a => reports_pure (f a)
  rwa [List.append_nil] at h

theorem reports_mapM {f : α → Renumbering β} {positions : α → List UInt64}
    (hf : ∀ x, Reports source (f x) (positions x)) (xs : List α) :
    Reports source (xs.mapM f) (xs.flatMap positions) := by
  induction xs with
  | nil => exact reports_pure []
  | cons x xs ih =>
    rw [List.mapM_cons]
    exact (hf x).bind fun y => ih.map (y :: ·)

theorem reports_symbol (source : SymbolTable) (position : UInt64) :
    Reports source (symbol source position) [position] := by
  rw [symbol]
  cases hresolve : source.resolve? position with
  | none =>
    refine ⟨fun _ => List.prefix_rfl, fun table e => ?_, ?_⟩
    · rw [firstFault_singleton_iff, SymbolTable.Lacks]
      change Except.error (Error.format (.unknownSymbol position)) = .error e ↔ _
      rw [Except.error.injEq]
      exact ⟨fun h => ⟨hresolve, h.symm⟩, fun h => h.2.symm⟩
    · rintro table a table' ⟨⟩
  | some name =>
    refine ⟨fun table => SymbolTable.prefix_intern table name, fun table e => ?_, ?_⟩
    · rw [firstFault_singleton_iff, SymbolTable.Lacks, hresolve]
      constructor
      · rintro ⟨⟩
      · rintro ⟨⟨⟩, -⟩
    · rintro table a table' h
      rw [List.forall_mem_singleton]
      cases h
      have hfind := SymbolTable.find?_intern table name
      exact ⟨name, hresolve, SymbolTable.mem_names_of_find? hfind⟩

theorem reports_variableName (source : SymbolTable) (position : UInt32) :
    Reports source (variableName source position) [position.toUInt64] :=
  (reports_symbol source position.toUInt64).map UInt64.toUInt32

variable (source)

mutual

theorem reports_term : (t : Term) →
    Reports source (t.traverse (variableName source) (symbol source)) t.positions
  | .var v => by
    rw [TermOf.traverse]
    exact (reports_variableName source v).map TermOf.var
  | .str s => by
    rw [TermOf.traverse]
    exact (reports_symbol source s).map TermOf.str
  | .set elements => by
    rw [TermOf.traverse]
    exact (reports_terms elements).map TermOf.ofElements
  | .integer _ => by
    rw [TermOf.traverse]
    exact reports_pure _
  | .date _ => by
    rw [TermOf.traverse]
    exact reports_pure _
  | .bytes _ => by
    rw [TermOf.traverse]
    exact reports_pure _
  | .bool _ => by
    rw [TermOf.traverse]
    exact reports_pure _

theorem reports_terms : (ts : List Term) →
    Reports source (TermOf.traverseList (variableName source) (symbol source) ts)
      (TermOf.positionsOfAll ts)
  | [] => by
    rw [TermOf.traverseList]
    exact reports_pure _
  | t :: ts => by
    rw [TermOf.traverseList]
    exact (reports_term t).bind fun t' => (reports_terms ts).map (t' :: ·)

end

theorem reports_predicate (p : Predicate) :
    Reports source (p.traverse (variableName source) (symbol source)) p.positions :=
  (reports_symbol source p.name).bind fun name =>
    (reports_mapM (reports_term source) p.terms).map (PredicateOf.mk name)

theorem reports_op (op : Op) :
    Reports source (op.traverse (variableName source) (symbol source)) op.positions := by
  cases op with
  | value t => exact (reports_term source t).map OpOf.value
  | unary _ => exact reports_pure _
  | binary _ => exact reports_pure _

theorem reports_rule (r : Rule) :
    Reports source (r.traverse (variableName source) (symbol source)) r.positions :=
  (reports_predicate source r.head).bind fun head =>
    (reports_mapM (reports_predicate source) r.body).bind fun body =>
      (reports_mapM (reports_mapM (reports_op source)) r.expressions).map (RuleOf.mk head body)

theorem reports_check (c : Check) :
    Reports source (c.traverse (variableName source) (symbol source)) c.positions :=
  (reports_mapM (reports_rule source) c.queries).map CheckOf.mk

theorem reports_block (b : Block) : Reports source (block source b) b.positions :=
  (reports_mapM (reports_predicate source) b.facts).bind fun _ =>
    (reports_mapM (reports_rule source) b.rules).bind fun _ =>
      (reports_mapM (reports_check source) b.checks).map _

theorem reports_token {scheme : Scheme} (t : Token scheme) :
    Reports t.symbols (token t) t.positions :=
  (reports_block t.symbols t.authority).bind fun _ =>
    (reports_mapM (reports_block t.symbols) t.blocks).map _

end Renumbering

namespace Verifier

variable {scheme : Scheme} {v : Verifier} {t : Token scheme}

/-- A verifier without a token refuses one exactly for the first position in its blocks that it has
    no string for. -/
theorem addToken_eq_error_iff (hnone : v.token = none) {e : Error} :
    (v.addToken t).2 = .error e ↔ FirstFault t.symbols.Lacks t.positions e := by
  have hrun := (Renumbering.reports_token t).fault v.symbols e
  rw [← hrun, execute, addToken, hnone]
  rcases (Renumbering.token t).run.run v.symbols with ⟨fault | loaded, symbols⟩
  · simp
  · simp

/-- A verifier without a token takes those whose blocks point to their own strings. -/
theorem addToken_eq_ok_iff (hnone : v.token = none) :
    (v.addToken t).2 = .ok () ↔ ∀ s ∈ t.positions, s.toNat < t.symbols.size :=
  calc (v.addToken t).2 = .ok ()
      ↔ ∀ e, (v.addToken t).2 ≠ .error e := eq_ok_iff_forall_ne_error
    _ ↔ ∀ e, ¬FirstFault t.symbols.Lacks t.positions e :=
      forall_congr' fun _ => not_congr (addToken_eq_error_iff hnone)
    _ ↔ ¬∃ s ∈ t.positions, ∃ e, t.symbols.Lacks s e := by
      rw [← exists_firstFault_iff, not_exists]
    _ ↔ ∀ s ∈ t.positions, s.toNat < t.symbols.size := by
      simp only [SymbolTable.exists_lacks_iff, not_exists, not_and, Nat.not_le]

end Verifier

end Warrant
