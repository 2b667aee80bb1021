import Mathlib.Data.Set.Basic
import Warrant.Proofs.Execution
import Warrant.Proofs.Numbering
import Warrant.Proofs.Positions

namespace Warrant

/-- Computations that number strings. One that ends leads from a table to a result and another
    table. -/
class Numbers (m : Type → Type) [Monad m] where
  Ends {α : Type} (x : m α) (table : SymbolTable) (a : α) (table' : SymbolTable) : Prop
  ends_pure {α : Type} {a b : α} {table table' : SymbolTable} (h : Ends (pure a) table b table') :
    b = a ∧ table' = table
  ends_bind {α β : Type} {x : m α} {f : α → m β} {table table' : SymbolTable} {b : β}
    (h : Ends (x >>= f) table b table') :
    ∃ a middle, Ends x table a middle ∧ Ends (f a) middle b table'

instance : Numbers (StateM SymbolTable) where
  Ends x table a table' := x.run table = (a, table')
  ends_pure h := by
    cases h
    exact ⟨rfl, rfl⟩
  ends_bind h := ⟨_, _, rfl, h⟩

instance : Numbers Renumbering where
  Ends x table a table' := execute x table = (.ok a, table')
  ends_pure h := by
    rw [execute_pure] at h
    cases h
    exact ⟨rfl, rfl⟩
  ends_bind h := exists_of_execute_bind h

variable {m : Type → Type} [Monad m] [Numbers m] {α β : Type}

/-- Whether a computation appends some strings and no others, and makes what is made with the
    positions that strings have in any table that goes on from its own. -/
def Interns (x : m α) (names : Set String) (made : SymbolTable → α) : Prop :=
  ∀ table a table', Numbers.Ends x table a table' →
    table.names <+: table'.names ∧
      (∀ name, name ∈ table'.names ↔ name ∈ table.names ∨ name ∈ names) ∧
        ∀ final : SymbolTable, table'.names <+: final.names → a = made final

theorem interns_pure (a : α) : Interns (pure a : m α) ∅ fun _ => a := by
  intro table b table' h
  obtain ⟨rfl, rfl⟩ := Numbers.ends_pure h
  exact ⟨List.prefix_rfl, by simp, fun _ _ => rfl⟩

theorem Interns.bind {x : m α} {f : α → m β} {names names' : Set String} {made : SymbolTable → α}
    {made' : SymbolTable → α → β} (hx : Interns x names made)
    (hf : ∀ a, Interns (f a) names' fun final => made' final a) :
    Interns (x >>= f) (names ∪ names') fun final => made' final (made final) := by
  intro table b table' h
  obtain ⟨a, middle, hfirst, hrest⟩ := Numbers.ends_bind h
  obtain ⟨hstart, hnames, hmade⟩ := hx _ _ _ hfirst
  obtain ⟨hstart', hnames', hmade'⟩ := hf a _ _ _ hrest
  refine ⟨hstart.trans hstart', fun name => ?_, fun final hfinal => ?_⟩
  · rw [hnames', hnames, or_assoc, Set.mem_union]
  · rw [hmade' final hfinal, hmade final (hstart'.trans hfinal)]

/-- What is made of the result is made of what the computation makes. -/
theorem Interns.map {x : m α} {names : Set String} {made : SymbolTable → α}
    (hx : Interns x names made) (f : α → β) :
    Interns (x >>= fun a => pure (f a)) names fun final => f (made final) := by
  have hbind := hx.bind (f := fun a => pure (f a)) fun a => interns_pure (m := m) (f a)
  rwa [Set.union_empty] at hbind

theorem exists_interns_mapM [LawfulMonad m] {f : α → m β} {made : SymbolTable → α → β} {xs : List α}
    (hf : ∀ x ∈ xs, ∃ names, Interns (f x) names fun final => made final x) :
    ∃ names, Interns (xs.mapM f) names fun final => xs.map (made final) := by
  induction xs with
  | nil => exact ⟨∅, interns_pure []⟩
  | cons x xs ih =>
    obtain ⟨⟨names, hx⟩, hf⟩ := List.forall_mem_cons.1 hf
    obtain ⟨names', hxs⟩ := ih hf
    rw [List.mapM_cons]
    exact ⟨names ∪ names', hx.bind fun y => hxs.map fun ys => y :: ys⟩

section

variable [LawfulMonad m] {V S : Type} {onVariable : V → m UInt32} {onString : S → m UInt64}
  {f : SymbolTable → V → UInt32} {g : SymbolTable → S → UInt64}
  (hf : ∀ v, ∃ names, Interns (onVariable v) names fun final => f final v)
  (hg : ∀ s, ∃ names, Interns (onString s) names fun final => g final s)
include hf hg

/-- A term is numbered by positions of its names and strings. -/
theorem TermOf.exists_interns (t : TermOf V S) :
    ∃ names, Interns (t.traverse onVariable onString) names fun final =>
      t.numbered (f final) (g final) := by
  induction t with
  | var v =>
    obtain ⟨names, hv⟩ := hf v
    exact ⟨names, hv.map TermOf.var⟩
  | str s =>
    obtain ⟨names, hs⟩ := hg s
    exact ⟨names, hs.map TermOf.str⟩
  | set elements ih =>
    have hlist : TermOf.traverseList onVariable onString elements =
        elements.mapM fun t => t.traverse onVariable onString := by
      clear ih
      induction elements with
      | nil => rw [TermOf.traverseList, List.mapM_nil]
      | cons t ts ih => rw [TermOf.traverseList, ih, List.mapM_cons]
    obtain ⟨names, helements⟩ := exists_interns_mapM ih
    refine ⟨names, ?_⟩
    simp only [numbered_set, TermOf.traverse, hlist]
    exact helements.map ofElements
  | _ =>
    refine ⟨∅, ?_⟩
    simp only [TermOf.traverse, TermOf.numbered]
    exact interns_pure _

theorem PredicateOf.exists_interns (p : PredicateOf V S) :
    ∃ names, Interns (p.traverse onVariable onString) names fun final =>
      p.numbered (f final) (g final) := by
  obtain ⟨names, hname⟩ := hg p.name
  obtain ⟨names', hterms⟩ := exists_interns_mapM fun t (_ : t ∈ p.terms) => t.exists_interns hf hg
  exact ⟨_, hname.bind fun name => hterms.map (PredicateOf.mk name)⟩

theorem OpOf.exists_interns (op : OpOf V S) :
    ∃ names, Interns (op.traverse onVariable onString) names fun final =>
      op.numbered (f final) (g final) := by
  cases op with
  | value t =>
    obtain ⟨names, ht⟩ := t.exists_interns hf hg
    exact ⟨names, ht.map OpOf.value⟩
  | unary which => exact ⟨∅, interns_pure _⟩
  | binary which => exact ⟨∅, interns_pure _⟩

theorem RuleOf.exists_interns (r : RuleOf V S) :
    ∃ names, Interns (r.traverse onVariable onString) names fun final =>
      r.numbered (f final) (g final) := by
  obtain ⟨_, hhead⟩ := r.head.exists_interns hf hg
  obtain ⟨_, hbody⟩ := exists_interns_mapM fun p (_ : p ∈ r.body) => p.exists_interns hf hg
  obtain ⟨_, hexpressions⟩ := exists_interns_mapM fun e (_ : e ∈ r.expressions) =>
    exists_interns_mapM fun op (_ : op ∈ e) => op.exists_interns hf hg
  exact ⟨_, hhead.bind fun head => hbody.bind fun body =>
    hexpressions.map (RuleOf.mk head body)⟩

theorem CheckOf.exists_interns (c : CheckOf V S) :
    ∃ names, Interns (c.traverse onVariable onString) names fun final =>
      c.numbered (f final) (g final) := by
  obtain ⟨names, hqueries⟩ := exists_interns_mapM fun q (_ : q ∈ c.queries) =>
    q.exists_interns hf hg
  exact ⟨names, hqueries.map CheckOf.mk⟩

theorem PolicyOf.exists_interns (p : PolicyOf V S) :
    ∃ names, Interns (p.traverse onVariable onString) names fun final =>
      p.numbered (f final) (g final) := by
  obtain ⟨names, hqueries⟩ := exists_interns_mapM fun q (_ : q ∈ p.queries) =>
    q.exists_interns hf hg
  exact ⟨names, hqueries.map fun queries => PolicyOf.mk queries p.kind⟩

end

/-- A string is put where it is found ever after. -/
theorem interns_intern (name : String) :
    Interns (SymbolTable.intern name) {name} fun final => final.position name := by
  intro table a table' h
  have hrun : (SymbolTable.intern name).run table = (a, table') := h
  have hfind := SymbolTable.find?_intern table name
  have hstart := SymbolTable.prefix_intern table name
  have hnames {other : String} :
      other ∈ ((SymbolTable.intern name).run table).2.names → other ∈ table.names ∨ other = name :=
    SymbolTable.mem_names_intern
  rw [hrun] at hfind hstart hnames
  refine ⟨hstart, fun other => ⟨hnames, ?_⟩, fun final hfinal => ?_⟩
  · rintro (hother | rfl)
    · exact hstart.subset hother
    · exact SymbolTable.mem_names_of_find? hfind
  · change a = final.position name
    rw [SymbolTable.position, SymbolTable.find?_of_prefix hfinal hfind, Option.getD_some]

theorem interns_internVariable (name : String) :
    Interns (SymbolTable.internVariable name) {name} fun final => final.variablePosition name :=
  (interns_intern name).map UInt64.toUInt32

section

/-! Statements are numbered by the positions of what is written in them. -/

private theorem hasInternedVariables (name : String) :
    ∃ names, Interns (SymbolTable.internVariable name) names fun final =>
      final.variablePosition name := ⟨_, interns_internVariable name⟩

private theorem hasInternedStrings (name : String) :
    ∃ names, Interns (SymbolTable.intern name) names fun final => final.position name :=
  ⟨_, interns_intern name⟩

theorem TermOf.exists_interns_intern (t : Source.Term) :
    ∃ names, Interns (TermOf.intern t) names fun final =>
      t.numbered final.variablePosition final.position :=
  t.exists_interns hasInternedVariables hasInternedStrings

theorem PredicateOf.exists_interns_intern (p : Source.Predicate) :
    ∃ names, Interns (PredicateOf.intern p) names fun final =>
      p.numbered final.variablePosition final.position :=
  p.exists_interns hasInternedVariables hasInternedStrings

theorem RuleOf.exists_interns_intern (r : Source.Rule) :
    ∃ names, Interns (RuleOf.intern r) names fun final =>
      r.numbered final.variablePosition final.position :=
  r.exists_interns hasInternedVariables hasInternedStrings

theorem CheckOf.exists_interns_intern (c : Source.Check) :
    ∃ names, Interns (CheckOf.intern c) names fun final =>
      c.numbered final.variablePosition final.position :=
  c.exists_interns hasInternedVariables hasInternedStrings

theorem PolicyOf.exists_interns_intern (p : Source.Policy) :
    ∃ names, Interns (PolicyOf.intern p) names fun final =>
      p.numbered final.variablePosition final.position :=
  p.exists_interns hasInternedVariables hasInternedStrings

/-- What is interned is made with the positions of the table that it leads to. -/
theorem Interns.fst_run {x : StateM SymbolTable α} {names : Set String} {made : SymbolTable → α}
    (hx : Interns x names made) (table : SymbolTable) :
    (x.run table).1 = made (x.run table).2 :=
  (hx table _ _ rfl).2.2 _ List.prefix_rfl

end

namespace Renumbering

/-- A position that can be numbered anew becomes that of its string. -/
theorem exists_interns_symbol (source : SymbolTable) (position : UInt64) :
    ∃ names, Interns (symbol source position) names fun final =>
      final.position (source.name position) := by
  cases hresolve : source.resolve? position with
  | none =>
    refine ⟨∅, fun table a table' h => ?_⟩
    have hrun : execute (symbol source position) table = (.ok a, table') := h
    rw [symbol, hresolve] at hrun
    cases hrun
  | some name =>
    refine ⟨{name}, fun table a table' h => ?_⟩
    have hrun : execute (symbol source position) table = (.ok a, table') := h
    rw [symbol, hresolve] at hrun
    cases hrun
    have hname : source.name position = name := by rw [SymbolTable.name, hresolve]
    rw [hname]
    exact interns_intern name table _ _ rfl

theorem exists_interns_variableName (source : SymbolTable) (position : UInt32) :
    ∃ names, Interns (variableName source position) names fun final =>
      final.variablePosition (source.name position.toUInt64) := by
  obtain ⟨names, h⟩ := exists_interns_symbol source position.toUInt64
  exact ⟨names, h.map UInt64.toUInt32⟩

/-- What is renumbered of a block. -/
def content (b : Block) : Block := { b with symbols := .empty }

theorem exists_interns_block (source : SymbolTable) (b : Block) :
    ∃ names, Interns (block source b) names fun final =>
      (content b).numbered (fun v => final.variablePosition (source.name v.toUInt64))
        fun s => final.position (source.name s) := by
  have hf := exists_interns_variableName source
  have hg := exists_interns_symbol source
  obtain ⟨_, hfacts⟩ := exists_interns_mapM fun p (_ : p ∈ b.facts) => p.exists_interns hf hg
  obtain ⟨_, hrules⟩ := exists_interns_mapM fun r (_ : r ∈ b.rules) => r.exists_interns hf hg
  obtain ⟨_, hchecks⟩ := exists_interns_mapM fun c (_ : c ∈ b.checks) => c.exists_interns hf hg
  have hall := hfacts.bind fun facts => hrules.bind fun rules => hchecks.map fun checks =>
    ({ b with symbols := .empty, facts := facts, rules := rules, checks := checks } : Block)
  exact ⟨_, hall⟩

/-- The content of a token with the positions that a table has for its strings. -/
def placed {scheme : Scheme} (t : Token scheme) (final : SymbolTable) : LoadedToken :=
  LoadedToken.numbered (fun v => final.variablePosition (t.symbols.name v.toUInt64))
    (fun s => final.position (t.symbols.name s))
    ⟨content t.authority, t.blocks.map content, t.revocationIds⟩

theorem exists_interns_token {scheme : Scheme} (t : Token scheme) :
    ∃ names, Interns (token t) names (placed t) := by
  obtain ⟨_, hauthority⟩ := exists_interns_block t.symbols t.authority
  obtain ⟨_, hblocks⟩ := exists_interns_mapM fun b (_ : b ∈ t.blocks) =>
    exists_interns_block t.symbols b
  have hall := hauthority.bind fun authority => hblocks.map fun blocks =>
    LoadedToken.mk authority blocks t.revocationIds
  unfold placed
  simp only [LoadedToken.numbered, List.map_map]
  exact ⟨_, hall⟩

end Renumbering

end Warrant
