import Warrant.Proofs.Payload
import Warrant.Proofs.Translation

namespace Warrant

variable {α β γ : Type}

/-- Whether a computation only appends strings and what it makes is as it should be in all tables
    that go on from the one it leads to and whose positions have 32 bits. -/
def Leaves (x : StateM SymbolTable α) (good : SymbolTable → α → Prop) : Prop :=
  ∀ table, table.names <+: (x.run table).2.names ∧
    ∀ final : SymbolTable, (x.run table).2.names <+: final.names → final.size ≤ UInt32.size →
      good final (x.run table).1

theorem leaves_pure {good : SymbolTable → α → Prop} {a : α} (h : ∀ final, good final a) :
    Leaves (pure a) good := fun _ => ⟨List.prefix_rfl, fun final _ _ => h final⟩

theorem Leaves.bind {x : StateM SymbolTable α} {f : α → StateM SymbolTable β}
    {good : SymbolTable → α → Prop} {good' : SymbolTable → β → Prop} (hx : Leaves x good)
    (hf : ∀ a, Leaves (f a) fun final b => good final a → good' final b) :
    Leaves (x >>= f) good' := by
  intro table
  obtain ⟨hstart, hgood⟩ := hx table
  obtain ⟨hstart', hgood'⟩ := hf (x.run table).1 (x.run table).2
  refine ⟨hstart.trans hstart', fun final hfinal hsize => ?_⟩
  exact hgood' final hfinal hsize (hgood final (hstart'.trans hfinal) hsize)

theorem Leaves.map {x : StateM SymbolTable α} {f : α → β} {good : SymbolTable → α → Prop}
    {good' : SymbolTable → β → Prop} (hx : Leaves x good)
    (hf : ∀ final a, good final a → good' final (f a)) :
    Leaves (x >>= fun a => pure (f a)) good' :=
  hx.bind fun a => leaves_pure fun final => hf final a

/-- What is made of the items of a list reads back as the list if each of them does. -/
theorem leaves_mapM {f : α → StateM SymbolTable β} {read : SymbolTable → β → α} {xs : List α}
    (h : ∀ x ∈ xs, Leaves (f x) fun final y => read final y = x) :
    Leaves (xs.mapM f) fun final ys => ys.map (read final) = xs := by
  induction xs with
  | nil => exact leaves_pure fun _ => rfl
  | cons x xs ih =>
    obtain ⟨hx, hxs⟩ := List.forall_mem_cons.1 h
    rw [List.mapM_cons]
    refine hx.bind fun y => (ih hxs).map fun final ys hys hy => ?_
    rw [List.map_cons, hy, hys]

namespace SymbolTable

theorem leaves_intern (name : String) :
    Leaves (intern name) fun final s => final.resolve? s = some name := by
  refine fun table => ⟨prefix_intern table name, fun final hfinal hsize => ?_⟩
  refine resolve?_of_find? (hsize.trans (by decide)) ?_
  exact find?_of_prefix hfinal (find?_intern table name)

theorem name_of_resolve? {table : SymbolTable} {s : UInt64} {name : String}
    (h : table.resolve? s = some name) : table.name s = name := by
  rw [SymbolTable.name, h]

theorem leaves_internVariable (name : String) :
    Leaves (internVariable name) fun final v => final.resolve? v.toUInt64 = some name := by
  intro table
  obtain ⟨hstart, hresolve⟩ := leaves_intern name table
  refine ⟨hstart, fun final hfinal hsize => ?_⟩
  have hname : final.resolve? ((intern name).run table).1 = some name := hresolve final hfinal hsize
  have hlt : ((intern name).run table).1.toNat < UInt32.size :=
    (exists_resolve?_iff.1 ⟨name, hname⟩).trans_le hsize
  change final.resolve? ((intern name).run table).1.toUInt32.toUInt64 = some name
  rw [toUInt64_toUInt32 hlt]
  exact hname

end SymbolTable

/-- A set reads back as the set of what its elements read back as. -/
theorem TermOf.resolve_ofElements (symbols : SymbolTable) (ts : List Term) :
    (ofElements ts).resolve symbols = ofElements (ts.map (TermOf.resolve symbols)) := by
  rw [ofElements, resolve_set]
  refine congrArg TermOf.set (SortedList.ofList_congr fun t => ?_)
  simp only [List.mem_map, SortedList.mem_ofList]

theorem TermOf.traverseList_intern (ts : List Source.Term) :
    traverseList SymbolTable.internVariable SymbolTable.intern ts = ts.mapM intern := by
  induction ts with
  | nil => rw [traverseList, List.mapM_nil]
  | cons t ts ih =>
    rw [traverseList, ih, List.mapM_cons]
    rfl

/-! What is interned resolves to itself if its sets are in order. -/

theorem TermOf.leaves_intern {t : Source.Term} (h : t.Ordered) :
    Leaves (TermOf.intern t) fun final a => a.resolve final = t := by
  induction t using TermOf.induction with
  | var v =>
    refine (SymbolTable.leaves_internVariable v).map fun final a ha => ?_
    exact congrArg TermOf.var (SymbolTable.name_of_resolve? ha)
  | str s =>
    refine (SymbolTable.leaves_intern s).map fun final a ha => ?_
    exact congrArg TermOf.str (SymbolTable.name_of_resolve? ha)
  | set elements ih =>
    have hordered := allOrdered_iff.1 h.2
    rw [intern, traverse, traverseList_intern]
    refine (leaves_mapM fun e he => ih e he (hordered e he)).map fun final as has => ?_
    rw [resolve_ofElements, has, ofElements_of_ordered h]
  | _ => exact leaves_pure fun _ => rfl

theorem PredicateOf.leaves_intern {p : Source.Predicate} (h : ∀ t ∈ p.terms, t.Ordered) :
    Leaves (PredicateOf.intern p) fun final a => a.resolve final = p := by
  refine (SymbolTable.leaves_intern p.name).bind fun name => ?_
  refine (leaves_mapM fun t ht => TermOf.leaves_intern (h t ht)).map
    fun final terms hterms hname => ?_
  rw [resolve_eq, SymbolTable.name_of_resolve? hname, hterms]

/-- The operation with its names and strings replaced by positions. -/
def OpOf.intern (op : Source.Op) : StateM SymbolTable Op :=
  op.traverse SymbolTable.internVariable SymbolTable.intern

theorem OpOf.leaves_intern {op : Source.Op} (h : ∀ t ∈ op.term?, t.Ordered) :
    Leaves (OpOf.intern op) fun final a => a.resolve final = op := by
  cases op with
  | value t => exact (TermOf.leaves_intern (h t rfl)).map fun final a ha => congrArg OpOf.value ha
  | unary which => exact leaves_pure fun _ => rfl
  | binary which => exact leaves_pure fun _ => rfl

def ExpressionOf.intern (e : Source.Expression) : StateM SymbolTable Expression :=
  e.mapM OpOf.intern

theorem ExpressionOf.leaves_intern {e : Source.Expression}
    (h : ∀ op ∈ e, ∀ t ∈ op.term?, t.Ordered) :
    Leaves (ExpressionOf.intern e) fun final a => a.map (OpOf.resolve final) = e :=
  leaves_mapM fun op hop => OpOf.leaves_intern (h op hop)

theorem RuleOf.leaves_intern {r : Source.Rule} (h : ∀ t ∈ r.terms, t.Ordered) :
    Leaves (RuleOf.intern r) fun final a => a.resolve final = r := by
  have hpredicate (p : Source.Predicate) (hp : p ∈ r.head :: r.body) (t : Source.Term)
      (ht : t ∈ p.terms) : t.Ordered :=
    h t (List.mem_append_left _ (List.mem_flatMap.2 ⟨p, hp, ht⟩))
  have hop (e : Source.Expression) (he : e ∈ r.expressions) (op : Source.Op) (hop : op ∈ e)
      (t : Source.Term) (ht : t ∈ op.term?) : t.Ordered :=
    h t (List.mem_append_right _ (List.mem_flatMap.2 ⟨e, he, List.mem_filterMap.2 ⟨op, hop, ht⟩⟩))
  refine (PredicateOf.leaves_intern (hpredicate r.head List.mem_cons_self)).bind fun head => ?_
  refine (leaves_mapM fun p hp =>
    PredicateOf.leaves_intern (hpredicate p (List.mem_cons_of_mem _ hp))).bind fun body => ?_
  refine (leaves_mapM fun e he => ExpressionOf.leaves_intern (hop e he)).map
    fun final expressions hexpressions hbody hhead => ?_
  rw [resolve_eq, hhead, hbody, hexpressions]

theorem CheckOf.leaves_intern {c : Source.Check}
    (h : ∀ query ∈ c.queries, ∀ t ∈ query.terms, t.Ordered) :
    Leaves (CheckOf.intern c) fun final a => a.queries.map (RuleOf.resolve final) = c.queries :=
  (leaves_mapM fun query hquery => RuleOf.leaves_intern (h query hquery)).map fun _ _ h => h

theorem PolicyOf.leaves_intern {p : Source.Policy}
    (h : ∀ query ∈ p.queries, ∀ t ∈ query.terms, t.Ordered) :
    Leaves (PolicyOf.intern p) fun final a =>
      a.queries.map (RuleOf.resolve final) = p.queries ∧ a.kind = p.kind :=
  (leaves_mapM fun query hquery => RuleOf.leaves_intern (h query hquery)).map
    fun _ _ h => ⟨h, rfl⟩

/-- What a computation makes is as it should be in the table that it leads to. -/
theorem Leaves.run {x : StateM SymbolTable α} {good : SymbolTable → α → Prop} (hx : Leaves x good)
    {table : SymbolTable} (hsize : (x.run table).2.size ≤ UInt32.size) :
    good (x.run table).2 (x.run table).1 := (hx table).2 _ List.prefix_rfl hsize

end Warrant
