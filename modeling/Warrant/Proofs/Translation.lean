import Mathlib.Logic.Equiv.Fintype
import Warrant.Proofs.Answers
import Warrant.Proofs.Equivariance
import Warrant.Proofs.Interning
import Warrant.Proofs.Meaning

namespace Warrant

namespace SymbolTable

/-- The position in another table of the string at a position. -/
def translated (source target : SymbolTable) (s : UInt64) : UInt64 :=
  target.position (source.name s)

def translatedVariable (source target : SymbolTable) (v : UInt32) : UInt32 :=
  target.variablePosition (source.name v.toUInt64)

variable {source target : SymbolTable} {s s' : UInt64}

theorem Shared.resolve?_translated (h : source.Shared target s) (hsize : target.size ≤ UInt64.size) :
    target.resolve? (source.translated target s) = source.resolve? s := by
  obtain ⟨name, hresolve, hmem⟩ := h
  rw [translated, SymbolTable.name, hresolve]
  exact resolve?_of_find? hsize (find?_eq_position hmem)

theorem Shared.name_translated (h : source.Shared target s) (hsize : target.size ≤ UInt64.size) :
    target.name (source.translated target s) = source.name s := by
  have hresolve := h.resolve?_translated hsize
  obtain ⟨name, hname, -⟩ := h
  rw [SymbolTable.name, SymbolTable.name, hresolve, hname]

/-- Different strings are translated to different positions. -/
theorem Shared.translated_inj (h : source.Shared target s) (h' : source.Shared target s')
    (hsize : target.size ≤ UInt64.size)
    (hsame : source.translated target s = source.translated target s') : s = s' := by
  have hresolve := h.resolve?_translated hsize
  rw [hsame, h'.resolve?_translated hsize] at hresolve
  obtain ⟨name, hname, -⟩ := h'
  rw [← position_of_resolve? hname, ← position_of_resolve? (hresolve.symm.trans hname)]

theorem Shared.toUInt64_translatedVariable {v : UInt32} (h : source.Shared target v.toUInt64)
    (hsize : target.size < UInt32.size) :
    (source.translatedVariable target v).toUInt64 = source.translated target v.toUInt64 := by
  have hresolve := h.resolve?_translated (hsize.le.trans (by decide))
  obtain ⟨name, hname, -⟩ := h
  rw [hname] at hresolve
  exact toUInt64_toUInt32 ((exists_resolve?_iff.1 ⟨name, hresolve⟩).trans hsize)

/-- There are exchanges of all positions that translate the shared ones. -/
theorem exists_perm_translated (source : SymbolTable) (hsize : target.size < UInt32.size) :
    ∃ (f : Equiv.Perm UInt32) (g : Equiv.Perm UInt64),
      (∀ v, source.Shared target v.toUInt64 → f v = source.translatedVariable target v) ∧
        ∀ s, source.Shared target s → g s = source.translated target s := by
  have hsize' : target.size ≤ UInt64.size := hsize.le.trans (by decide)
  have : Finite UInt32 := .of_injective UInt32.toFin fun _ _ => UInt32.toFin_inj.1
  have : Finite UInt64 := .of_injective UInt64.toFin fun _ _ => UInt64.toFin_inj.1
  obtain ⟨f, hf⟩ := Equiv.Perm.exists_extending_pair
    (fun v : { v : UInt32 // source.Shared target v.toUInt64 } => v.1)
    (fun v => source.translatedVariable target v.1) Subtype.val_injective fun v w hsame => by
      have hsame := congrArg UInt32.toUInt64 hsame
      rw [v.2.toUInt64_translatedVariable hsize, w.2.toUInt64_translatedVariable hsize] at hsame
      exact Subtype.ext (UInt32.toUInt64_inj.1 (v.2.translated_inj w.2 hsize' hsame))
  obtain ⟨g, hg⟩ := Equiv.Perm.exists_extending_pair
    (fun s : { s : UInt64 // source.Shared target s } => s.1)
    (fun s => source.translated target s.1) Subtype.val_injective
    fun s t hsame => Subtype.ext (s.2.translated_inj t.2 hsize' hsame)
  exact ⟨f, g, fun v hv => hf ⟨v, hv⟩, fun s hs => hg ⟨s, hs⟩⟩

end SymbolTable

section

variable {V S : Type} {names : V → Prop} {strings : S → Prop} {f f' : V → UInt32}
  {g g' : S → UInt64} (hf : ∀ v, names v → f v = f' v) (hg : ∀ s, strings s → g s = g' s)
include hf hg

theorem TermOf.numbered_congr {t : TermOf V S} (h : t.Over names strings) :
    t.numbered f g = t.numbered f' g' := by
  induction t with
  | var v => rw [numbered, numbered, hf v h]
  | str s => rw [numbered, numbered, hg s h]
  | set elements ih =>
    rw [numbered_set, numbered_set]
    exact congrArg ofElements (List.map_congr_left fun e he => ih e he (allOver_iff.1 h e he))
  | _ => rfl

theorem OpOf.numbered_congr {op : OpOf V S} (h : op.Over names strings) :
    op.numbered f g = op.numbered f' g' := by
  cases op with
  | value t => rw [numbered, numbered, TermOf.numbered_congr hf hg h]
  | unary _ => rfl
  | binary _ => rfl

end

/-- Terms with increasing sets are left as they are when everything is numbered as it is. -/
theorem TermOf.Ordered.settled {t : Term} (h : t.Ordered) : t.Settled := by
  induction t using TermOf.induction with
  | set elements ih =>
    have helements := allOrdered_iff.1 h.2
    rw [Settled, numbered_set, map_eq_self_iff.2 fun e he => ih e he (helements e he)]
    exact ofElements_of_ordered h
  | _ => rfl

namespace Bindings

/-- Renumbering bindings renumbers what variables stand for. -/
theorem valuation_numbered (f : Equiv.Perm UInt32) (g : Equiv.Perm UInt64) (bindings : Bindings) :
    valuation (bindings.map (Prod.map f (TermOf.numbered f g))) =
      bindings.valuation.numbered f g := by
  funext v
  rw [Valuation.numbered, valuation, valuation]
  induction bindings with
  | nil => rfl
  | cons binding bindings ih =>
    obtain ⟨w, t⟩ := binding
    rw [List.map_cons, Prod.map_apply, List.lookup_cons, List.lookup_cons, ih]
    by_cases hsame : v = f w
    · subst hsame
      simp
    · have hother : f.symm v ≠ w := fun h => hsame (h ▸ (f.apply_symm_apply v).symm)
      rw [beq_false_of_ne hsame, beq_false_of_ne hother]

theorem mem_of_valuation {bindings : Bindings} {v : UInt32} {t : Term}
    (h : bindings.valuation v = some t) : (v, t) ∈ bindings := by
  obtain ⟨before, after, rfl, -⟩ := List.lookup_eq_some_iff.1 h
  exact List.mem_append_right before List.mem_cons_self

end Bindings

/-! What is translated has the same strings in the one table and in the other. -/

section

variable (source target : SymbolTable)

def TermOf.translated (t : Term) : Term :=
  t.numbered (source.translatedVariable target) (source.translated target)

def Expression.translated (e : Expression) : Expression :=
  e.map (OpOf.numbered (source.translatedVariable target) (source.translated target))

def Bindings.translated (bindings : Bindings) : Bindings :=
  bindings.map (Prod.map (source.translatedVariable target) (TermOf.translated source target))

/-- A block in other symbols. It introduces none. -/
def Block.translated (b : Block) : Block :=
  (Renumbering.content b).numbered (source.translatedVariable target) (source.translated target)

end

variable {source target : SymbolTable}

/-- The elements of a translated set are the translated elements. -/
theorem TermOf.exists_translated_set (elements : List Term) :
    ∃ others, TermOf.translated source target (.set elements) = .set others ∧
      ∀ t, t ∈ others ↔ ∃ e ∈ elements, TermOf.translated source target e = t := by
  refine ⟨_, numbered_set elements, fun t => ?_⟩
  rw [SortedList.mem_ofList, List.mem_map]
  rfl

/-- A translated expression has the translated value under translated bindings. -/
theorem freshValue?_translated (hsize : target.size < UInt32.size) {bindings : Bindings}
    (hbindings : ∀ binding ∈ bindings, source.Shared target binding.1.toUInt64 ∧
      binding.2.Over (fun v => source.Shared target v.toUInt64) (source.Shared target) ∧
        binding.2.Ordered)
    {e : Expression} (he : ∀ op ∈ e,
      op.Over (fun v => source.Shared target v.toUInt64) (source.Shared target) ∧
        ∀ t ∈ op.term?, t.Ordered) :
    freshValue? target (bindings.translated source target) (Expression.translated source target e) =
      (freshValue? source bindings e).map (TermOf.translated source target) := by
  obtain ⟨f, g, hf, hg⟩ := SymbolTable.exists_perm_translated source hsize
  have hterm {t : Term}
      (ht : t.Over (fun v => source.Shared target v.toUInt64) (source.Shared target)) :
      t.numbered f g = t.translated source target := TermOf.numbered_congr hf hg ht
  have hexpression : Expression.translated source target e = e.map (OpOf.numbered f g) :=
    List.map_congr_left fun op hop => (OpOf.numbered_congr hf hg (he op hop).1).symm
  have htranslated : bindings.translated source target =
      bindings.map (Prod.map f (TermOf.numbered f g)) := by
    refine List.map_congr_left fun binding hbinding => ?_
    obtain ⟨hvariable, hover, -⟩ := hbindings binding hbinding
    exact Prod.ext (hf _ hvariable).symm (hterm hover).symm
  have hresolve (s : UInt64) (hs : source.Shared target s) :
      target.resolve? (g s) = source.resolve? s := by
    rw [hg s hs, hs.resolve?_translated (hsize.le.trans (by decide))]
  have hσ (v : UInt32) (t : Term) (ht : bindings.valuation v = some t) :=
    hbindings _ (Bindings.mem_of_valuation ht)
  have hover (op : Op) (hop : op ∈ e) := (he op hop).1
  have hsettled (op : Op) (hop : op ∈ e) : op.Settled := by
    cases op with
    | value t => exact congrArg OpOf.value ((he _ hop).2 t rfl).settled
    | unary _ => rfl
    | binary _ => rfl
  have hvalue := value_numbered (f := f) hresolve (fun v t ht => (hσ v t ht).2.2.settled)
    (fun v t ht => (hσ v t ht).2.1) hsettled hover
  rw [freshValue?_eq_value, freshValue?_eq_value, htranslated, hexpression,
    Bindings.valuation_numbered, hvalue]
  exact Option.map_congr fun t ht => hterm (over_of_value (fun v t ht => (hσ v t ht).2.1) hover ht)

theorem TermOf.resolve_set (symbols : SymbolTable) (elements : List Term) :
    TermOf.resolve symbols (.set elements) = ofElements (elements.map (TermOf.resolve symbols)) := by
  have hlist : Id.run (traverseList (m := Id) (fun v => symbols.name v.toUInt64) symbols.name
      elements) = elements.map (TermOf.resolve symbols) := by
    induction elements with
    | nil => rfl
    | cons t ts ih =>
      rw [traverseList, List.map_cons, ← ih]
      rfl
  rw [TermOf.resolve, traverse, ← hlist]
  rfl

theorem PredicateOf.resolve_eq (symbols : SymbolTable) (p : Predicate) :
    p.resolve symbols = ⟨symbols.name p.name, p.terms.map (TermOf.resolve symbols)⟩ := by
  simp [resolve, traverse, TermOf.resolve]
  rfl

/-- An operation with its positions replaced by the strings that a table has there. -/
def OpOf.resolve (symbols : SymbolTable) (op : Op) : Source.Op :=
  Id.run (op.traverse (fun v => symbols.name v.toUInt64) symbols.name)

theorem RuleOf.resolve_eq (symbols : SymbolTable) (r : Rule) :
    r.resolve symbols = ⟨r.head.resolve symbols, r.body.map (PredicateOf.resolve symbols),
      r.expressions.map (List.map (OpOf.resolve symbols))⟩ := by
  simp [resolve, traverse, PredicateOf.resolve, OpOf.resolve]

section

variable (hsize : target.size < UInt32.size)
include hsize

/-- What is translated says the same as before. -/
theorem TermOf.resolve_translated {t : Term}
    (h : t.Over (fun v => source.Shared target v.toUInt64) (source.Shared target)) :
    (t.translated source target).resolve target = t.resolve source := by
  have hsize' : target.size ≤ UInt64.size := hsize.le.trans (by decide)
  induction t using TermOf.induction with
  | var v =>
    have hv : source.Shared target v.toUInt64 := h
    change TermOf.var (target.name (source.translatedVariable target v).toUInt64) = .var _
    rw [hv.toUInt64_translatedVariable hsize, hv.name_translated hsize']
  | str s => exact congrArg TermOf.str (SymbolTable.Shared.name_translated h hsize')
  | set elements ih =>
    rw [translated, numbered_set, ofElements, resolve_set, resolve_set]
    refine congrArg TermOf.set (SortedList.ofList_congr fun u => ?_)
    simp only [List.mem_map, SortedList.mem_ofList, ↓existsAndEq, and_true]
    refine exists_congr fun e => and_congr_right fun he => ?_
    rw [← ih e he (allOver_iff.1 h e he)]
    rfl
  | _ => rfl

theorem PredicateOf.resolve_translated {p : Predicate}
    (h : p.Over (fun v => source.Shared target v.toUInt64) (source.Shared target)
      (source.Shared target)) :
    (p.numbered (source.translatedVariable target) (source.translated target)).resolve target =
      p.resolve source := by
  have hsize' : target.size ≤ UInt64.size := hsize.le.trans (by decide)
  have hterms := List.map_congr_left fun t ht => TermOf.resolve_translated hsize (h.2 t ht)
  rw [resolve_eq, resolve_eq, numbered, h.1.name_translated hsize', List.map_map, ← hterms]
  rfl

theorem OpOf.resolve_translated {op : Op}
    (h : op.Over (fun v => source.Shared target v.toUInt64) (source.Shared target)) :
    (op.numbered (source.translatedVariable target) (source.translated target)).resolve target =
      op.resolve source := by
  cases op with
  | value t => exact congrArg OpOf.value (TermOf.resolve_translated hsize h)
  | unary _ => rfl
  | binary _ => rfl

theorem RuleOf.resolve_translated {r : Rule}
    (h : r.Over (fun v => source.Shared target v.toUInt64) (source.Shared target)
      (source.Shared target) (source.Shared target)) :
    (r.numbered (source.translatedVariable target) (source.translated target)).resolve target =
      r.resolve source := by
  have hbody := List.map_congr_left fun p hp =>
    PredicateOf.resolve_translated hsize (h.body p hp)
  have hexpressions := List.map_congr_left fun e he =>
    List.map_congr_left fun op hop => OpOf.resolve_translated hsize (h.expressions e he op hop)
  rw [resolve_eq, resolve_eq, numbered, PredicateOf.resolve_translated hsize h.head,
    List.map_map, List.map_map, ← hbody, ← hexpressions]
  simp [Function.comp_def]

theorem Block.draft_translated {b : Block}
    (h : b.Over (fun v => source.Shared target v.toUInt64) (source.Shared target)
      (source.Shared target)) :
    (b.translated source target).draft target = b.draft source := by
  have hfacts := List.map_congr_left fun fact hfact =>
    PredicateOf.resolve_translated hsize (h.facts fact hfact)
  have hrules := List.map_congr_left fun rule hrule =>
    RuleOf.resolve_translated hsize (h.rules rule hrule)
  have hchecks : b.checks.map (fun check => (⟨(check.numbered (source.translatedVariable target)
        (source.translated target)).queries.map (RuleOf.resolve target)⟩ : Source.Check)) =
      b.checks.map fun check => ⟨check.queries.map (RuleOf.resolve source)⟩ := by
    refine List.map_congr_left fun check hcheck => congrArg CheckOf.mk ?_
    rw [CheckOf.numbered, List.map_map]
    exact List.map_congr_left fun query hquery =>
      RuleOf.resolve_translated hsize (h.checks check hcheck query hquery)
  rw [draft, draft, ← hfacts, ← hrules, ← hchecks]
  simp [translated, Renumbering.content, Block.numbered, Function.comp_def]

end

end Warrant
