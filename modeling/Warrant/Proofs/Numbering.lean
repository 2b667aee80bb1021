import Mathlib.Data.List.Nodup
import Mathlib.Logic.Equiv.Defs
import Warrant.Proofs.TermOrder
import Warrant.Verifier

namespace Warrant

namespace SortedList

variable {α : Type} [Ord α] [Std.TransOrd α] [Std.LawfulEqOrd α]

/-- Lists of the same elements are one in increasing order. -/
theorem ofList_congr {xs ys : List α} (h : ∀ x, x ∈ xs ↔ x ∈ ys) : ofList xs = ofList ys := by
  have hperm : (ofList xs).Perm (ofList ys) := by
    rw [List.perm_ext_iff_of_nodup (nodup_ofList xs) (nodup_ofList ys)]
    simp only [mem_ofList, h, implies_true]
  refine hperm.eq_of_pairwise (fun a b _ _ hab hba => ?_) (pairwise_ofList xs) (pairwise_ofList ys)
  rw [Std.OrientedOrd.eq_swap, hba] at hab
  cases hab

/-- Putting distinct elements in order keeps their number. -/
theorem length_ofList {xs : List α} (h : xs.Nodup) : (ofList xs).length = xs.length := by
  refine List.Perm.length_eq ?_
  rw [List.perm_ext_iff_of_nodup (nodup_ofList xs) h]
  exact fun _ => mem_ofList

end SortedList

theorem map_eq_self_iff {α : Type} {f : α → α} {xs : List α} :
    xs.map f = xs ↔ ∀ x ∈ xs, f x = x := by
  have h := @List.map_inj_left _ _ xs f id
  rwa [List.map_id] at h

theorem mem_map_perm_iff {α : Type} {f : Equiv.Perm α} {xs : List α} {a : α} :
    a ∈ xs.map f ↔ f.symm a ∈ xs := by
  simp [List.mem_map, ← Equiv.eq_symm_apply]

section

variable {V S : Type} (f : V → UInt32) (g : S → UInt64)

mutual

/-- The term with numbers for its names and strings. A set is put in order again. -/
def TermOf.numbered : TermOf V S → Term
  | var v => var (f v)
  | integer i => integer i
  | str s => str (g s)
  | date d => date d
  | bytes b => bytes b
  | bool b => bool b
  | set elements => ofElements (numberedList elements)

def TermOf.numberedList : List (TermOf V S) → List Term
  | [] => []
  | t :: ts => t.numbered :: numberedList ts

end

def PredicateOf.numbered (p : PredicateOf V S) : Predicate :=
  ⟨g p.name, p.terms.map (TermOf.numbered f g)⟩

def OpOf.numbered : OpOf V S → Op
  | value t => value (t.numbered f g)
  | unary which => unary which
  | binary which => binary which

def RuleOf.numbered (r : RuleOf V S) : Rule :=
  ⟨r.head.numbered f g, r.body.map (PredicateOf.numbered f g),
    r.expressions.map (List.map (OpOf.numbered f g))⟩

def CheckOf.numbered (c : CheckOf V S) : Check := ⟨c.queries.map (RuleOf.numbered f g)⟩

def PolicyOf.numbered (p : PolicyOf V S) : Policy := ⟨p.queries.map (RuleOf.numbered f g), p.kind⟩

end

def Block.numbered (f : UInt32 → UInt32) (g : UInt64 → UInt64) (b : Block) : Block :=
  { b with
    facts := b.facts.map (PredicateOf.numbered f g)
    rules := b.rules.map (RuleOf.numbered f g)
    checks := b.checks.map (CheckOf.numbered f g) }

def LoadedToken.numbered (f : UInt32 → UInt32) (g : UInt64 → UInt64) (t : LoadedToken) :
    LoadedToken :=
  { t with authority := t.authority.numbered f g, blocks := t.blocks.map (Block.numbered f g) }

variable {V S : Type} {f : V → UInt32} {g : S → UInt64} {f' : UInt32 → UInt32}
  {g' : UInt64 → UInt64}

namespace TermOf

/-- Terms are scalars, variables, and sets of terms. -/
@[induction_eliminator]
theorem induction {motive : TermOf V S → Prop} (var : ∀ v, motive (var v))
    (integer : ∀ i, motive (integer i)) (str : ∀ s, motive (str s)) (date : ∀ d, motive (date d))
    (bytes : ∀ b, motive (bytes b)) (bool : ∀ b, motive (bool b))
    (set : ∀ elements, (∀ e ∈ elements, motive e) → motive (set elements)) (t : TermOf V S) :
    motive t :=
  @TermOf.rec V S motive (fun elements => ∀ e ∈ elements, motive e) var integer str date bytes bool
    set (fun _ h => absurd h List.not_mem_nil)
    (fun _ _ h hs => List.forall_mem_cons.2 ⟨h, hs⟩) t

theorem numbered_set (elements : List (TermOf V S)) :
    (set elements).numbered f g = ofElements (elements.map (numbered f g)) := by
  have hlist : numberedList f g elements = elements.map (numbered f g) := by
    induction elements with
    | nil => rfl
    | cons t ts ih => rw [numberedList, ih, List.map_cons]
  rw [numbered, hlist]

@[simp]
theorem kind_numbered (t : TermOf V S) : (t.numbered f g).kind = t.kind := by
  cases t with
  | set elements => rw [numbered]; rfl
  | _ => rw [numbered]; rfl

@[simp]
theorem asVariable?_numbered (t : TermOf V S) :
    (t.numbered f g).asVariable? = t.asVariable?.map f := by
  cases t with
  | set elements => rw [numbered]; rfl
  | _ => rw [numbered]; rfl

theorem areGround_iff {ts : List (TermOf V S)} :
    areGround ts = true ↔ ∀ t ∈ ts, t.isGround = true := by
  induction ts with
  | nil => simp [areGround]
  | cons t ts ih => simp [areGround, ih]

theorem isGround_of_kind_ne {t : TermOf V S} (hvar : t.kind ≠ .var) (hset : t.kind ≠ .set) :
    t.isGround = true := by
  cases t with
  | var v => exact absurd rfl hvar
  | set elements => exact absurd rfl hset
  | _ => rfl

@[simp]
theorem isGround_numbered (t : TermOf V S) : (t.numbered f g).isGround = t.isGround := by
  induction t with
  | set elements ih =>
    rw [numbered_set, ofElements, isGround, isGround, Bool.eq_iff_iff, areGround_iff, areGround_iff]
    simp only [SortedList.mem_ofList, List.forall_mem_map]
    exact forall₂_congr fun e he => by rw [ih e he]
  | _ => rw [numbered]; rfl

theorem ofElements_congr {ts us : List Term} (h : ∀ t, t ∈ ts ↔ t ∈ us) :
    ofElements ts = ofElements us := congrArg set (SortedList.ofList_congr h)

/-- A set that is numbered is the set of its elements numbered. -/
theorem numbered_ofElements [Ord V] [Ord S] [Std.LawfulEqOrd (TermOf V S)]
    (ts : List (TermOf V S)) :
    (ofElements ts).numbered f g = ofElements (ts.map (numbered f g)) := by
  rw [ofElements, numbered_set]
  refine ofElements_congr fun t => ?_
  simp only [List.mem_map, SortedList.mem_ofList]

@[simp]
theorem numbered_numbered (t : TermOf V S) :
    (t.numbered f g).numbered f' g' = t.numbered (f' ∘ f) (g' ∘ g) := by
  induction t with
  | set elements ih =>
    rw [numbered_set, numbered_ofElements, numbered_set, List.map_map]
    exact congrArg ofElements (List.map_congr_left ih)
  | _ => simp only [numbered, Function.comp_apply]

/-- Whether the sets in a term are in order, so that numbering everything as it is changes
    nothing. -/
def Settled (t : Term) : Prop := t.numbered id id = t

theorem settled_numbered (t : TermOf V S) : (t.numbered f g).Settled := numbered_numbered t

theorem Settled.of_mem {elements : List Term} (h : (set elements).Settled) {t : Term}
    (ht : t ∈ elements) : t.Settled := by
  rw [Settled, numbered_set, ofElements, set.injEq] at h
  rw [← h, SortedList.mem_ofList] at ht
  obtain ⟨u, _, rfl⟩ := List.mem_map.1 ht
  exact settled_numbered u

theorem Settled.nodup {elements : List Term} (h : (set elements).Settled) : elements.Nodup := by
  rw [Settled, numbered_set, ofElements, set.injEq] at h
  rw [← h]
  exact SortedList.nodup_ofList _

/-- Numbers that are given back restore a term. -/
theorem Settled.numbered_symm {t : Term} (h : t.Settled) (f : Equiv.Perm UInt32)
    (g : Equiv.Perm UInt64) : (t.numbered f g).numbered f.symm g.symm = t := by
  rw [numbered_numbered, Equiv.symm_comp_self, Equiv.symm_comp_self]
  exact h

theorem Settled.numbered_inj {t u : Term} (ht : t.Settled) (hu : u.Settled)
    {f : Equiv.Perm UInt32} {g : Equiv.Perm UInt64} :
    t.numbered f g = u.numbered f g ↔ t = u := by
  refine ⟨fun h => ?_, congrArg _⟩
  rw [← ht.numbered_symm f g, h, hu.numbered_symm]

end TermOf

namespace PredicateOf

@[simp]
theorem numbered_numbered (p : PredicateOf V S) :
    (p.numbered f g).numbered f' g' = p.numbered (f' ∘ f) (g' ∘ g) := by
  simp [numbered]

theorem argVariables_numbered (p : PredicateOf V S) :
    (p.numbered f g).argVariables = p.argVariables.map f := by
  simp [argVariables, numbered, List.filterMap_map, List.map_filterMap]

theorem isGround_numbered (p : PredicateOf V S) : (p.numbered f g).isGround = p.isGround := by
  simp [isGround, numbered, Function.comp_def]

def Settled (p : Predicate) : Prop := p.numbered id id = p

theorem settled_numbered (p : PredicateOf V S) : (p.numbered f g).Settled := numbered_numbered p

theorem settled_iff {p : Predicate} : p.Settled ↔ ∀ t ∈ p.terms, t.Settled := by
  obtain ⟨name, terms⟩ := p
  rw [Settled, numbered, PredicateOf.mk.injEq, map_eq_self_iff]
  exact and_iff_right rfl

theorem Settled.numbered_symm {p : Predicate} (h : p.Settled) (f : Equiv.Perm UInt32)
    (g : Equiv.Perm UInt64) : (p.numbered f g).numbered f.symm g.symm = p := by
  rw [numbered_numbered, Equiv.symm_comp_self, Equiv.symm_comp_self]
  exact h

end PredicateOf

namespace OpOf

@[simp]
theorem numbered_numbered (op : OpOf V S) :
    (op.numbered f g).numbered f' g' = op.numbered (f' ∘ f) (g' ∘ g) := by
  cases op <;> simp [numbered]

theorem asVariable?_numbered (op : OpOf V S) :
    (op.numbered f g).asVariable? = op.asVariable?.map f := by
  cases op <;> simp [numbered, asVariable?]

def Settled (op : Op) : Prop := op.numbered id id = op

end OpOf

namespace RuleOf

@[simp]
theorem numbered_numbered (r : RuleOf V S) :
    (r.numbered f g).numbered f' g' = r.numbered (f' ∘ f) (g' ∘ g) := by
  simp [numbered]

def Settled (r : Rule) : Prop := r.numbered id id = r

theorem settled_numbered (r : RuleOf V S) : (r.numbered f g).Settled := numbered_numbered r

theorem settled_iff {r : Rule} :
    r.Settled ↔ r.head.Settled ∧ (∀ p ∈ r.body, p.Settled) ∧
      ∀ e ∈ r.expressions, ∀ op ∈ e, op.Settled := by
  obtain ⟨head, body, expressions⟩ := r
  simp only [Settled, numbered, RuleOf.mk.injEq, map_eq_self_iff, PredicateOf.Settled,
    OpOf.Settled]

theorem Settled.numbered_symm {r : Rule} (h : r.Settled) (f : Equiv.Perm UInt32)
    (g : Equiv.Perm UInt64) : (r.numbered f g).numbered f.symm g.symm = r := by
  rw [numbered_numbered, Equiv.symm_comp_self, Equiv.symm_comp_self]
  exact h

end RuleOf

/-- A body has the exchanged variables. -/
theorem RuleOf.mem_body_numbered_iff {f : Equiv.Perm UInt32} {g : UInt64 → UInt64} {r : Rule}
    {v : UInt32} :
    (∃ p ∈ (r.numbered f g).body, v ∈ p.argVariables) ↔
      ∃ p ∈ r.body, f.symm v ∈ p.argVariables := by
  have hone (p : Predicate) : v ∈ (p.numbered f g).argVariables ↔ f.symm v ∈ p.argVariables := by
    rw [PredicateOf.argVariables_numbered, mem_map_perm_iff]
  simp only [numbered, List.mem_map, ↓existsAndEq, and_true, hone]

@[simp]
theorem CheckOf.numbered_numbered (c : CheckOf V S) :
    (c.numbered f g).numbered f' g' = c.numbered (f' ∘ f) (g' ∘ g) := by
  simp [numbered]

@[simp]
theorem PolicyOf.numbered_numbered (p : PolicyOf V S) :
    (p.numbered f g).numbered f' g' = p.numbered (f' ∘ f) (g' ∘ g) := by
  simp [numbered]

theorem Block.numbered_numbered {f f' : UInt32 → UInt32} {g g' : UInt64 → UInt64} (b : Block) :
    (b.numbered f g).numbered f' g' = b.numbered (f' ∘ f) (g' ∘ g) := by
  simp [numbered]

/-- Whether the sets in a block are in order. -/
structure Block.Settled (b : Block) : Prop where
  facts : ∀ fact ∈ b.facts, fact.Settled
  rules : ∀ rule ∈ b.rules, rule.Settled
  checks : ∀ check ∈ b.checks, ∀ query ∈ check.queries, query.Settled

theorem Block.settled_numbered {f : UInt32 → UInt32} {g : UInt64 → UInt64} (b : Block) :
    (b.numbered f g).Settled where
  facts := List.forall_mem_map.2 fun fact _ => fact.settled_numbered
  rules := List.forall_mem_map.2 fun rule _ => rule.settled_numbered
  checks := List.forall_mem_map.2 fun _ _ => List.forall_mem_map.2 fun query _ =>
    query.settled_numbered

theorem LoadedToken.settled_numbered {f : UInt32 → UInt32} {g : UInt64 → UInt64}
    (t : LoadedToken) :
    ∀ b ∈ (t.numbered f g).authority :: (t.numbered f g).blocks, b.Settled :=
  List.forall_mem_cons.2 ⟨t.authority.settled_numbered,
    List.forall_mem_map.2 fun b _ => b.settled_numbered⟩

theorem LoadedToken.numbered_numbered {f f' : UInt32 → UInt32} {g g' : UInt64 → UInt64}
    (t : LoadedToken) : (t.numbered f g).numbered f' g' = t.numbered (f' ∘ f) (g' ∘ g) := by
  simp [numbered, Block.numbered_numbered, Function.comp_def]

end Warrant
