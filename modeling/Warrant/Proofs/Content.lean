import Warrant.Block

namespace Warrant

variable {V S V' S' : Type}

namespace TermOf

mutual

/-- Whether the variables of a term are among some names and its strings among others, at any
    depth. -/
def Over (names : V → Prop) (strings : S → Prop) : TermOf V S → Prop
  | var v => names v
  | str s => strings s
  | set elements => AllOver names strings elements
  | _ => True

def AllOver (names : V → Prop) (strings : S → Prop) : List (TermOf V S) → Prop
  | [] => True
  | t :: ts => Over names strings t ∧ AllOver names strings ts

end

mutual

def decidableOver (names : V → Prop) (strings : S → Prop) [DecidablePred names]
    [DecidablePred strings] : (t : TermOf V S) → Decidable (t.Over names strings)
  | var v => inferInstanceAs (Decidable (names v))
  | str s => inferInstanceAs (Decidable (strings s))
  | set elements => decidableAllOver names strings elements
  | integer _ => .isTrue trivial
  | date _ => .isTrue trivial
  | bytes _ => .isTrue trivial
  | bool _ => .isTrue trivial

def decidableAllOver (names : V → Prop) (strings : S → Prop) [DecidablePred names]
    [DecidablePred strings] : (ts : List (TermOf V S)) → Decidable (AllOver names strings ts)
  | [] => .isTrue trivial
  | t :: ts =>
    have := decidableOver names strings t
    have := decidableAllOver names strings ts
    inferInstanceAs (Decidable (t.Over names strings ∧ AllOver names strings ts))

end

instance (names : V → Prop) (strings : S → Prop) [DecidablePred names] [DecidablePred strings]
    (t : TermOf V S) : Decidable (t.Over names strings) := decidableOver names strings t

theorem allOver_iff {names : V → Prop} {strings : S → Prop} {ts : List (TermOf V S)} :
    AllOver names strings ts ↔ ∀ t ∈ ts, t.Over names strings := by
  induction ts with
  | nil => simp [AllOver]
  | cons t ts ih => simp [AllOver, ih]

section

variable {names names' : V → Prop} {strings strings' : S → Prop}

mutual

theorem Over.imp (hnames : ∀ v, names v → names' v) (hstrings : ∀ s, strings s → strings' s) :
    (t : TermOf V S) → t.Over names strings → t.Over names' strings'
  | var v, h => hnames v h
  | str s, h => hstrings s h
  | set elements, h => AllOver.imp hnames hstrings elements h
  | integer _, _ => trivial
  | date _, _ => trivial
  | bytes _, _ => trivial
  | bool _, _ => trivial

theorem AllOver.imp (hnames : ∀ v, names v → names' v) (hstrings : ∀ s, strings s → strings' s) :
    (ts : List (TermOf V S)) → AllOver names strings ts → AllOver names' strings' ts
  | [], _ => trivial
  | t :: ts, h => ⟨Over.imp hnames hstrings t h.1, AllOver.imp hnames hstrings ts h.2⟩

end

end

mutual

/-- Every term is over all names and strings. -/
theorem over_true : (t : TermOf V S) → t.Over (fun _ => True) fun _ => True
  | var _ => trivial
  | str _ => trivial
  | set elements => allOver_true elements
  | integer _ => trivial
  | date _ => trivial
  | bytes _ => trivial
  | bool _ => trivial

theorem allOver_true : (ts : List (TermOf V S)) → AllOver (fun _ => True) (fun _ => True) ts
  | [] => trivial
  | t :: ts => ⟨over_true t, allOver_true ts⟩

end

theorem over_ofElements [Ord V] [Ord S] {names : V → Prop} {strings : S → Prop}
    {elements : List (TermOf V S)} (h : ∀ t ∈ elements, t.Over names strings) :
    (ofElements elements).Over names strings :=
  allOver_iff.2 fun t ht => h t (SortedList.mem_of_mem_ofList ht)

variable {m : Type → Type} [Monad m] [Ord V'] [Ord S'] {f f' : V → m V'} {g g' : S → m S'}
  {names : V → Prop} {strings : S → Prop}

mutual

/-- What happens to other variables and strings than those of a term does not matter to it. -/
theorem traverse_congr (hf : ∀ v, names v → f v = f' v) (hg : ∀ s, strings s → g s = g' s) :
    (t : TermOf V S) → t.Over names strings → t.traverse f g = t.traverse f' g'
  | var v, h => by rw [traverse, traverse, hf v h]
  | str s, h => by rw [traverse, traverse, hg s h]
  | set elements, h => by rw [traverse, traverse, traverseList_congr hf hg elements h]
  | integer _, _ => by rw [traverse, traverse]
  | date _, _ => by rw [traverse, traverse]
  | bytes _, _ => by rw [traverse, traverse]
  | bool _, _ => by rw [traverse, traverse]

theorem traverseList_congr (hf : ∀ v, names v → f v = f' v) (hg : ∀ s, strings s → g s = g' s) :
    (ts : List (TermOf V S)) → AllOver names strings ts →
      traverseList f g ts = traverseList f' g' ts
  | [], _ => by rw [traverseList, traverseList]
  | t :: ts, h => by
    rw [traverseList, traverseList, traverse_congr hf hg t h.1, traverseList_congr hf hg ts h.2]

end

end TermOf

namespace PredicateOf

/-- Whether the name of a predicate is among some, and its arguments are over others. -/
def Over (names : V → Prop) (strings predicates : S → Prop) (p : PredicateOf V S) : Prop :=
  predicates p.name ∧ ∀ t ∈ p.terms, t.Over names strings

instance (names : V → Prop) (strings predicates : S → Prop) [DecidablePred names]
    [DecidablePred strings] [DecidablePred predicates] (p : PredicateOf V S) :
    Decidable (p.Over names strings predicates) :=
  inferInstanceAs (Decidable (predicates p.name ∧ ∀ t ∈ p.terms, t.Over names strings))

theorem Over.imp {names names' : V → Prop} {strings strings' predicates predicates' : S → Prop}
    (hnames : ∀ v, names v → names' v) (hstrings : ∀ s, strings s → strings' s)
    (hpredicates : ∀ s, predicates s → predicates' s) {p : PredicateOf V S}
    (h : p.Over names strings predicates) : p.Over names' strings' predicates' :=
  ⟨hpredicates p.name h.1, fun t ht => TermOf.Over.imp hnames hstrings t (h.2 t ht)⟩

theorem over_true (p : PredicateOf V S) : p.Over (fun _ => True) (fun _ => True) fun _ => True :=
  ⟨trivial, fun t _ => t.over_true⟩

end PredicateOf

/-- Whether the term that an operation pushes, if it does, is over some names and strings. -/
def OpOf.Over (names : V → Prop) (strings : S → Prop) : OpOf V S → Prop
  | value t => t.Over names strings
  | _ => True

instance (names : V → Prop) (strings : S → Prop) [DecidablePred names] [DecidablePred strings]
    (op : OpOf V S) : Decidable (op.Over names strings) :=
  match op with
  | .value t => inferInstanceAs (Decidable (t.Over names strings))
  | .unary _ => .isTrue trivial
  | .binary _ => .isTrue trivial

theorem OpOf.over_true (op : OpOf V S) : op.Over (fun _ => True) fun _ => True := by
  cases op with
  | value t => exact t.over_true
  | unary _ => trivial
  | binary _ => trivial

theorem OpOf.Over.imp {names names' : V → Prop} {strings strings' : S → Prop}
    (hnames : ∀ v, names v → names' v) (hstrings : ∀ s, strings s → strings' s) {op : OpOf V S}
    (h : op.Over names strings) : op.Over names' strings' := by
  cases op with
  | value t => exact TermOf.Over.imp hnames hstrings t h
  | unary _ => trivial
  | binary _ => trivial

namespace RuleOf

/-- Whether the head of a rule has a name among some, the predicates of its body have names among
    others, and its variables and strings are among others again. -/
structure Over (names : V → Prop) (strings heads bodies : S → Prop) (r : RuleOf V S) : Prop where
  head : r.head.Over names strings heads
  body : ∀ p ∈ r.body, p.Over names strings bodies
  expressions : ∀ e ∈ r.expressions, ∀ op ∈ e, op.Over names strings

theorem over_iff {names : V → Prop} {strings heads bodies : S → Prop} {r : RuleOf V S} :
    r.Over names strings heads bodies ↔ r.head.Over names strings heads ∧
      (∀ p ∈ r.body, p.Over names strings bodies) ∧
        ∀ e ∈ r.expressions, ∀ op ∈ e, op.Over names strings :=
  ⟨fun h => ⟨h.head, h.body, h.expressions⟩, fun h => ⟨h.1, h.2.1, h.2.2⟩⟩

instance (names : V → Prop) (strings heads bodies : S → Prop) [DecidablePred names]
    [DecidablePred strings] [DecidablePred heads] [DecidablePred bodies] (r : RuleOf V S) :
    Decidable (r.Over names strings heads bodies) := decidable_of_iff _ over_iff.symm

theorem Over.imp {names names' : V → Prop} {strings strings' heads heads' bodies bodies' : S → Prop}
    (hnames : ∀ v, names v → names' v) (hstrings : ∀ s, strings s → strings' s)
    (hheads : ∀ s, heads s → heads' s) (hbodies : ∀ s, bodies s → bodies' s) {r : RuleOf V S}
    (h : r.Over names strings heads bodies) : r.Over names' strings' heads' bodies' :=
  ⟨h.head.imp hnames hstrings hheads, fun p hp => (h.body p hp).imp hnames hstrings hbodies,
    fun e he op hop => (h.expressions e he op hop).imp hnames hstrings⟩

theorem over_true (r : RuleOf V S) :
    r.Over (fun _ => True) (fun _ => True) (fun _ => True) fun _ => True :=
  ⟨r.head.over_true, fun p _ => p.over_true, fun _ _ op _ => op.over_true⟩

end RuleOf

section

variable {m : Type → Type} [Monad m] [Ord V'] [Ord S'] {f f' : V → m V'} {g g' : S → m S'}
  {names : V → Prop} {strings heads bodies predicates : S → Prop}

theorem OpOf.traverse_congr (hf : ∀ v, names v → f v = f' v) (hg : ∀ s, strings s → g s = g' s)
    {op : OpOf V S} (h : op.Over names strings) : op.traverse f g = op.traverse f' g' := by
  cases op with
  | value t => rw [traverse, traverse, TermOf.traverse_congr hf hg t h]
  | unary _ => rfl
  | binary _ => rfl

variable [LawfulMonad m]

theorem mapM_congr_of_mem {α β : Type} {f g : α → m β} {xs : List α} (h : ∀ x ∈ xs, f x = g x) :
    xs.mapM f = xs.mapM g := by
  induction xs with
  | nil => rfl
  | cons x xs ih =>
    rw [List.mapM_cons, List.mapM_cons, h x List.mem_cons_self,
      ih fun y hy => h y (List.mem_cons_of_mem x hy)]

theorem PredicateOf.traverse_congr (hf : ∀ v, names v → f v = f' v)
    (hg : ∀ s, strings s → g s = g' s) (hpredicates : ∀ s, predicates s → g s = g' s)
    {p : PredicateOf V S} (h : p.Over names strings predicates) :
    p.traverse f g = p.traverse f' g' := by
  rw [traverse, traverse, hpredicates p.name h.1,
    mapM_congr_of_mem fun t ht => TermOf.traverse_congr hf hg t (h.2 t ht)]

theorem RuleOf.traverse_congr (hf : ∀ v, names v → f v = f' v) (hg : ∀ s, strings s → g s = g' s)
    (hheads : ∀ s, heads s → g s = g' s) (hbodies : ∀ s, bodies s → g s = g' s) {r : RuleOf V S}
    (h : r.Over names strings heads bodies) : r.traverse f g = r.traverse f' g' := by
  have hbody : (r.body.mapM fun p => p.traverse f g) = r.body.mapM fun p => p.traverse f' g' :=
    mapM_congr_of_mem fun p hp => PredicateOf.traverse_congr hf hg hbodies (h.body p hp)
  have hexpressions :
      (r.expressions.mapM fun e => e.mapM fun op => op.traverse f g) =
        r.expressions.mapM fun e => e.mapM fun op => op.traverse f' g' :=
    mapM_congr_of_mem fun e he => mapM_congr_of_mem fun op hop =>
      OpOf.traverse_congr hf hg (h.expressions e he op hop)
  rw [traverse, traverse, PredicateOf.traverse_congr hf hg hheads h.head, hbody, hexpressions]

end

namespace Block

/-- Whether the variables of a block are among some names and its strings among others, where the
    rules speak of some predicates only, and so do the queries of the checks in their bodies. -/
structure Over (names : UInt32 → Prop) (strings predicates : UInt64 → Prop) (b : Block) : Prop where
  facts : ∀ fact ∈ b.facts, fact.Over names strings strings
  rules : ∀ rule ∈ b.rules, rule.Over names strings predicates predicates
  checks : ∀ check ∈ b.checks, ∀ query ∈ check.queries, query.Over names strings strings predicates

theorem over_iff {names : UInt32 → Prop} {strings predicates : UInt64 → Prop} {b : Block} :
    b.Over names strings predicates ↔ (∀ fact ∈ b.facts, fact.Over names strings strings) ∧
      (∀ rule ∈ b.rules, rule.Over names strings predicates predicates) ∧
        ∀ check ∈ b.checks, ∀ query ∈ check.queries,
          query.Over names strings strings predicates :=
  ⟨fun h => ⟨h.facts, h.rules, h.checks⟩, fun h => ⟨h.1, h.2.1, h.2.2⟩⟩

instance (names : UInt32 → Prop) (strings predicates : UInt64 → Prop) [DecidablePred names]
    [DecidablePred strings] [DecidablePred predicates] (b : Block) :
    Decidable (b.Over names strings predicates) := decidable_of_iff _ over_iff.symm

theorem Over.imp {names names' : UInt32 → Prop} {strings strings' predicates predicates' :
    UInt64 → Prop} (hnames : ∀ v, names v → names' v) (hstrings : ∀ s, strings s → strings' s)
    (hpredicates : ∀ s, predicates s → predicates' s) {b : Block}
    (h : b.Over names strings predicates) : b.Over names' strings' predicates' where
  facts fact hfact := (h.facts fact hfact).imp hnames hstrings hstrings
  rules rule hrule := (h.rules rule hrule).imp hnames hstrings hpredicates hpredicates
  checks check hcheck query hquery :=
    (h.checks check hcheck query hquery).imp hnames hstrings hstrings hpredicates

theorem over_true (b : Block) : b.Over (fun _ => True) (fun _ => True) fun _ => True where
  facts fact _ := fact.over_true
  rules rule _ := rule.over_true
  checks _ _ query _ := query.over_true

end Block

end Warrant
