import Warrant.Expression

namespace Warrant

/-- A name and its arguments. -/
structure PredicateOf (V S : Type) where
  name : S
  terms : List (TermOf V S)
  deriving DecidableEq

/-- A head that holds wherever the body and the constraints do. -/
structure RuleOf (V S : Type) where
  head : PredicateOf V S
  body : List (PredicateOf V S)
  expressions : List (ExpressionOf V S)
  deriving DecidableEq

/-- A demand that one of some queries matches. -/
structure CheckOf (V S : Type) where
  queries : List (RuleOf V S)
  deriving DecidableEq

inductive PolicyKind where
  | allow
  | deny
  deriving DecidableEq, Repr

/-- A decision that is taken where one of some queries matches. -/
structure PolicyOf (V S : Type) where
  queries : List (RuleOf V S)
  kind : PolicyKind
  deriving DecidableEq

abbrev Predicate := PredicateOf UInt32 UInt64

/-- A predicate that is held to be true. -/
abbrev Fact := Predicate

abbrev Rule := RuleOf UInt32 UInt64

abbrev Check := CheckOf UInt32 UInt64

abbrev Policy := PolicyOf UInt32 UInt64

variable {V S V' S' : Type} {m : Type → Type} [Monad m]

namespace PredicateOf

def traverse [Ord V'] [Ord S'] (onVariable : V → m V') (onString : S → m S')
    (p : PredicateOf V S) : m (PredicateOf V' S') := do
  let name ← onString p.name
  let terms ← p.terms.mapM fun t => t.traverse onVariable onString
  return ⟨name, terms⟩

def isGround (p : PredicateOf V S) : Bool := p.terms.all TermOf.isGround

/-- The variables among the arguments; those inside sets do not count. -/
def argVariables (p : PredicateOf V S) : List V := p.terms.filterMap TermOf.asVariable?

end PredicateOf

namespace RuleOf

def traverse [Ord V'] [Ord S'] (onVariable : V → m V') (onString : S → m S')
    (r : RuleOf V S) : m (RuleOf V' S') := do
  let head ← r.head.traverse onVariable onString
  let body ← r.body.mapM fun p => p.traverse onVariable onString
  let expressions ← r.expressions.mapM fun e => e.mapM fun op => op.traverse onVariable onString
  return ⟨head, body, expressions⟩

/-- The distinct variables of the body in increasing order. -/
def bodyVariables [Ord V] (r : RuleOf V S) : List V :=
  SortedList.ofList (r.body.flatMap PredicateOf.argVariables)

/-- Whether the body binds every variable of the head and of the constraints. -/
def isRangeRestricted [Ord V] [DecidableEq V] (r : RuleOf V S) : Bool :=
  let bound := r.bodyVariables
  r.head.argVariables.all (· ∈ bound) &&
    r.expressions.all fun e => (e.filterMap OpOf.asVariable?).all (· ∈ bound)

end RuleOf

def CheckOf.traverse [Ord V'] [Ord S'] (onVariable : V → m V') (onString : S → m S')
    (c : CheckOf V S) : m (CheckOf V' S') := do
  return ⟨← c.queries.mapM fun q => q.traverse onVariable onString⟩

def PolicyOf.traverse [Ord V'] [Ord S'] (onVariable : V → m V') (onString : S → m S')
    (p : PolicyOf V S) : m (PolicyOf V' S') := do
  return ⟨← p.queries.mapM fun q => q.traverse onVariable onString, p.kind⟩

end Warrant
