import Warrant.SortedList

namespace Warrant

/-- The kinds of terms, in the order in which terms of different kinds are compared. -/
inductive Kind where
  | var
  | integer
  | str
  | date
  | bytes
  | bool
  | set
  deriving DecidableEq, Repr

def Kind.rank : Kind → Nat
  | .var => 0
  | .integer => 1
  | .str => 2
  | .date => 3
  | .bytes => 4
  | .bool => 5
  | .set => 6

/-- A value that facts, rules and expressions speak of, over variable names `V` and strings `S`.
    Dates are seconds since the start of 1970. The elements of a set are increasing. -/
inductive TermOf (V S : Type) where
  | var (name : V)
  | integer (value : Int64)
  | str (value : S)
  | date (seconds : UInt64)
  | bytes (value : List UInt8)
  | bool (value : Bool)
  | set (elements : List (TermOf V S))

/-- A term whose names and strings are positions in a symbol table. -/
abbrev Term := TermOf UInt32 UInt64

namespace TermOf

variable {V S V' S' : Type}

instance : Inhabited (TermOf V S) := ⟨.bool false⟩

def kind : TermOf V S → Kind
  | var _ => .var
  | integer _ => .integer
  | str _ => .str
  | date _ => .date
  | bytes _ => .bytes
  | bool _ => .bool
  | set _ => .set

mutual

/-- Terms are ordered by kind, terms of one kind by value, and sets element by element. -/
def compare [Ord V] [Ord S] : TermOf V S → TermOf V S → Ordering
  | var a, var b => Ord.compare a b
  | integer a, integer b => Ord.compare a b
  | str a, str b => Ord.compare a b
  | date a, date b => Ord.compare a b
  | bytes a, bytes b => Ord.compare a b
  | bool a, bool b => Ord.compare a b
  | set a, set b => compareElements a b
  | a, b => Ord.compare a.kind.rank b.kind.rank

def compareElements [Ord V] [Ord S] : List (TermOf V S) → List (TermOf V S) → Ordering
  | [], [] => .eq
  | [], _ :: _ => .lt
  | _ :: _, [] => .gt
  | a :: as, b :: bs => (compare a b).then (compareElements as bs)

end

instance [Ord V] [Ord S] : Ord (TermOf V S) := ⟨compare⟩

mutual

def beq [DecidableEq V] [DecidableEq S] : TermOf V S → TermOf V S → Bool
  | var a, var b => decide (a = b)
  | integer a, integer b => decide (a = b)
  | str a, str b => decide (a = b)
  | date a, date b => decide (a = b)
  | bytes a, bytes b => decide (a = b)
  | bool a, bool b => decide (a = b)
  | set a, set b => beqElements a b
  | _, _ => false

def beqElements [DecidableEq V] [DecidableEq S] : List (TermOf V S) → List (TermOf V S) → Bool
  | [], [] => true
  | a :: as, b :: bs => beq a b && beqElements as bs
  | _, _ => false

end

mutual

theorem beq_iff [DecidableEq V] [DecidableEq S] (a b : TermOf V S) : beq a b = true ↔ a = b := by
  cases a <;> cases b <;> simp [beq]
  exact beqElements_iff _ _

theorem beqElements_iff [DecidableEq V] [DecidableEq S] (as bs : List (TermOf V S)) :
    beqElements as bs = true ↔ as = bs := by
  match as, bs with
  | [], [] => simp [beqElements]
  | [], _ :: _ => simp [beqElements]
  | _ :: _, [] => simp [beqElements]
  | a :: as, b :: bs =>
    simp [beqElements, beq_iff a b, beqElements_iff as bs]

end

instance [DecidableEq V] [DecidableEq S] : DecidableEq (TermOf V S) :=
  fun a b => decidable_of_iff _ (beq_iff a b)

/-- The set of some terms. -/
def ofElements [Ord V] [Ord S] (elements : List (TermOf V S)) : TermOf V S :=
  set (SortedList.ofList elements)

mutual

/-- Replaces the variables and strings of a term from left to right. A set is put in order
    again. -/
def traverse {m : Type → Type} [Monad m] [Ord V'] [Ord S'] (onVariable : V → m V')
    (onString : S → m S') : TermOf V S → m (TermOf V' S')
  | var v => return var (← onVariable v)
  | integer i => return integer i
  | str s => return str (← onString s)
  | date d => return date d
  | bytes b => return bytes b
  | bool b => return bool b
  | set elements => return ofElements (← traverseList onVariable onString elements)

def traverseList {m : Type → Type} [Monad m] [Ord V'] [Ord S'] (onVariable : V → m V')
    (onString : S → m S') : List (TermOf V S) → m (List (TermOf V' S'))
  | [] => return []
  | t :: ts => do
    let t' ← traverse onVariable onString t
    let ts' ← traverseList onVariable onString ts
    return t' :: ts'

end

mutual

/-- Whether no variable occurs in a term, at any depth. -/
def isGround : TermOf V S → Bool
  | var _ => false
  | set elements => areGround elements
  | _ => true

def areGround : List (TermOf V S) → Bool
  | [] => true
  | t :: ts => isGround t && areGround ts

end

/-- The variable that a term is, if it is one. -/
def asVariable? : TermOf V S → Option V
  | var v => some v
  | _ => none

end TermOf

/-- Why a term may not stand where it stands. -/
inductive TermError where
  | variableInSet
  | nestedSet
  | mixedSet
  | variableInFact
  deriving DecidableEq, Repr

def TermError.message : TermError → String
  | .variableInSet => "sets cannot contain variables"
  | .nestedSet => "sets cannot contain other sets"
  | .mixedSet => "set elements must all have the same kind"
  | .variableInFact => "facts cannot contain variables"

namespace TermOf

variable {V S : Type}

/-- The first fault among the elements of a set. `seen` is the kind of the elements before. -/
def elementFault (seen : Option Kind) : List (TermOf V S) → Option TermError
  | [] => none
  | t :: ts =>
    match t.kind with
    | .var => some .variableInSet
    | .set => some .nestedSet
    | k => if seen.getD k = k then elementFault (some k) ts else some .mixedSet

/-- The elements of a set are scalars of one kind. -/
def validate : TermOf V S → Except TermError Unit
  | set elements =>
    match elementFault none elements with
    | none => .ok ()
    | some fault => .error fault
  | _ => .ok ()

/-- The set of some terms, if they may form one. -/
def setOf [Ord V] [Ord S] (elements : List (TermOf V S)) : Except TermError (TermOf V S) :=
  let t := ofElements elements
  match t.validate with
  | .ok () => .ok t
  | .error fault => .error fault

end TermOf

end Warrant
