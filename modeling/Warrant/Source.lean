import Warrant.Rule
import Warrant.SymbolTable

namespace Warrant

namespace Source

/-! Terms, rules and what is made of them, with names and strings written out. -/

abbrev Term := TermOf String String

abbrev Op := OpOf String String

abbrev Expression := ExpressionOf String String

abbrev Predicate := PredicateOf String String

abbrev Fact := Predicate

abbrev Rule := RuleOf String String

abbrev Check := CheckOf String String

abbrev Policy := PolicyOf String String

/-- Anything that can be told to a verifier. A query has the variables of its body as its head. -/
inductive Statement where
  | fact (fact : Fact)
  | rule (rule : Rule)
  | check (check : Check)
  | policy (policy : Policy)
  | query (rule : Rule)
  deriving DecidableEq

def predicate (name : String) (terms : List Term) : Predicate := ⟨name, terms⟩

def constrainedRule (name : String) (terms : List Term) (body : List Predicate)
    (expressions : List Expression) : Rule :=
  ⟨⟨name, terms⟩, body, expressions⟩

def rule (name : String) (terms : List Term) (body : List Predicate) : Rule :=
  constrainedRule name terms body []

def Check.ofRule (rule : Rule) : Check := ⟨[rule]⟩

/-- The date some milliseconds after the start of 1970; earlier ones count as that start. -/
def date (millis : Int) : Term := .date (UInt64.ofNat (millis.toNat / 1000))

end Source

/-- The position of a variable name; positions of variables have 32 bits. -/
def SymbolTable.internVariable (name : String) : StateM SymbolTable UInt32 := do
  return (← SymbolTable.intern name).toUInt32

/-- The term with its names and strings replaced by positions, which are added where missing. -/
def TermOf.intern (t : Source.Term) : StateM SymbolTable Term :=
  t.traverse SymbolTable.internVariable SymbolTable.intern

def PredicateOf.intern (p : Source.Predicate) : StateM SymbolTable Predicate :=
  p.traverse SymbolTable.internVariable SymbolTable.intern

def RuleOf.intern (r : Source.Rule) : StateM SymbolTable Rule :=
  r.traverse SymbolTable.internVariable SymbolTable.intern

def CheckOf.intern (c : Source.Check) : StateM SymbolTable Check :=
  c.traverse SymbolTable.internVariable SymbolTable.intern

def PolicyOf.intern (p : Source.Policy) : StateM SymbolTable Policy :=
  p.traverse SymbolTable.internVariable SymbolTable.intern

/-- The set of some terms, if they may form one. They are looked at with their names and strings
    replaced by positions in a table of their own. -/
def Source.setOf (items : List Source.Term) : Except TermError Source.Term :=
  let elements := SortedList.ofList items
  let interned := ((elements.mapM TermOf.intern).run .empty).1
  match (TermOf.ofElements interned).validate with
  | .ok () => .ok (.set elements)
  | .error fault => .error fault

/-- The term with its positions replaced by the strings that a table has there. -/
def TermOf.resolve (symbols : SymbolTable) (t : Term) : Source.Term :=
  Id.run (t.traverse (fun v => symbols.name v.toUInt64) symbols.name)

def PredicateOf.resolve (symbols : SymbolTable) (p : Predicate) : Source.Predicate :=
  Id.run (p.traverse (fun v => symbols.name v.toUInt64) symbols.name)

def RuleOf.resolve (symbols : SymbolTable) (r : Rule) : Source.Rule :=
  Id.run (r.traverse (fun v => symbols.name v.toUInt64) symbols.name)

end Warrant
