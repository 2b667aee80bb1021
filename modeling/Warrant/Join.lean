import Warrant.Evaluate
import Warrant.Rule

namespace Warrant

/-- The variables of a rule body in increasing order, each with the term that it is bound to, if
    it is bound. -/
structure Slots where
  entries : List (UInt32 × Option Term)
  deriving DecidableEq

namespace Slots

/-- The given variables, none of them bound. -/
def unbound (names : List UInt32) : Slots :=
  ⟨(SortedList.ofList names).map fun v => (v, none)⟩

/-- Binds a variable in some entries. A variable that has no entry, or is bound to another term,
    cannot be bound. -/
def bindIn (v : UInt32) (t : Term) :
    List (UInt32 × Option Term) → Option (List (UInt32 × Option Term))
  | [] => none
  | (w, slot) :: rest =>
    if v = w then if slot.getD t = t then some ((w, some t) :: rest) else none
    else (bindIn v t rest).map fun rest' => (w, slot) :: rest'

def bind (slots : Slots) (v : UInt32) (t : Term) : Option Slots :=
  (bindIn v t slots.entries).map Slots.mk

def isComplete (slots : Slots) : Bool := slots.entries.all fun e => e.2.isSome

/-- The terms that the variables are bound to, if every variable is. -/
def complete? (slots : Slots) : Option Bindings :=
  slots.entries.mapM fun (v, slot) => slot.map fun t => (v, t)

/-- Binds the variables among some arguments to the terms at the same places. -/
def bindTerms : List Term → List Term → Slots → Option Slots
  | .var v :: patterns, t :: terms, slots =>
    (slots.bind v t).bind fun slots' => bindTerms patterns terms slots'
  | _ :: patterns, _ :: terms, slots => bindTerms patterns terms slots
  | _, _, slots => some slots

end Slots

/-- Whether a term may stand where a pattern has this argument. A variable of a fact never may. -/
def TermOf.admits (pattern : Term) : Term → Bool
  | .var _ => false
  | t => pattern.asVariable?.isSome || pattern == t

/-- Whether a fact has the name, the number of arguments and the constants of a pattern. -/
def PredicateOf.admits (pattern : Predicate) (fact : Fact) : Bool :=
  pattern.name == fact.name && pattern.terms.length == fact.terms.length &&
    (pattern.terms.zip fact.terms).all fun (p, t) => p.admits t

/-- The slots after a pattern is matched with a fact. -/
def PredicateOf.unify (pattern : Predicate) (fact : Fact) (slots : Slots) : Option Slots :=
  if pattern.admits fact then Slots.bindTerms pattern.terms fact.terms slots else none

section

variable {m : Type → Type} [Monad m]

/-- Visits every way to match some patterns with facts, the first pattern slowest. -/
@[specialize]
def forEachMatch (facts : List Fact) (visit : Slots → m Unit) : List Predicate → Slots → m Unit
  | [], slots => visit slots
  | p :: ps, slots =>
    facts.forM fun fact =>
      match p.unify fact slots with
      | some slots' => forEachMatch facts visit ps slots'
      | none => pure ()

/-- Visits the bindings that match a body with facts and under which every constraint holds.
    Patterns are compiled once. -/
@[specialize]
def forEachBinding (symbols : SymbolTable) (facts : List Fact) (body : List Predicate)
    (expressions : List Expression) (start : Slots) (visit : Bindings → m Unit) : m Unit := do
  let accept (slots : Slots) : StateT PatternCache m Unit := do
    match slots.complete? with
    | none => pure ()
    | some bindings =>
      let (holds, cache) := (allHold symbols bindings expressions).run (← get)
      set cache
      if holds then visit bindings
  let _ ← (forEachMatch facts accept body start).run []

end

/-- A predicate with its variables replaced, if all of them are bound. -/
def PredicateOf.instantiate (p : Predicate) (bindings : Bindings) : Option Fact :=
  (p.terms.mapM (TermOf.lookup bindings)).map fun terms => ⟨p.name, terms⟩

namespace RuleOf

/-- Visits the facts that a rule derives from some facts, once for each binding of its body. A
    binding that leaves a variable of the head open derives nothing. -/
@[specialize]
def forEachFact {m : Type → Type} [Monad m] (rule : Rule) (symbols : SymbolTable)
    (facts : List Fact) (visit : Fact → m Unit) : m Unit :=
  forEachBinding symbols facts rule.body rule.expressions (Slots.unbound rule.bodyVariables)
    fun bindings =>
      match rule.head.instantiate bindings with
      | some fact => visit fact
      | none => pure ()

/-- The facts that a rule derives from some facts. -/
def apply (rule : Rule) (symbols : SymbolTable) (facts : List Fact) : List Fact :=
  let push (fact : Fact) : StateM (List Fact) Unit := modify (fact :: ·)
  ((rule.forEachFact symbols facts push).run []).2.reverse

/-- Whether the body of a rule has a binding; the first one ends the search. -/
def hasMatch (rule : Rule) (symbols : SymbolTable) (facts : List Fact) : Bool :=
  let stop (_ : Bindings) : Except Unit Unit := .error ()
  match forEachBinding symbols facts rule.body rule.expressions
      (Slots.unbound rule.bodyVariables) stop with
  | .error () => true
  | .ok () => false

end RuleOf

/-- The bindings that match a body with facts and under which every constraint holds. -/
def allBindings (symbols : SymbolTable) (facts : List Fact) (body : List Predicate)
    (expressions : List Expression) (start : Slots) : List Bindings :=
  let push (bindings : Bindings) : StateM (List Bindings) Unit := modify (bindings :: ·)
  ((forEachBinding symbols facts body expressions start push).run []).2.reverse

end Warrant
