import Warrant.Join

namespace Warrant

/-- Ceilings for a run of rules. -/
structure Limits where
  maxFacts : Nat := 1000
  maxIterations : Nat := 100
  maxMillis : Nat := 5
  deriving DecidableEq, Repr

inductive RunLimitError where
  | tooManyFacts
  | tooManyIterations
  | timeout
  deriving DecidableEq, Repr

def RunLimitError.message : RunLimitError → String
  | tooManyFacts => "too many facts generated"
  | tooManyIterations => "too many engine iterations"
  | timeout => "spent too much time verifying"

/-- Time up to a deadline, as the number of readings of the clock that come before it; there is no
    such number where the deadline is never reached. -/
structure Clock where
  readings : Option Nat
  deriving DecidableEq, Repr

/-- Reads the clock. -/
def Clock.read (clock : Clock) : Except RunLimitError Clock :=
  match clock.readings with
  | none => .ok clock
  | some 0 => .error .timeout
  | some (n + 1) => .ok ⟨some n⟩

/-- No time is over at the first reading, and any other time outlasts every run. -/
def Limits.clock (limits : Limits) : Clock :=
  ⟨if limits.maxMillis = 0 then some 0 else none⟩

/-- Distinct facts. -/
structure FactSet where
  facts : List Fact
  nodup : facts.Nodup

namespace FactSet

def empty : FactSet := ⟨[], List.nodup_nil⟩

instance : Inhabited FactSet := ⟨empty⟩

instance : Membership Fact FactSet := ⟨fun set fact => fact ∈ set.facts⟩

instance (fact : Fact) (set : FactSet) : Decidable (fact ∈ set) :=
  inferInstanceAs (Decidable (fact ∈ set.facts))

def size (set : FactSet) : Nat := set.facts.length

def insert (set : FactSet) (fact : Fact) : FactSet :=
  if h : fact ∈ set then set else ⟨fact :: set.facts, List.nodup_cons.2 ⟨h, set.nodup⟩⟩

def union (set other : FactSet) : FactSet := other.facts.foldl insert set

def ofList (facts : List Fact) : FactSet := facts.foldl insert empty

theorem mem_def {set : FactSet} {fact : Fact} : fact ∈ set ↔ fact ∈ set.facts := Iff.rfl

@[simp]
theorem not_mem_empty (fact : Fact) : fact ∉ empty := List.not_mem_nil

@[simp]
theorem mem_insert {set : FactSet} {fact other : Fact} :
    other ∈ set.insert fact ↔ other = fact ∨ other ∈ set := by
  unfold insert
  split
  case isTrue h =>
    constructor
    · exact Or.inr
    · rintro (rfl | hother)
      · exact h
      · exact hother
  case isFalse h => simp [mem_def]

theorem mem_foldl_insert {facts : List Fact} {set : FactSet} {fact : Fact} :
    fact ∈ facts.foldl insert set ↔ fact ∈ facts ∨ fact ∈ set := by
  induction facts generalizing set with
  | nil => simp
  | cons first rest ih =>
    rw [List.foldl_cons, ih, mem_insert, List.mem_cons]
    constructor
    · rintro (h | rfl | h)
      · exact .inl (.inr h)
      · exact .inl (.inl rfl)
      · exact .inr h
    · rintro ((rfl | h) | h)
      · exact .inr (.inl rfl)
      · exact .inl h
      · exact .inr (.inr h)

@[simp]
theorem mem_union {set other : FactSet} {fact : Fact} :
    fact ∈ set.union other ↔ fact ∈ set ∨ fact ∈ other := by
  rw [union, mem_foldl_insert, ← mem_def]
  exact Or.comm

@[simp]
theorem mem_ofList {facts : List Fact} {fact : Fact} : fact ∈ ofList facts ↔ fact ∈ facts := by
  simp [ofList, mem_foldl_insert]

end FactSet

/-- What becomes of a fact set when rules are run on it. -/
structure Run where
  facts : FactSet
  outcome : Except RunLimitError Clock

/-- The facts that one round adds to `known`, as far as they have been found, and the clock. -/
abbrev Round := StateT (FactSet × Clock) (Except RunLimitError)

/-- Adds a fact to those of a round, unless it is known, as long as the limit allows. -/
def Round.add (limits : Limits) (known : FactSet) (fact : Fact) : Round Unit := do
  let (fresh, clock) ← get
  if fact ∈ known ∨ fact ∈ fresh then pure ()
  else if limits.maxFacts < known.size + (fresh.insert fact).size then throw .tooManyFacts
  else set (fresh.insert fact, clock)

/-- Reads the clock in a round. -/
def Round.readClock : Round Unit := do
  let (fresh, clock) ← get
  set (fresh, ← clock.read)

/-- Applies every rule to `known`, with a reading of the clock after each. -/
def Round.applyRules (symbols : SymbolTable) (limits : Limits) (known : FactSet)
    (rules : List Rule) : Round Unit :=
  rules.forM fun rule => do
    rule.forEachFact symbols known.facts (Round.add limits known)
    Round.readClock

/-- Applies rules in rounds until a round adds nothing. `rounds` rounds may add something; the
    facts of a round that is broken off are lost. -/
def saturate (symbols : SymbolTable) (limits : Limits) (rules : List Rule) :
    Nat → FactSet → Clock → Run
  | 0, facts, _ => ⟨facts, .error .tooManyIterations⟩
  | rounds + 1, facts, clock =>
    match (Round.applyRules symbols limits facts rules).run (.empty, clock) with
    | .error fault => ⟨facts, .error fault⟩
    | .ok ((), fresh, clock) =>
      if fresh.size = 0 then ⟨facts, .ok clock⟩
      else
        let facts := facts.union fresh
        if rounds = 0 then ⟨facts, .error .tooManyIterations⟩
        else
          match clock.read with
          | .error fault => ⟨facts, .error fault⟩
          | .ok clock => saturate symbols limits rules rounds facts clock

/-- Facts, and the rules that are working on them. -/
structure World where
  facts : FactSet
  rules : List Rule

namespace World

def empty : World := ⟨.empty, []⟩

instance : Inhabited World := ⟨empty⟩

def addFact (world : World) (fact : Fact) : World :=
  { world with facts := world.facts.insert fact }

def addRule (world : World) (rule : Rule) : World :=
  { world with rules := world.rules ++ [rule] }

def clearRules (world : World) : World := { world with rules := [] }

/-- Applies the rules until no new fact appears or a limit is reached. -/
def run (world : World) (symbols : SymbolTable) (limits : Limits) (clock : Clock) :
    World × Except RunLimitError Clock :=
  let result := saturate symbols limits world.rules (max 1 limits.maxIterations) world.facts clock
  ({ world with facts := result.facts }, result.outcome)

/-- The facts with the name and the constants of a pattern; its variables match any term. -/
def query (world : World) (pattern : Predicate) : List Fact :=
  world.facts.facts.filter fun fact =>
    fact.name == pattern.name && fact.terms.length == pattern.terms.length &&
      (fact.terms.zip pattern.terms).all fun (t, p) => p.asVariable?.isSome || t == p

def queryRule (world : World) (symbols : SymbolTable) (rule : Rule) : List Fact :=
  rule.apply symbols world.facts.facts

def queryMatch (world : World) (symbols : SymbolTable) (rule : Rule) : Bool :=
  rule.hasMatch symbols world.facts.facts

end World

end Warrant
