import Warrant.Token
import Warrant.Wire.Saved

namespace Warrant

/-- What a verifier keeps of a token, in the verifier's own symbols. -/
structure LoadedToken where
  authority : Block
  blocks : List Block
  revocationIds : List (List UInt8)

/-- Everything that decides on requests. The rules apply to whatever facts there are; `token` is
    the token under test, if one has been added. -/
structure Verifier where
  world : World
  symbols : SymbolTable
  rules : List Rule
  checks : List Check
  policies : List Policy
  token : Option LoadedToken

/-- Numbering content anew for a table of symbols, which may get more of them. -/
abbrev Renumbering := ExceptT Error (StateM SymbolTable)

namespace Renumbering

/-- The new position of the string at a position of `source`, which must have one. -/
def symbol (source : SymbolTable) (position : UInt64) : Renumbering UInt64 :=
  match source.resolve? position with
  | some name => (SymbolTable.intern name : StateM SymbolTable UInt64)
  | none => throw (.format (.unknownSymbol position))

/-- The new position of the name of a variable. -/
def variableName (source : SymbolTable) (position : UInt32) : Renumbering UInt32 := do
  return (← symbol source position.toUInt64).toUInt32

/-- A block of a token in other symbols. It introduces none. -/
def block (source : SymbolTable) (b : Block) : Renumbering Block := do
  let facts ← b.facts.mapM fun f => f.traverse (variableName source) (symbol source)
  let rules ← b.rules.mapM fun r => r.traverse (variableName source) (symbol source)
  let checks ← b.checks.mapM fun c => c.traverse (variableName source) (symbol source)
  return { b with symbols := .empty, facts := facts, rules := rules, checks := checks }

/-- The content of a token in other symbols. -/
def token {scheme : Scheme} (t : Token scheme) : Renumbering LoadedToken := do
  let authority ← block t.symbols t.authority
  let blocks ← t.blocks.mapM (block t.symbols)
  return ⟨authority, blocks, t.revocationIds⟩

end Renumbering

namespace Verifier

/-- A verifier that knows nothing. -/
def empty : Verifier := ⟨.empty, .standard, [], [], [], none⟩

instance : Inhabited Verifier := ⟨empty⟩

/-- The verifier with a token, of which it holds one at most. The symbols of a token that is
    refused may stay. -/
def addToken {scheme : Scheme} (v : Verifier) (token : Token scheme) :
    Verifier × Except Error Unit :=
  if v.token.isSome then (v, .error (.logic .tokenPresent))
  else
    match (Renumbering.token token).run.run v.symbols with
    | (.error e, symbols) => ({ v with symbols := symbols }, .error e)
    | (.ok loaded, symbols) => ({ v with symbols := symbols, token := some loaded }, .ok ())

/-- A verifier with the token. -/
def ofToken {scheme : Scheme} (token : Token scheme) : Except Error Verifier :=
  match empty.addToken token with
  | (_, .error e) => .error e
  | (v, .ok ()) => .ok v

/-- Adds a fact, which may have no variables. -/
def addFact (v : Verifier) (fact : Source.Fact) : Verifier × Except Error Unit :=
  let (fact, symbols) := (PredicateOf.intern fact).run v.symbols
  let v := { v with symbols := symbols }
  if fact.isGround then ({ v with world := v.world.addFact fact }, .ok ())
  else (v, .error (.term .variableInFact))

def addRule (v : Verifier) (rule : Source.Rule) : Verifier :=
  let (rule, symbols) := (RuleOf.intern rule).run v.symbols
  { v with rules := v.rules ++ [rule], symbols := symbols }

def addCheck (v : Verifier) (check : Source.Check) : Verifier :=
  let (check, symbols) := (CheckOf.intern check).run v.symbols
  { v with checks := v.checks ++ [check], symbols := symbols }

def addPolicy (v : Verifier) (policy : Source.Policy) : Verifier :=
  let (policy, symbols) := (PolicyOf.intern policy).run v.symbols
  { v with policies := v.policies ++ [policy], symbols := symbols }

/-- Adds what a statement states. Queries ask and state nothing. -/
def push (v : Verifier) : Source.Statement → Verifier × Except Error Unit
  | .fact fact => v.addFact fact
  | .rule rule => (v.addRule rule, .ok ())
  | .check check => (v.addCheck check, .ok ())
  | .policy policy => (v.addPolicy policy, .ok ())
  | .query _ => (v, .error (.input .queryNotStored))

/-- Adds a fact of which the verifier itself vouches, about the present request. -/
def addAmbient (v : Verifier) (name : String) (term : Source.Term) : Verifier :=
  (v.addFact (Source.predicate name [.str "ambient", term])).1

/-- States which resource is asked for. -/
def addResource (v : Verifier) (resource : String) : Verifier :=
  v.addAmbient "resource" (.str resource)

/-- States which operation is asked for. -/
def addOperation (v : Verifier) (operation : String) : Verifier :=
  v.addAmbient "operation" (.str operation)

/-- States what time it is, in milliseconds since the start of 1970. -/
def setTime (v : Verifier) (now : Int) : Verifier :=
  v.addAmbient "current_time" (Source.date now)

/-- Runs the rules of the verifier as long as the clock does not stop, and then one rule more, of
    which it returns the facts. -/
def queryUntil (v : Verifier) (rule : Source.Rule) (limits : Limits) (clock : Clock) :
    Verifier × Except Error (List Fact) :=
  let (rule, symbols) := (RuleOf.intern rule).run v.symbols
  let loaded := { v.world with rules := v.world.rules ++ v.rules }
  let (world, outcome) := loaded.run symbols limits clock
  let v := { v with symbols := symbols, world := world.clearRules }
  match outcome with
  | .error cause => (v, .error (.runLimit cause))
  | .ok _ => (v, .ok (v.world.queryRule symbols rule))

/-- Runs the rules of the verifier in the time that the limits allow, and then one rule more, of
    which it returns the facts. -/
def query (v : Verifier) (rule : Source.Rule) (limits : Limits) :
    Verifier × Except Error (List Fact) :=
  v.queryUntil rule limits limits.clock

/-- What can be restored later. The checks of a token become checks of the verifier; its rules
    and facts are not kept. -/
def saved (v : Verifier) : SavedVerifier :=
  let tokenChecks := match v.token with
    | some token => (token.authority :: token.blocks).flatMap Block.checks
    | none => []
  ⟨v.symbols, v.world.facts.facts, v.rules, v.checks ++ tokenChecks, v.policies⟩

def save (v : Verifier) : List UInt8 := v.saved.toBytes

def ofSaved (saved : SavedVerifier) : Verifier :=
  ⟨⟨.ofList saved.facts, []⟩, saved.symbols, saved.rules, saved.checks, saved.policies, none⟩

/-- The verifier that was saved as the bytes with which some bytes begin. -/
def ofBytes (bytes : List UInt8) : Except Error Verifier := do
  return ofSaved (← SavedVerifier.ofBytes bytes)

/-- The checks of some blocks, each with the number of its block. -/
def renderBlockChecks (symbols : SymbolTable) (number : Nat) : List Block → List String
  | [] => []
  | block :: rest =>
    block.checks.map (fun check =>
      "[block " ++ toString number ++ "] " ++ check.render symbols) ++
    renderBlockChecks symbols (number + 1) rest

/-- Facts in alphabetical order, rules, checks and policies, each on a line. -/
def render (v : Verifier) : String :=
  let lines (texts : List String) : String :=
    "".intercalate (texts.map fun text => "\t" ++ text ++ "\n")
  let tokenChecks := match v.token with
    | some token => renderBlockChecks v.symbols 0 (token.authority :: token.blocks)
    | none => []
  "facts:\n" ++
    lines (SortedList.ofList (v.world.facts.facts.map (PredicateOf.render v.symbols))) ++
    "rules:\n" ++ lines (v.rules.map (RuleOf.render v.symbols)) ++
    "checks:\n" ++ lines (v.checks.map (CheckOf.render v.symbols) ++ tokenChecks) ++
    "policies:\n" ++ lines (v.policies.map (PolicyOf.render v.symbols))

end Verifier

end Warrant
