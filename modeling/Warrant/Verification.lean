import Warrant.Verifier

namespace Warrant

/-- What a verification changes as it goes on. -/
structure Progress where
  world : World
  symbols : SymbolTable
  clock : Clock

/-- A step of a verification. What it has changed stays when it fails. -/
abbrev Verification := ExceptT Error (StateM Progress)

namespace Verification

/-- The facts that follow from those of the world by its rules and some more, with no rules left.
    The world itself is as before. -/
def derive (limits : Limits) (rules : List Rule) : Verification World := do
  let progress ← get
  let loaded := { progress.world with rules := progress.world.rules ++ rules }
  match loaded.run progress.symbols limits progress.clock with
  | (_, .error cause) => throw (.runLimit cause)
  | (world, .ok clock) =>
    set { progress with clock := clock }
    return world.clearRules

def addFacts (facts : List Fact) : Verification Unit :=
  modify fun progress => { progress with world := facts.foldl World.addFact progress.world }

def setWorld (world : World) : Verification Unit :=
  modify fun progress => { progress with world := world }

def readClock : Verification Unit := do
  let progress ← get
  match progress.clock.read with
  | .error cause => throw (.runLimit cause)
  | .ok clock => set { progress with clock := clock }

/-- Whether one of some queries matches. The clock is read after each, also after one that
    matches. -/
def anyMatches : List Rule → Verification Bool
  | [] => return false
  | query :: rest => do
    let progress ← get
    let found := progress.world.queryMatch progress.symbols query
    readClock
    if found then return true else anyMatches rest

/-- The checks that do not pass among those of one block, or of the verifier. `index` checks come
    before. -/
def failedChecks (block : Option Nat) (index : Nat) : List Check → Verification (List FailedCheck)
  | [] => return []
  | check :: rest => do
    let passed ← anyMatches check.queries
    let progress ← get
    let failed ← failedChecks block (index + 1) rest
    return if passed then failed else ⟨block, index, check.render progress.symbols⟩ :: failed

/-- The first policy that matches, with its place. `index` policies come before. -/
def decision (index : Nat) : List Policy → Verification (Option (Nat × PolicyKind))
  | [] => return none
  | policy :: rest => do
    if ← anyMatches policy.queries then return some (index, policy.kind)
    else decision (index + 1) rest

/-- Symbols that only the authority block and the verifier may put first in a fact. -/
structure Tags where
  authority : UInt64
  ambient : UInt64

def Tags.ofSymbols (symbols : SymbolTable) : Option Tags := do
  return ⟨← symbols.find? "authority", ← symbols.find? "ambient"⟩

/-- Whether the first argument of a predicate is a tag. -/
def Tags.mark (tags : Tags) (p : Predicate) : Bool :=
  match p.terms.head? with
  | some (.str s) => s == tags.authority || s == tags.ambient
  | _ => false

/-- Whether the first argument of a predicate is a variable. -/
def startsWithVariable (p : Predicate) : Bool :=
  match p.terms.head? with
  | some (.var _) => true
  | _ => false

/-- The facts that tell the revocation identifiers of a token, by their places. -/
def revocationFacts (symbol : UInt64) (index : Nat) : List (List UInt8) → List Fact
  | [] => []
  | id :: rest =>
    ⟨symbol, [.integer (Int64.ofNat index), .bytes id]⟩ :: revocationFacts symbol (index + 1) rest

/-- The symbol of revocation facts, which is added where missing. -/
def revocationSymbol : Verification UInt64 := do
  let progress ← get
  let (symbol, symbols) := (SymbolTable.intern "revocation_id").run progress.symbols
  set { progress with symbols := symbols }
  return symbol

/-- Takes in the authority block, whose rules must bind their variables, and the identifiers of
    all blocks. -/
def addAuthority (token : LoadedToken) : Verification Unit := do
  let progress ← get
  match token.authority.rules.find? fun rule => !rule.isRangeRestricted with
  | some rule => throw (.logic (.invalidRule 0 (rule.render progress.symbols)))
  | none => pure ()
  addFacts token.authority.facts
  let symbol ← revocationSymbol
  addFacts (revocationFacts symbol 0 token.revocationIds)

/-- The fault of a block as it is written: a fact with a tag, or a rule whose head has a tag or a
    variable that its body does not bind. -/
def blockFault (tags : Tags) (symbols : SymbolTable) (number : Nat) (block : Block) :
    Option LogicError :=
  match block.facts.find? tags.mark with
  | some fact => some (.invalidFact number (fact.render symbols))
  | none =>
    (block.rules.find? fun rule => tags.mark rule.head || !rule.isRangeRestricted).map fun rule =>
      .invalidRule number (rule.render symbols)

/-- The first rule of a block that gives a variable head a tag in a world. -/
def taggingRule? (tags : Tags) (symbols : SymbolTable) (world : World) (rules : List Rule) :
    Option Rule :=
  rules.find? fun rule =>
    startsWithVariable rule.head && (world.queryRule symbols rule).any tags.mark

/-- Takes in one block after the authority block, and returns its checks that do not pass. -/
def addBlock (tags : Tags) (limits : Limits) (number : Nat) (block : Block) :
    Verification (List FailedCheck) := do
  let symbols := (← get).symbols
  match blockFault tags symbols number block with
  | some fault => throw (.logic fault)
  | none => pure ()
  addFacts block.facts
  let world ← derive limits block.rules
  match taggingRule? tags symbols world block.rules with
  | some rule => throw (.logic (.invalidRule number (rule.render symbols)))
  | none => pure ()
  setWorld world
  failedChecks (some number) 0 block.checks

/-- Takes in blocks in order, and returns their checks that do not pass. -/
def addBlocks (tags : Tags) (limits : Limits) (number : Nat) :
    List Block → Verification (List FailedCheck)
  | [] => return []
  | block :: rest => do
    let failed ← addBlock tags limits number block
    let others ← addBlocks tags limits (number + 1) rest
    return failed ++ others

/-- The outcome when everything has been tried: checks come before policies. -/
def outcome (failed : List FailedCheck) (decision : Option (Nat × PolicyKind)) :
    Except LogicError Nat :=
  match failed, decision with
  | [], some (policy, .allow) => .ok policy
  | [], some (policy, .deny) => .error (.denied policy)
  | [], none => .error .noMatchingPolicy
  | failed, _ => .error (.failedChecks failed)

/-- Tests the request in `v`. First the authority block and the verifier speak, then each further
    block under its own rules; checks and policies are tried where they stand. -/
def ofVerifier (v : Verifier) (limits : Limits) : Verification Nat := do
  match Tags.ofSymbols (← get).symbols with
  | none => throw .missingSymbols
  | some tags =>
    let authority := (v.token.map LoadedToken.authority).toList
    v.token.forM addAuthority
    setWorld (← derive limits (authority.flatMap Block.rules ++ v.rules))
    let failedHere ← failedChecks none 0 v.checks
    let failedThere ← failedChecks (some 0) 0 (authority.flatMap Block.checks)
    let decided ← decision 0 v.policies
    let failedLater ← addBlocks tags limits 1 (v.token.elim [] LoadedToken.blocks)
    match outcome (failedHere ++ failedThere ++ failedLater) decided with
    | .error cause => throw (.logic cause)
    | .ok policy => return policy

end Verification

/-- Tests the request in a verifier as long as the clock does not stop: the place of the policy
    that allows it, or why it is refused. Facts that were derived stay in the verifier. -/
def Verifier.verifyUntil (v : Verifier) (limits : Limits) (clock : Clock) :
    Verifier × Except Error Nat :=
  let start : Progress := ⟨v.world, v.symbols, clock⟩
  let (result, progress) := (Verification.ofVerifier v limits).run.run start
  ({ v with world := progress.world, symbols := progress.symbols }, result)

/-- Tests the request in a verifier in the time that the limits allow. -/
def Verifier.verify (v : Verifier) (limits : Limits) : Verifier × Except Error Nat :=
  v.verifyUntil limits limits.clock

end Warrant
