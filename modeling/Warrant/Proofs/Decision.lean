import Warrant.Proofs.Saturation
import Warrant.Verification

namespace Warrant

open Classical

/-- Whether the first argument of a predicate is a tag, which no block after the first may put
    there. -/
def Tagged (symbols : SymbolTable) (p : Predicate) : Prop :=
  ∃ symbol rest, p.terms = .str symbol :: rest ∧
    (symbols.find? "authority" = some symbol ∨ symbols.find? "ambient" = some symbol)

/-- Whether a rule body has every variable of the head and of the constraints. -/
def RuleOf.RangeRestricted (rule : Rule) : Prop :=
  ∀ v, (v ∈ rule.head.argVariables ∨ ∃ e ∈ rule.expressions, v ∈ e.filterMap OpOf.asVariable?) →
    ∃ p ∈ rule.body, v ∈ p.argVariables

/-- Whether a rule puts a tag where its head starts with a variable. -/
def RuleOf.BindsTag (symbols : SymbolTable) (known : Set Fact) (rule : Rule) : Prop :=
  (∃ v rest, rule.head.terms = .var v :: rest) ∧
    ∃ fact, rule.Yields symbols known fact ∧ Tagged symbols fact

/-- Whether one of some queries matches. -/
def Passes (symbols : SymbolTable) (known : Set Fact) (queries : List Rule) : Prop :=
  ∃ query ∈ queries, query.Matches symbols known

/-- The checks of a block, or of the verifier, none of whose queries matches. -/
noncomputable def failing (symbols : SymbolTable) (known : Set Fact) (block : Option Nat)
    (checks : List Check) : List FailedCheck :=
  checks.zipIdx.filterMap fun (check, index) =>
    if Passes symbols known check.queries then none
    else some ⟨block, index, check.render symbols⟩

/-- The first policy one of whose queries matches. -/
noncomputable def firstPolicy (symbols : SymbolTable) (known : Set Fact)
    (policies : List Policy) : Option (Nat × PolicyKind) :=
  (policies.zipIdx.find? fun (policy, _) => Passes symbols known policy.queries).map
    fun (policy, index) => (index, policy.kind)

/-- Why a block is invalid, if it is: a fact of it is tagged, or else the head of a rule is, or
    has a variable that the body has not, or else a rule whose head starts with a variable yields
    a tagged fact from what is known once the block has been taken in. -/
noncomputable def blockDefect (symbols : SymbolTable) (number : Nat) (block : Block)
    (known : Set Fact) : Option LogicError :=
  match block.facts.find? fun fact => Tagged symbols fact with
  | some fact => some (.invalidFact number (fact.render symbols))
  | none =>
    match block.rules.find? fun rule => Tagged symbols rule.head ∨ ¬ rule.RangeRestricted with
    | some rule => some (.invalidRule number (rule.render symbols))
    | none =>
      (block.rules.find? fun rule => rule.BindsTag symbols known).map fun rule =>
        .invalidRule number (rule.render symbols)

namespace LoadedToken

/-- What the first block of a token and the identifiers of all blocks bring. -/
def broughtFacts (token : LoadedToken) (revocation : UInt64) : Set Fact :=
  {fact | fact ∈ token.authority.facts ∨ ∃ index id, token.revocationIds[index]? = some id ∧
    fact = ⟨revocation, [.integer (Int64.ofNat index), .bytes id]⟩}

end LoadedToken

namespace Verifier

/-- The number of the name of revocation facts, and the symbols with that name. -/
def revocation (v : Verifier) : UInt64 × SymbolTable :=
  (SymbolTable.intern "revocation_id").run v.symbols

/-- The symbols that stages refer to: with a token the name of revocation facts is among them. -/
def stageSymbols (v : Verifier) : SymbolTable :=
  if v.token.isSome then v.revocation.2 else v.symbols

/-- The blocks after the first one. -/
def laterBlocks (v : Verifier) : List Block := v.token.elim [] LoadedToken.blocks

/-- What is known before any rule has been applied. -/
def givenFacts (v : Verifier) : Set Fact :=
  v.world.facts.toSet ∪ v.token.elim ∅ fun token => token.broughtFacts v.revocation.1

/-- The rules of the first block. -/
def authorityRules (v : Verifier) : List Rule := v.token.elim [] fun token => token.authority.rules

/-- The checks of the first block. -/
def authorityChecks (v : Verifier) : List Check :=
  v.token.elim [] fun token => token.authority.checks

/-- The rules of the first block and those of the verifier. -/
def firstRules (v : Verifier) : List Rule := v.authorityRules ++ v.rules

/-- What is known once a number of blocks after the first one have been taken in, each under its
    own rules only. -/
def knowledge (v : Verifier) : Nat → Set Fact
  | 0 => leastModel v.stageSymbols v.firstRules v.givenFacts
  | k + 1 =>
    match v.laterBlocks[k]? with
    | some block =>
      leastModel v.stageSymbols block.rules (v.knowledge k ∪ {fact | fact ∈ block.facts})
    | none => v.knowledge k

/-- Why the first invalid block is invalid, if there is one. -/
noncomputable def firstDefect (v : Verifier) : Option LogicError :=
  v.laterBlocks.zipIdx.findSome? fun (block, k) =>
    blockDefect v.stageSymbols (k + 1) block (v.knowledge (k + 1))

/-- The checks that fail: those of the verifier and of the first block where no later block has
    spoken, and those of each later block once that block has. -/
noncomputable def failures (v : Verifier) : List FailedCheck :=
  failing v.stageSymbols (v.knowledge 0) none v.checks ++
    failing v.stageSymbols (v.knowledge 0) (some 0) v.authorityChecks ++
    v.laterBlocks.zipIdx.flatMap fun (block, k) =>
      failing v.stageSymbols (v.knowledge (k + 1)) (some (k + 1)) block.checks

/-- The decision on the request in a verifier, stage by stage. -/
noncomputable def decision (v : Verifier) : Except LogicError Nat :=
  match v.authorityRules.find? fun rule => ¬ rule.RangeRestricted with
  | some rule => .error (.invalidRule 0 (rule.render v.symbols))
  | none =>
    match v.firstDefect with
    | some defect => .error defect
    | none =>
      if v.failures = [] then
        match firstPolicy v.stageSymbols (v.knowledge 0) v.policies with
        | some (policy, .allow) => .ok policy
        | some (policy, .deny) => .error (.denied policy)
        | none => .error .noMatchingPolicy
      else .error (.failedChecks v.failures)

/-- A request to read a file, under a token that grants the right to read the file and whose
    second block admits this file only. -/
def readRequest : Verifier where
  world := ⟨.ofList [⟨2, [.str 1, .str 7]⟩, ⟨3, [.str 1, .str 8]⟩], []⟩
  symbols := .ofList (SymbolTable.standard.names ++ ["file", "read", "readable", "admitted"])
  rules := []
  checks := []
  policies := [⟨[⟨⟨9, []⟩, [⟨2, [.str 1, .var 0]⟩, ⟨9, [.var 0]⟩], []⟩], .allow⟩]
  token := some
    { authority :=
        { symbols := .empty
          facts := [⟨4, [.str 0, .str 7, .str 8]⟩]
          rules := [⟨⟨9, [.var 0]⟩, [⟨4, [.str 0, .var 0, .str 8]⟩], []⟩]
          checks := []
          context := none
          version := Block.currentVersion }
      blocks :=
        [{ symbols := .empty
           facts := [⟨10, [.str 7]⟩]
           rules := []
           checks := [⟨[⟨⟨10, []⟩, [⟨2, [.str 1, .var 0]⟩, ⟨10, [.var 0]⟩], []⟩]⟩]
           context := none
           version := Block.currentVersion }]
      revocationIds := [[1], [2]] }

end Verifier

end Warrant
