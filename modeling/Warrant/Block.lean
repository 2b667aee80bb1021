import Warrant.Render
import Warrant.Source
import Warrant.Validity

namespace Warrant

/-- What one link of a token says. Its indices refer to the symbols of the whole token, of which
    `symbols` are those that the block introduces. -/
structure Block where
  symbols : SymbolTable
  facts : List Fact
  rules : List Rule
  checks : List Check
  context : Option String
  version : UInt32
  deriving DecidableEq

namespace Block

/-- The version of a new block. Blocks of a higher one cannot be read. -/
def currentVersion : UInt32 := 2

/-- Facts, rules and checks that may be read from bytes. The first that may not is reported. -/
def validate (block : Block) : Except TermError Unit := do
  block.facts.forM PredicateOf.validateFact
  block.rules.forM RuleOf.validate
  block.checks.forM CheckOf.validate

/-- A block under the symbols of its token. -/
def render (symbols : SymbolTable) (block : Block) : String :=
  "Block \x7b\n\t\tsymbols: " ++ Text.quotedList block.symbols.names ++
    "\n\t\tversion: " ++ toString block.version.toNat ++
    "\n\t\tcontext: \"" ++ block.context.getD "" ++
    "\"\n\t\tfacts: [" ++ commaSeparated (block.facts.map (PredicateOf.render symbols)) ++
    "]\n\t\trules: [" ++ commaSeparated (block.rules.map (RuleOf.render symbols)) ++
    "]\n\t\tchecks: [" ++ commaSeparated (block.checks.map (CheckOf.render symbols)) ++
    "]\n\t\x7d"

end Block

/-- A block before its strings are numbered. -/
structure BlockDraft where
  facts : List Source.Fact := []
  rules : List Source.Rule := []
  checks : List Source.Check := []
  context : Option String := none

namespace BlockDraft

def empty : BlockDraft := {}

def addFact (draft : BlockDraft) (fact : Source.Fact) : BlockDraft :=
  { draft with facts := draft.facts ++ [fact] }

def addRule (draft : BlockDraft) (rule : Source.Rule) : BlockDraft :=
  { draft with rules := draft.rules ++ [rule] }

def addCheck (draft : BlockDraft) (check : Source.Check) : BlockDraft :=
  { draft with checks := draft.checks ++ [check] }

def setContext (draft : BlockDraft) (context : String) : BlockDraft :=
  { draft with context := some context }

/-- Demands that the verifier is asked about one resource. -/
def checkResource (draft : BlockDraft) (resource : String) : BlockDraft :=
  draft.addCheck (.ofRule (Source.rule "check_resource" []
    [Source.predicate "resource" [.str "ambient", .str resource]]))

/-- Demands that the verifier is asked about one operation. -/
def checkOperation (draft : BlockDraft) (operation : String) : BlockDraft :=
  draft.addCheck (.ofRule (Source.rule "check_operation" []
    [Source.predicate "operation" [.str "ambient", .str operation]]))

/-- Demands that the time is not after a date, given in milliseconds since the start of 1970. -/
def expires (draft : BlockDraft) (millis : Int) : BlockDraft :=
  draft.addCheck (.ofRule (Source.constrainedRule "expiration" [.var "time"]
    [Source.predicate "current_time" [.str "ambient", .var "time"]]
    [[.value (.var "time"), .value (Source.date millis), .binary .lessOrEqual]]))

/-- The block of a draft for a token that has some symbols already. -/
def build (draft : BlockDraft) (symbols : SymbolTable) : Block :=
  let content : StateM SymbolTable (List Fact × List Rule × List Check) := do
    let facts ← draft.facts.mapM PredicateOf.intern
    let rules ← draft.rules.mapM RuleOf.intern
    let checks ← draft.checks.mapM CheckOf.intern
    return (facts, rules, checks)
  let ((facts, rules, checks), table) := content.run symbols
  { symbols := table.drop symbols.size
    facts := facts
    rules := rules
    checks := checks
    context := draft.context
    version := Block.currentVersion }

end BlockDraft

end Warrant
