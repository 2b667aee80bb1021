import Warrant.Error
import Warrant.Wire.Content

namespace Warrant

/-- What is kept of a verifier. -/
structure SavedVerifier where
  symbols : SymbolTable
  facts : List Fact
  rules : List Rule
  checks : List Check
  policies : List Policy
  deriving DecidableEq

namespace Wire

def encodeSaved (saved : SavedVerifier) : List UInt8 :=
  encodeWord32 Block.currentVersion ++ encodeList encodeString saved.symbols.names ++
    encodeList encodePredicate saved.facts ++ encodeList encodeRule saved.rules ++
    encodeList encodeCheck saved.checks ++ encodeList encodePolicy saved.policies

/-- Reads a version and what is kept of a verifier. -/
def saved : Decoder (UInt32 × SavedVerifier) := do
  let version ← word32
  let symbols ← list string
  let facts ← list predicate
  let rules ← list rule
  let checks ← list check
  let policies ← list policy
  return (version, ⟨.ofList symbols, facts, rules, checks, policies⟩)

end Wire

namespace SavedVerifier

/-- Facts, rules, checks and policies that may be read from bytes. The first that may not is
    reported. -/
def validate (saved : SavedVerifier) : Except TermError Unit := do
  saved.facts.forM PredicateOf.validateFact
  saved.rules.forM RuleOf.validate
  saved.checks.forM CheckOf.validate
  saved.policies.forM PolicyOf.validate

def toBytes (saved : SavedVerifier) : List UInt8 := Wire.encodeSaved saved

/-- What some bytes begin with, if it may be read. -/
def ofBytes (bytes : List UInt8) : Except Error SavedVerifier :=
  match Wire.saved bytes with
  | .error fault => .error (.format (.envelope fault))
  | .ok ((version, saved), _) =>
    if Block.currentVersion < version then .error (.format (.version version))
    else
      match saved.validate with
      | .error fault => .error (.term fault)
      | .ok () => .ok saved

end SavedVerifier

end Warrant
