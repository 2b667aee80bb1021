import Warrant.Block
import Warrant.Chain
import Warrant.Grammar.Statement
import Warrant.Text.Base64
import Warrant.Wire.Codec
import Warrant.World

namespace Warrant

/-- Why bytes are no token, block or saved verifier. -/
inductive FormatError where
  | unknownRoot
  | envelope (fault : Wire.Fault)
  | block (fault : Wire.Fault)
  | unknownSymbol (symbol : UInt64)
  | version (found : UInt32)
  | key (fault : KeyFault)
  | base64 (fault : Text.Base64.Fault)
  deriving DecidableEq, Repr

/-- A check that did not pass: its block, if it belongs to one, its place there and its text. -/
structure FailedCheck where
  block : Option Nat
  check : Nat
  text : String
  deriving DecidableEq, Repr

/-- Why a token is refused. -/
inductive LogicError where
  | invalidFact (block : Nat) (text : String)
  | invalidRule (block : Nat) (text : String)
  | failedChecks (checks : List FailedCheck)
  | tokenPresent
  | denied (policy : Nat)
  | noMatchingPolicy
  deriving DecidableEq, Repr

/-- Why a text is not understood. -/
inductive InputError where
  | grammar (fault : Grammar.SyntaxError)
  | key (fault : Text.Hex.Fault)
  | queryNotStored
  | tokenUsage
  | limitsUsage
  | unknownCommand (word : String)
  deriving DecidableEq, Repr

inductive Error where
  | format (cause : FormatError)
  | chain (cause : ChainError)
  | logic (cause : LogicError)
  | runLimit (cause : RunLimitError)
  | overlappingSymbols
  | missingSymbols
  | term (cause : TermError)
  | input (cause : InputError)
  deriving DecidableEq, Repr

def KeyFault.message : KeyFault → String
  | keySize n => "invalid key size: " ++ toString n
  | signatureSize n => "invalid signature size: " ++ toString n
  | notPublic => "invalid key: signature error: Cannot decompress Edwards point"

def FormatError.message : FormatError → String
  | unknownRoot => "the root public key was not recognized"
  | envelope fault => "could not deserialize the wrapper object: " ++ fault.message
  | block fault => "could not deserialize the block: " ++ fault.message
  | unknownSymbol symbol =>
    "could not deserialize the block: unknown symbol " ++ toString symbol.toNat
  | version found =>
    "block format version is higher than supported (" ++ toString found.toNat ++ " > " ++
      toString Block.currentVersion.toNat ++ ")"
  | key fault => fault.message
  | base64 fault => "cannot decode base64 token: " ++ fault.message

def FailedCheck.message (failed : FailedCheck) : String :=
  "check " ++ toString failed.check ++
    (match failed.block with
    | some block => " in block " ++ toString block
    | none => " provided by the verifier") ++ " failed: " ++ failed.text

def LogicError.message : LogicError → String
  | invalidFact block text =>
    "a fact provided by block " ++ toString block ++ " had the authority or ambient tag: " ++ text
  | invalidRule block text =>
    "a rule provided by block " ++ toString block ++ " generates authority or ambient facts, " ++
      "or has variables not bound by its body: " ++ text
  | failedChecks checks => "checks failed: " ++ "; ".intercalate (checks.map FailedCheck.message)
  | tokenPresent => "the verifier already contains a token"
  | denied policy => "denied by policy " ++ toString policy
  | noMatchingPolicy => "no matching policy was found"

def InputError.message : InputError → String
  | grammar fault => fault.message
  | key fault => fault.message
  | queryNotStored => "queries are not stored in the verifier"
  | tokenUsage => "usage: :token <base64> <hex root key>"
  | limitsUsage => "usage: :limits <facts> <iterations> <millis>"
  | unknownCommand word => "unknown command " ++ word ++ ", try :help"

def ChainError.message : ChainError → String
  | alreadySealed => "tried to append a block to a sealed token"
  | wrongSignature block =>
    "error in the token's cryptographic signature: block " ++ toString block ++
      " has not been signed with the correct key"
  | wrongKey =>
    "error in the token's cryptographic signature: the last public key does not match the " ++
      "private key"
  | wrongSeal =>
    "error in the token's cryptographic signature: the final signature of the sealed token is " ++
      "invalid"

def Error.message : Error → String
  | format cause => "error deserializing or verifying the token: " ++ cause.message
  | chain cause => cause.message
  | logic cause => "check validation failed: " ++ cause.message
  | runLimit cause => "reached datalog execution limit: " ++ cause.message
  | overlappingSymbols => "multiple blocks declare the same symbols"
  | missingSymbols => "the symbol table is missing either \"authority\" or \"ambient\""
  | term cause => "invalid term: " ++ cause.message
  | input cause => "datalog parsing error: " ++ cause.message

end Warrant
