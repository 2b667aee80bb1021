import Warrant.Signature

namespace Warrant

/-- Some data and the key that signs what follows, signed by the key before. -/
structure SignedBlock (scheme : Scheme) where
  data : List UInt8
  nextKey : PublicKey scheme
  signature : Signature
  deriving DecidableEq

/-- The end of a chain: either a key with which it can be continued, or a signature that closes
    it. -/
inductive Tail where
  | growing (key : PrivateKey)
  | sealed (signature : Signature)
  deriving DecidableEq

/-- Signed blocks, each with the key of the one before. The key of the first is a root key, whose
    number may be noted. -/
structure Chain (scheme : Scheme) where
  rootKeyId : Option UInt32
  authority : SignedBlock scheme
  others : List (SignedBlock scheme)
  tail : Tail
  deriving DecidableEq

/-- Why a chain cannot be continued, or does not hold. -/
inductive ChainError where
  | alreadySealed
  | wrongSignature (block : Nat)
  | wrongKey
  | wrongSeal
  deriving DecidableEq, Repr

variable {scheme : Scheme}

/-- What is signed of a block. -/
def blockMessage (data : List UInt8) (nextKey : PublicKey scheme) : List UInt8 :=
  data ++ nextKey.bytes

namespace SignedBlock

def message (block : SignedBlock scheme) : List UInt8 := blockMessage block.data block.nextKey

/-- What is signed of a last block in order to seal its chain. -/
def sealMessage (block : SignedBlock scheme) : List UInt8 :=
  block.message ++ block.signature.bytes

/-- A block signed with `signer`, after which `next` signs. -/
def create (data : List UInt8) (signer next : PrivateKey) : SignedBlock scheme :=
  let nextKey := next.toPublic scheme
  ⟨data, nextKey, scheme.sign signer (blockMessage data nextKey)⟩

end SignedBlock

namespace Chain

def blocks (chain : Chain scheme) : List (SignedBlock scheme) := chain.authority :: chain.others

def last (chain : Chain scheme) : SignedBlock scheme := chain.others.getLastD chain.authority

def isSealed (chain : Chain scheme) : Bool :=
  match chain.tail with
  | .growing _ => false
  | .sealed _ => true

/-- A chain of one block. -/
def create (rootKeyId : Option UInt32) (data : List UInt8) (root next : PrivateKey) :
    Chain scheme :=
  ⟨rootKeyId, SignedBlock.create data root next, [], .growing next⟩

/-- The key that signs the next block. -/
def signer (chain : Chain scheme) : Except ChainError PrivateKey :=
  match chain.tail with
  | .growing key => .ok key
  | .sealed _ => .error .alreadySealed

/-- The chain with one more block. -/
def append (chain : Chain scheme) (data : List UInt8) (next : PrivateKey) :
    Except ChainError (Chain scheme) := do
  let signer ← chain.signer
  let block := SignedBlock.create data signer next
  return { chain with others := chain.others ++ [block], tail := .growing next }

/-- The chain with a signature in place of its last key. -/
def toSealed (chain : Chain scheme) : Except ChainError (Chain scheme) := do
  let signer ← chain.signer
  return { chain with tail := .sealed (scheme.sign signer chain.last.sealMessage) }

/-- Follows blocks from the key that signs the first of them to the key that comes after the
    last. `index` blocks come before. -/
def follow (key : PublicKey scheme) (index : Nat) :
    List (SignedBlock scheme) → Except ChainError (PublicKey scheme)
  | [] => .ok key
  | block :: rest =>
    if key.verifies block.message block.signature then follow block.nextKey (index + 1) rest
    else .error (.wrongSignature index)

/-- Whether every block is signed with the key before it and the tail fits the last key. -/
def verify (chain : Chain scheme) (root : PublicKey scheme) : Except ChainError Unit := do
  let key ← follow root 0 chain.blocks
  match chain.tail with
  | .growing secret => if secret.toPublic scheme = key then return else throw .wrongKey
  | .sealed signature =>
    if key.verifies chain.last.sealMessage signature then return else throw .wrongSeal

end Chain

end Warrant
