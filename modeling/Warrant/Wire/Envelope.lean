import Warrant.Error
import Warrant.Wire.Codec

namespace Warrant

variable {scheme : Scheme}

namespace Wire

/-- A signed block whose key and signature may have any size. -/
structure LooseBlock where
  data : List UInt8
  nextKey : List UInt8
  signature : List UInt8

def encodeSignedBlock (block : SignedBlock scheme) : List UInt8 :=
  encodeBytes block.data ++ encodeBytes block.nextKey.bytes ++ encodeBytes block.signature.bytes

def looseBlock : Decoder LooseBlock := do return ⟨← bytes, ← bytes, ← bytes⟩

def encodeTail : Tail → List UInt8
  | .growing key => encodeVariant 0 ++ encodeBytes key.bytes
  | .sealed signature => encodeVariant 1 ++ encodeBytes signature.bytes

/-- Reads a tail: whether it is sealed, and its key or signature of any size. -/
def looseTail : Decoder (Bool × List UInt8) := do
  let which ← variant 2
  return (which = 1, ← bytes)

def encodeChain (chain : Chain scheme) : List UInt8 :=
  encodeOption encodeWord32 chain.rootKeyId ++ encodeSignedBlock chain.authority ++
    encodeList encodeSignedBlock chain.others ++ encodeTail chain.tail

/-- A chain whose keys and signatures may have any size. -/
structure LooseChain where
  rootKeyId : Option UInt32
  authority : LooseBlock
  others : List LooseBlock
  isSealed : Bool
  tail : List UInt8

def looseChain : Decoder LooseChain := do
  let rootKeyId ← option word32
  let authority ← looseBlock
  let others ← list looseBlock
  let (isSealed, tail) ← looseTail
  return ⟨rootKeyId, authority, others, isSealed, tail⟩

/-- The block with its key and its signature, if they are such. -/
def LooseBlock.fit (block : LooseBlock) : Except KeyFault (SignedBlock scheme) := do
  let nextKey ← PublicKey.ofBytes block.nextKey
  let signature ← Signature.ofBytes block.signature
  return ⟨block.data, nextKey, signature⟩

/-- The chain with its keys and signatures, if they are such. -/
def LooseChain.fit (chain : LooseChain) : Except KeyFault (Chain scheme) := do
  let authority ← chain.authority.fit
  let others ← chain.others.mapM LooseBlock.fit
  let tail ←
    if chain.isSealed then Tail.sealed <$> Signature.ofBytes chain.tail
    else Tail.growing <$> PrivateKey.ofBytes chain.tail
  return ⟨chain.rootKeyId, authority, others, tail⟩

end Wire

namespace Chain

def toBytes (chain : Chain scheme) : List UInt8 := Wire.encodeChain chain

/-- The chain that some bytes begin with. Its signatures are not verified. -/
def ofBytes (bytes : List UInt8) : Except FormatError (Chain scheme) :=
  match Wire.looseChain bytes with
  | .error fault => .error (.envelope fault)
  | .ok (loose, _) =>
    match loose.fit with
    | .error fault => .error (.key fault)
    | .ok chain => .ok chain

end Chain

end Warrant
