namespace Warrant

/-- Why bytes are no key or no signature. -/
inductive KeyFault where
  | keySize (size : Nat)
  | signatureSize (size : Nat)
  | notPublic
  deriving DecidableEq, Repr

structure PrivateKey where
  bytes : List UInt8
  size : bytes.length = 32
  deriving DecidableEq

structure Signature where
  bytes : List UInt8
  size : bytes.length = 64
  deriving DecidableEq

/-- Rules for signing messages and for telling what is signed. Not all bytes are public keys. -/
structure Scheme where
  isPublic : List UInt8 → Bool
  publicBytes : PrivateKey → List UInt8
  sign : PrivateKey → List UInt8 → Signature
  /-- Whether a signature of a message is good under the public key of these bytes. -/
  accepts : List UInt8 → List UInt8 → Signature → Bool
  length_publicBytes : ∀ key, (publicBytes key).length = 32
  isPublic_publicBytes : ∀ key, isPublic (publicBytes key) = true

structure PublicKey (scheme : Scheme) where
  bytes : List UInt8
  size : bytes.length = 32
  valid : scheme.isPublic bytes = true
  deriving DecidableEq

namespace PrivateKey

def ofBytes (bytes : List UInt8) : Except KeyFault PrivateKey :=
  if h : bytes.length = 32 then .ok ⟨bytes, h⟩ else .error (.keySize bytes.length)

/-- The public key that belongs to a private key. -/
def toPublic (scheme : Scheme) (key : PrivateKey) : PublicKey scheme :=
  ⟨scheme.publicBytes key, scheme.length_publicBytes key, scheme.isPublic_publicBytes key⟩

end PrivateKey

def Signature.ofBytes (bytes : List UInt8) : Except KeyFault Signature :=
  if h : bytes.length = 64 then .ok ⟨bytes, h⟩ else .error (.signatureSize bytes.length)

namespace PublicKey

variable {scheme : Scheme}

def ofBytes (bytes : List UInt8) : Except KeyFault (PublicKey scheme) :=
  if h : bytes.length = 32 then
    if valid : scheme.isPublic bytes = true then .ok ⟨bytes, h, valid⟩ else .error .notPublic
  else .error (.keySize bytes.length)

def verifies (key : PublicKey scheme) (message : List UInt8) (signature : Signature) : Bool :=
  scheme.accepts key.bytes message signature

end PublicKey

end Warrant
