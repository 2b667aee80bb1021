import Warrant.Signature
import Warrant.Signature.Edwards
import Warrant.Signature.Sha512

namespace Warrant.Signature.Ed25519

open Edwards

/-- The number of multiples of the base point. -/
def order : Nat :=
  7237005577332262213973186563042994240857116359379907606001950938285454250989

def basePoint : Point :=
  let x := 15112221349535400772501151409588531511454012693041857206046113283949847762202
  let y := 46316835694926478169428394003475163141307993866256225615783033603165251855960
  ⟨x, y, 1, mul x y⟩

/-- The number that the digest of a message writes, below the order. -/
def hash (message : List UInt8) : Nat :=
  Bytes.ofLittleEndian (Sha512.digest message) % order

/-- The number that a private key stands for: a multiple of eight whose highest bit is the one
    before the last. -/
def secret (key : PrivateKey) : Nat :=
  let n := Bytes.ofLittleEndian ((Sha512.digest key.bytes).take 32)
  Nat.pow 2 254 + n % Nat.pow 2 254 / 8 * 8

/-- What makes the signatures by a private key unpredictable. -/
def nonce (key : PrivateKey) : List UInt8 := (Sha512.digest key.bytes).drop 32

def isPublic (bytes : List UInt8) : Bool := (Point.decode? bytes).isSome

/-- A multiple of the base point. As each of them has a decodable form, the base point never has
    to stand in. -/
def publicBytes (key : PrivateKey) : List UInt8 :=
  let bytes := (basePoint.times 256 (secret key)).encode
  if isPublic bytes then bytes else basePoint.encode

theorem length_publicBytes (key : PrivateKey) : (publicBytes key).length = 32 := by
  simp only [publicBytes]
  split <;> exact Point.length_encode _

theorem isPublic_basePoint : isPublic basePoint.encode = true := by decide +kernel

theorem isPublic_publicBytes (key : PrivateKey) : isPublic (publicBytes key) = true := by
  simp only [publicBytes]
  split
  · assumption
  · exact isPublic_basePoint

/-- The number by which a public key is multiplied in a signature. -/
def challenge (commitment key message : List UInt8) : Nat := hash (commitment ++ key ++ message)

def sign (key : PrivateKey) (message : List UInt8) : Signature :=
  let r := hash (nonce key ++ message)
  let commitment := (basePoint.times 256 r).encode
  let s := (r + challenge commitment (publicBytes key) message * secret key) % order
  ⟨commitment ++ Bytes.littleEndian 32 s, by simp [commitment, Point.length_encode]⟩

/-- Whether a signature is good: its number is reduced, neither of its points is of small order,
    and the points fit. -/
def accepts (key message : List UInt8) (signature : Signature) : Bool :=
  let commitment := signature.bytes.take 32
  let s := Bytes.ofLittleEndian (signature.bytes.drop 32)
  match Point.decode? commitment, Point.decode? key with
  | some r, some a =>
    let k := challenge commitment key message
    s < order && !r.hasSmallOrder && !a.hasSmallOrder &&
      ((basePoint.times 256 s).plus (a.minus.times 256 k)).encode == commitment
  | _, _ => false

/-- The scheme whose keys are points of a curve. -/
def scheme : Scheme where
  isPublic := isPublic
  publicBytes := publicBytes
  sign := sign
  accepts := accepts
  length_publicBytes := length_publicBytes
  isPublic_publicBytes := isPublic_publicBytes

end Warrant.Signature.Ed25519
