import Warrant.Text.Quoted
import Warrant.Text.Words

namespace Warrant.Text.Hex

/-- Why a text is not the hexadecimal form of some bytes. -/
inductive Fault where
  | oddLength
  | invalid (byte : UInt8) (position : Nat)
  deriving DecidableEq, Repr

def Fault.message : Fault → String
  | oddLength => "Odd number of digits"
  | invalid byte position =>
    "Invalid character " ++ quotedChar (Char.ofNat byte.toNat) ++ " at position " ++
      toString position

def digit (n : Nat) : Char := Nat.digitChar n

/-- Two lower-case digits for each byte. -/
def encodeChars (bytes : List UInt8) : List Char :=
  bytes.flatMap fun b => [digit (b.toNat / 16), digit (b.toNat % 16)]

def encode (bytes : List UInt8) : String :=
  String.ofList (encodeChars bytes)

/-- Reads digits in pairs; `position` is that of the first of them. -/
def decodePairs (position : Nat) : List UInt8 → Except Fault (List UInt8)
  | [] => .ok []
  | [_] => .error .oddLength
  | a :: b :: rest =>
    match hexDigit? (Char.ofNat a.toNat), hexDigit? (Char.ofNat b.toNat) with
    | none, _ => .error (.invalid a position)
    | _, none => .error (.invalid b (position + 1))
    | some x, some y =>
      match decodePairs (position + 2) rest with
      | .ok bytes => .ok (UInt8.ofNat (16 * x + y) :: bytes)
      | .error fault => .error fault

/-- Reads pairs of digits, given as the bytes of a text. -/
def decode (text : List UInt8) : Except Fault (List UInt8) :=
  if text.length % 2 = 1 then .error .oddLength else decodePairs 0 text

end Warrant.Text.Hex
