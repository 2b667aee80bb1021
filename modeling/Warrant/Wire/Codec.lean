import Warrant.Bytes
import Warrant.Text.Utf8

namespace Warrant.Wire

open Bytes

/-- Why bytes cannot be read. -/
inductive Fault where
  | endOfInput
  | shortString
  | variant (found count : Nat)
  | boolean (found : UInt8)
  | optional (found : UInt8)
  | text (fault : Text.Utf8.Fault)
  deriving DecidableEq, Repr

def Fault.message : Fault → String
  | endOfInput => "io error: unexpected end of file"
  | shortString => "io error: "
  | variant found count =>
    "invalid value: integer `" ++ toString found ++ "`, expected variant index 0 <= i < " ++
      toString count
  | boolean found =>
    "invalid u8 while decoding bool, expected 0 or 1, found " ++ toString found.toNat
  | optional found => "tag for enum is not valid, found " ++ toString found.toNat
  | text fault => "string is not valid utf8: " ++ fault.message

/-- Reads a value from the beginning of some bytes. -/
abbrev Decoder := StateT (List UInt8) (Except Fault)

def encodeWord32 (n : UInt32) : List UInt8 := littleEndian 4 n.toNat

def encodeWord64 (n : UInt64) : List UInt8 := littleEndian 8 n.toNat

def encodeLength (n : Nat) : List UInt8 := littleEndian 8 n

def encodeVariant (n : Nat) : List UInt8 := littleEndian 4 n

def encodeBool (b : Bool) : List UInt8 := [if b then 1 else 0]

def encodeBytes (bytes : List UInt8) : List UInt8 := encodeLength bytes.length ++ bytes

def encodeString (text : String) : List UInt8 := encodeBytes (Text.Utf8.encode text)

/-- The number of items, then the items. -/
def encodeList {α : Type} (item : α → List UInt8) (items : List α) : List UInt8 :=
  encodeLength items.length ++ items.flatMap item

def encodeOption {α : Type} (item : α → List UInt8) : Option α → List UInt8
  | none => [0]
  | some x => 1 :: item x

/-- Reads a number of `width` bytes. -/
def number (width : Nat) : Decoder Nat := fun bytes =>
  if (bytes.take width).length = width then
    .ok (ofLittleEndian (bytes.take width), bytes.drop width)
  else .error .endOfInput

def word32 : Decoder UInt32 := do return UInt32.ofNat (← number 4)

def word64 : Decoder UInt64 := do return UInt64.ofNat (← number 8)

/-- Reads which of `count` variants follows. -/
def variant (count : Nat) : Decoder Nat := do
  let n ← number 4
  if n < count then return n else throw (.variant n count)

def bool : Decoder Bool := do
  match ← number 1 with
  | 0 => return false
  | 1 => return true
  | n => throw (.boolean (UInt8.ofNat n))

/-- Reads a given number of items. -/
def items {α : Type} (item : Decoder α) : Nat → Decoder (List α)
  | 0 => return []
  | n + 1 => do
    let x ← item
    let xs ← items item n
    return x :: xs

/-- Reads a number of items, then the items. -/
def list {α : Type} (item : Decoder α) : Decoder (List α) := do
  items item (← number 8)

def bytes : Decoder (List UInt8) := do
  let n ← number 8
  fun rest =>
    if (rest.take n).length = n then .ok (rest.take n, rest.drop n) else .error .endOfInput

def string : Decoder String := do
  let n ← number 8
  fun rest =>
    if (rest.take n).length = n then
      match Text.Utf8.decode (rest.take n) with
      | .ok text => .ok (text, rest.drop n)
      | .error fault => .error (.text fault)
    else .error .shortString

def option {α : Type} (item : Decoder α) : Decoder (Option α) := do
  match ← number 1 with
  | 0 => return none
  | 1 => return some (← item)
  | n => throw (.optional (UInt8.ofNat n))

end Warrant.Wire
