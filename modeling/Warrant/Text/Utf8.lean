namespace Warrant.Text.Utf8

/-- Where bytes stop being the encoding of a text: after how many good bytes, and how many bytes
    are wrong there, unless the bytes end too soon. -/
structure Fault where
  index : Nat
  length : Option Nat
  deriving DecidableEq, Repr

def Fault.message (fault : Fault) : String :=
  match fault.length with
  | some n =>
    "invalid utf-8 sequence of " ++ toString n ++ " bytes from index " ++ toString fault.index
  | none => "incomplete utf-8 byte sequence from index " ++ toString fault.index

def encode (text : String) : List UInt8 := text.toUTF8.toList

/-- The bounds of the second byte of an encoding and the number of bytes after that, by the first
    byte. -/
def continuation? (first : UInt8) : Option (UInt8 × UInt8 × Nat) :=
  if 0xC2 ≤ first ∧ first ≤ 0xDF then some (0x80, 0xBF, 0)
  else if first = 0xE0 then some (0xA0, 0xBF, 1)
  else if first = 0xED then some (0x80, 0x9F, 1)
  else if 0xE1 ≤ first ∧ first ≤ 0xEF then some (0x80, 0xBF, 1)
  else if first = 0xF0 then some (0x90, 0xBF, 2)
  else if 0xF1 ≤ first ∧ first ≤ 0xF3 then some (0x80, 0xBF, 2)
  else if first = 0xF4 then some (0x80, 0x8F, 2)
  else none

/-- How far some bytes continue an encoding: the number of good bytes, and whether the bytes end
    before the encoding does. -/
def goodTail (lo hi : UInt8) (more good : Nat) : List UInt8 → Nat × Bool × Bool
  | [] => (good, false, true)
  | b :: bytes =>
    if lo ≤ b ∧ b ≤ hi then
      match more with
      | 0 => (good + 1, true, false)
      | more + 1 => goodTail 0x80 0xBF more (good + 1) bytes
    else (good, false, false)

/-- The first fault of some bytes. The next `skip` bytes belong to an encoding that is good. -/
def firstFault (index skip : Nat) : List UInt8 → Option Fault
  | [] => none
  | b :: bytes =>
    match skip with
    | skip + 1 => firstFault (index + 1) skip bytes
    | 0 =>
      if b < 0x80 then firstFault (index + 1) 0 bytes
      else
        match continuation? b with
        | none => some ⟨index, some 1⟩
        | some (lo, hi, more) =>
          match goodTail lo hi more 0 bytes with
          | (good, true, _) => firstFault (index + 1) good bytes
          | (_, false, true) => some ⟨index, none⟩
          | (good, false, false) => some ⟨index, some (good + 1)⟩

/-- The text that some bytes encode. -/
def decode (bytes : List UInt8) : Except Fault String :=
  match String.fromUTF8? ⟨bytes.toArray⟩ with
  | some text => .ok text
  | none => .error ((firstFault 0 0 bytes).getD ⟨bytes.length, none⟩)

end Warrant.Text.Utf8
