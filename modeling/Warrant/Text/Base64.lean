namespace Warrant.Text.Base64

/-- Why a text is not the base 64 form of some bytes. -/
inductive Fault where
  | symbol (offset : Nat) (byte : UInt8)
  | length (length : Nat)
  | lastSymbol (offset : Nat) (byte : UInt8)
  | padding
  deriving DecidableEq, Repr

def Fault.message : Fault → String
  | .symbol offset byte =>
    "Invalid symbol " ++ toString byte.toNat ++ ", offset " ++ toString offset ++ "."
  | .length n => "Invalid input length: " ++ toString n
  | .lastSymbol offset byte =>
    "Invalid last symbol " ++ toString byte.toNat ++ ", offset " ++ toString offset ++ "."
  | .padding => "Invalid padding"

/-- The 64 symbols, none of which means anything in an address. -/
def alphabet : List Char :=
  "ABCDEFGHIJKLMNOPQRSTUVWXYZabcdefghijklmnopqrstuvwxyz0123456789-_".toList

def symbol (n : Nat) : Char := alphabet.getD n 'A'

/-- The value of a symbol, given as a byte. -/
def value? (byte : UInt8) : Option Nat :=
  alphabet.findIdx? fun c => c.toNat = byte.toNat

def pad : UInt8 := 61

/-- Three bytes make four symbols; the last group is filled up with padding. -/
def encodeChars : List UInt8 → List Char
  | [] => []
  | [a] => [symbol (a.toNat / 4), symbol (a.toNat % 4 * 16), '=', '=']
  | [a, b] =>
    [symbol (a.toNat / 4), symbol (a.toNat % 4 * 16 + b.toNat / 16),
      symbol (b.toNat % 16 * 4), '=']
  | a :: b :: c :: rest =>
    symbol (a.toNat / 4) :: symbol (a.toNat % 4 * 16 + b.toNat / 16) ::
      symbol (b.toNat % 16 * 4 + c.toNat / 64) :: symbol (c.toNat % 64) :: encodeChars rest

def encode (bytes : List UInt8) : String :=
  String.ofList (encodeChars bytes)

/-- The values of the symbols of the last group and the number of padding bytes after them.
    Padding may only stand at the end, after two symbols or more. -/
def lastGroup (start : Nat) : Nat → Option Nat → List UInt8 → Except Fault (List Nat × Nat)
  | _, _, [] => .ok ([], 0)
  | index, firstPad, byte :: rest =>
    if byte = pad then
      if index < 2 then .error (.symbol (start + index) byte)
      else
        match lastGroup start (index + 1) (some (firstPad.getD index)) rest with
        | .ok (values, pads) => .ok (values, pads + 1)
        | .error fault => .error fault
    else
      match firstPad, value? byte with
      | some at_, _ => .error (.symbol (start + at_) pad)
      | none, none => .error (.symbol (start + index) byte)
      | none, some v =>
        match lastGroup start (index + 1) none rest with
        | .ok (values, pads) => .ok (v :: values, pads)
        | .error fault => .error fault

/-- The bytes of the last group. The bits of its last symbol that belong to no byte are zero. -/
def decodeLast (start : Nat) (group : List UInt8) : Except Fault (List UInt8) :=
  match lastGroup start 0 none group with
  | .error fault => .error fault
  | .ok (values, pads) =>
    let loose (n : Nat) : Except Fault (List UInt8) :=
      .error (.lastSymbol (start + n - 1) (group.getD (n - 1) 0))
    if values.length < 2 then .error (.length (start + values.length))
    else if (pads + values.length) % 4 ≠ 0 then .error .padding
    else match values with
      | [a, b] =>
        if b % 16 ≠ 0 then loose 2 else .ok [UInt8.ofNat (a * 4 + b / 16)]
      | [a, b, c] =>
        if c % 4 ≠ 0 then loose 3
        else .ok [UInt8.ofNat (a * 4 + b / 16), UInt8.ofNat (b % 16 * 16 + c / 4)]
      | a :: b :: c :: d :: _ =>
        .ok [UInt8.ofNat (a * 4 + b / 16), UInt8.ofNat (b % 16 * 16 + c / 4),
          UInt8.ofNat (c % 4 * 64 + d)]
      | _ => .ok []

/-- The bytes of the groups from position `start` on. Only the last group may be padded. -/
def decodeGroups (start : Nat) : List UInt8 → Except Fault (List UInt8)
  | a :: b :: c :: d :: e :: rest =>
    match value? a, value? b, value? c, value? d with
    | some w, some x, some y, some z =>
      match decodeGroups (start + 4) (e :: rest) with
      | .error fault => .error fault
      | .ok bytes =>
        .ok (UInt8.ofNat (w * 4 + x / 16) :: UInt8.ofNat (x % 16 * 16 + y / 4) ::
          UInt8.ofNat (y % 4 * 64 + z) :: bytes)
    | none, _, _, _ => .error (.symbol start a)
    | _, none, _, _ => .error (.symbol (start + 1) b)
    | _, _, none, _ => .error (.symbol (start + 2) c)
    | _, _, _, none => .error (.symbol (start + 3) d)
  | group => decodeLast start group

/-- Reads a padded text, given as bytes. A single byte after whole groups is reported first when
    it is no symbol, for it is most often the end of a line. -/
def decode (text : List UInt8) : Except Fault (List UInt8) :=
  match text.getLast? with
  | none => .ok []
  | some byte =>
    if text.length % 4 = 1 ∧ byte ≠ pad ∧ value? byte = none then
      .error (.symbol (text.length - 1) byte)
    else decodeGroups 0 text

end Warrant.Text.Base64
