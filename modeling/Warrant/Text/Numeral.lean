namespace Warrant.Text

/-- The number that some decimal digits write. -/
def decimal (digits : List Char) : Nat :=
  digits.foldl (fun n d => 10 * n + (d.toNat - '0'.toNat)) 0

/-- Reads a text of one or more decimal digits. -/
def natural? (text : List Char) : Option Nat :=
  if text ≠ [] ∧ text.all Char.isDigit then some (decimal text) else none

/-- Reads a signed 64-bit integer; only a minus sign may stand before its digits. -/
def integer64? (text : List Char) : Option Int64 :=
  match text with
  | '-' :: digits =>
    match natural? digits with
    | some n => if Int64.minValue.toInt ≤ -n then some (Int64.ofInt (-n)) else none
    | none => none
  | _ =>
    match natural? text with
    | some n => if n ≤ Int64.maxValue.toInt then some (Int64.ofNat n) else none
    | none => none

/-- Reads an unsigned 64-bit integer; a plus sign may stand before its digits. -/
def word64? (text : List Char) : Option UInt64 :=
  match natural? (if text.head? = some '+' then text.tail else text) with
  | some n => if n < UInt64.size then some (UInt64.ofNat n) else none
  | none => none

end Warrant.Text
