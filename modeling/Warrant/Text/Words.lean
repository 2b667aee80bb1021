namespace Warrant.Text

/-- The longest pieces of a text that hold no separator, in order. -/
def pieces (isSeparator : Char → Bool) : List Char → List (List Char)
  | [] => []
  | c :: cs =>
    if isSeparator c then pieces isSeparator cs
    else match cs with
      | [] => [[c]]
      | d :: _ =>
        if isSeparator d then [c] :: pieces isSeparator cs
        else match pieces isSeparator cs with
          | [] => [[c]]
          | piece :: rest => (c :: piece) :: rest

/-- The value of a hexadecimal digit. -/
def hexDigit? (c : Char) : Option Nat :=
  if '0' ≤ c ∧ c ≤ '9' then some (c.toNat - '0'.toNat)
  else if 'a' ≤ c ∧ c ≤ 'f' then some (c.toNat - 'a'.toNat + 10)
  else if 'A' ≤ c ∧ c ≤ 'F' then some (c.toNat - 'A'.toNat + 10)
  else none

/-- The number written by some hexadecimal digits; other characters are passed over. -/
def hexNumber (digits : List Char) : Nat :=
  (digits.filterMap hexDigit?).foldl (fun n d => 16 * n + d) 0

end Warrant.Text
