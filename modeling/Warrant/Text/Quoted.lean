import Warrant.Unicode.Character

namespace Warrant.Text

/-- The digits of `n` in base 16, in lower case. -/
def hexText (n : Nat) : List Char := Nat.toDigits 16 n

/-- A character given by its number. -/
def numbered (c : Char) : List Char :=
  ['\\', 'u', '\x7b'] ++ hexText c.toNat ++ ['\x7d']

/-- One character of a text between two marks. Controls with a short name, the backslash and the
    mark itself follow a backslash; a character that is invisible or would attach to the one
    before it is given by its number. -/
def escapeChar (mark c : Char) : List Char :=
  if c = '\x00' then ['\\', '0']
  else if c = '\t' then ['\\', 't']
  else if c = '\r' then ['\\', 'r']
  else if c = '\n' then ['\\', 'n']
  else if c = '\\' ∨ c = mark then ['\\', c]
  else if Unicode.isExtender c then numbered c
  else if Unicode.isPrintable c then [c]
  else numbered c

/-- The text between two marks, escaped. -/
def quoteChars (mark : Char) (text : List Char) : List Char :=
  mark :: text.flatMap (escapeChar mark) ++ [mark]

/-- A text in double quotes. -/
def quoted (text : String) : String :=
  String.ofList (quoteChars '"' text.toList)

/-- A character in single quotes. -/
def quotedChar (c : Char) : String :=
  String.ofList (quoteChars '\x27' [c])

/-- Texts in double quotes, between square brackets. -/
def quotedList (texts : List String) : String :=
  "[" ++ ", ".intercalate (texts.map quoted) ++ "]"

end Warrant.Text
