import Warrant.Unicode.Category
import Warrant.Unicode.Property

namespace Warrant.Unicode

/-- The code points of the general categories with these names. -/
def categories (names : List String) : CodePoints :=
  CodePoints.union (names.filterMap category?)

/-- The code points of the properties with these names. -/
def properties (names : List String) : CodePoints :=
  CodePoints.union (names.filterMap property?)

def blanks : CodePoints := properties ["whitespace"]

def digits : CodePoints := categories ["nd"]

/-- Letters, marks, digits, connectors and joiners: what words are made of. -/
def wordPoints : CodePoints :=
  CodePoints.union [properties ["alphabetic", "joincontrol"], categories ["m", "nd", "pc"]]

def letters : CodePoints := properties ["alphabetic"]

def numbers : CodePoints := categories ["n"]

/-- Marks that attach to the character before them. Sound marks of narrow kana, which are letters,
    can stand alone. -/
def extenders : CodePoints := (properties ["graphemeextend"]).inter (categories ["m"])

/-- Controls, separators and everything that no character is assigned to. -/
def invisible : CodePoints := categories ["c", "z"]

def isBlank (c : Char) : Bool := blanks.contains c.toNat

/-- Whether a character is a decimal digit of some script; those of ASCII need no table. -/
def isDigit (c : Char) : Bool :=
  if c.toNat < 0x80 then c.isDigit else digits.contains c.toNat

/-- Whether words are made of a character; ASCII needs no table. -/
def isWord (c : Char) : Bool :=
  if c.toNat < 0x80 then c.isAlphanum || c == '_' else wordPoints.contains c.toNat

def isLetter (c : Char) : Bool := letters.contains c.toNat

def isLetterOrNumber (c : Char) : Bool := letters.contains c.toNat || numbers.contains c.toNat

def isExtender (c : Char) : Bool := 0x7F ≤ c.toNat && extenders.contains c.toNat

/-- Whether a character can be shown as it is; of the separators only the space can. -/
def isPrintable (c : Char) : Bool :=
  if c.toNat < 0x7F then 0x20 ≤ c.toNat else !invisible.contains c.toNat

end Warrant.Unicode
