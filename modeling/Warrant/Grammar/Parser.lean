namespace Warrant.Grammar

/-- What was missing where a text could not be read on. -/
inductive Fault where
  | sign
  | lexeme
  | meaning
  | quote
  deriving DecidableEq, Repr

def Fault.name : Fault → String
  | sign => "Tag"
  | lexeme => "RegexpFind"
  | meaning => "Verify"
  | quote => "Char"

/-- What comes of reading from a text: a value and the text after it, a mismatch, after which
    something else may be tried at the same place, or a failure, which is final. -/
inductive Outcome (α : Type) where
  | ok (value : α) (rest : List Char)
  | mismatch (fault : Fault) (rest : List Char)
  | failure (fault : Fault) (rest : List Char)
  deriving DecidableEq, Repr

abbrev Parser (α : Type) := List Char → Outcome α

namespace Parser

variable {α : Type}

instance : Monad Parser where
  pure value := fun text => .ok value text
  bind p next := fun text =>
    match p text with
    | .ok value rest => next value rest
    | .mismatch fault rest => .mismatch fault rest
    | .failure fault rest => .failure fault rest

/-- Tries a second parser where the first one mismatches. -/
def orElse (p q : Parser α) : Parser α := fun text =>
  match p text with
  | .mismatch _ _ => q text
  | outcome => outcome

/-- Reads something that may be missing. -/
def optional (p : Parser α) : Parser (Option α) := fun text =>
  match p text with
  | .ok value rest => .ok (some value) rest
  | .mismatch _ _ => .ok none text
  | .failure fault rest => .failure fault rest

/-- Reads further items for as long as there is a separator with an item after it. `count` items
    are enough to reach the end of the text. -/
def separatedTail (separator : Parser Unit) (item : Parser α) : Nat → Parser (List α)
  | 0, text => .ok [] text
  | count + 1, text =>
    match separator text with
    | .mismatch _ _ => .ok [] text
    | .failure fault rest => .failure fault rest
    | .ok () rest =>
      match item rest with
      | .mismatch _ _ => .ok [] text
      | .failure fault rest => .failure fault rest
      | .ok value rest =>
        match separatedTail separator item count rest with
        | .ok values rest => .ok (value :: values) rest
        | outcome => outcome

/-- Reads one item or more with separators between them. -/
def separated1 (separator : Parser Unit) (item : Parser α) : Parser (List α) := fun text =>
  match item text with
  | .ok value rest =>
    match separatedTail separator item rest.length rest with
    | .ok values rest => .ok (value :: values) rest
    | outcome => outcome
  | .mismatch fault rest => .mismatch fault rest
  | .failure fault rest => .failure fault rest

/-- Reads any number of items with separators between them. -/
def separated0 (separator : Parser Unit) (item : Parser α) : Parser (List α) := fun text =>
  match separated1 separator item text with
  | .mismatch _ _ => .ok [] text
  | outcome => outcome

def isSpacing (c : Char) : Bool := c == ' ' || c == '\t' || c == '\r' || c == '\n'

/-- Passes over spaces, tabs and line ends. -/
def spacing : Parser Unit := fun text => .ok () (text.dropWhile isSpacing)

/-- Reads the given characters. -/
def exact (expected : List Char) : Parser Unit := fun text =>
  if expected.isPrefixOf text then .ok () (text.drop expected.length) else .mismatch .sign text

/-- Passes over spacing and reads the given characters. -/
def sign (expected : String) : Parser Unit := fun text =>
  exact expected.toList (text.dropWhile isSpacing)

/-- Reads the longest run of characters of a class, which may not be empty. -/
def run1 (allowed : Char → Bool) : Parser (List Char) := fun text =>
  if (text.takeWhile allowed).isEmpty then .mismatch .lexeme text
  else .ok (text.takeWhile allowed) (text.dropWhile allowed)

end Parser

end Warrant.Grammar
