import Warrant.Unicode.Character

namespace Warrant.Text

/-- A text without the blanks at its ends. -/
def trim (text : List Char) : List Char :=
  ((text.dropWhile Unicode.isBlank).reverse.dropWhile Unicode.isBlank).reverse

/-- The words of a text, which blanks separate. -/
def words (text : List Char) : List (List Char) :=
  pieces Unicode.isBlank text

end Warrant.Text
