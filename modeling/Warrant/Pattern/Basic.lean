import Warrant.Unicode.Character

namespace Warrant

/-- What a pattern can ask about the place between two characters. Words are made of the letters of
    every script, or of ASCII letters only. -/
inductive Look where
  | textStart
  | textEnd
  | lineStart
  | lineEnd
  | lineStartCrlf
  | lineEndCrlf
  | boundary (unicode negated : Bool)
  | wordStart (unicode : Bool)
  | wordEnd (unicode : Bool)
  | wordStartHalf (unicode : Bool)
  | wordEndHalf (unicode : Bool)
  deriving DecidableEq, Repr

/-- A search pattern with its flags and names worked out. -/
inductive Pattern where
  | empty
  | chars (allowed : Unicode.CodePoints)
  | look (place : Look)
  | seq (first second : Pattern)
  | alt (left right : Pattern)
  | repeated (body : Pattern) (least : Nat) (most : Option Nat)
  | group (body : Pattern)
  deriving Repr, DecidableEq

def isWordChar (unicode : Bool) (c : Char) : Bool :=
  if unicode then Unicode.isWord c else c.isAlphanum || c == '_'

/-- Whether a place in a text, given by the characters on its two sides, is what is asked for. -/
def Look.holds (before after : Option Char) : Look → Bool
  | textStart => before.isNone
  | textEnd => after.isNone
  | lineStart => before.isNone || before == some '\n'
  | lineEnd => after.isNone || after == some '\n'
  | lineStartCrlf =>
    before.isNone || before == some '\n' || (before == some '\r' && after != some '\n')
  | lineEndCrlf =>
    after.isNone || after == some '\r' || (after == some '\n' && before != some '\r')
  | boundary unicode negated =>
    (before.any (isWordChar unicode) != after.any (isWordChar unicode)) != negated
  | wordStart unicode => !before.any (isWordChar unicode) && after.any (isWordChar unicode)
  | wordEnd unicode => before.any (isWordChar unicode) && !after.any (isWordChar unicode)
  | wordStartHalf unicode => !before.any (isWordChar unicode)
  | wordEndHalf unicode => !after.any (isWordChar unicode)

end Warrant
