import Warrant.Grammar.Parser
import Warrant.Source
import Warrant.Text.Calendar
import Warrant.Text.Hex
import Warrant.Unicode.Character

namespace Warrant.Grammar

open Warrant.Grammar.Parser

def isNameStart (c : Char) : Bool := c.isAlpha || c == '_'

def isNameChar (c : Char) : Bool := c.isAlphanum || c == '_' || c == ':'

def isVariableChar (c : Char) : Bool := c.isAlphanum || c == '_'

/-- A letter or underscore, then letters, digits, underscores and colons. -/
def name : Parser String := fun text =>
  match text with
  | [] => .mismatch .lexeme []
  | c :: cs =>
    if isNameStart c then
      .ok (String.ofList (c :: cs.takeWhile isNameChar)) (cs.dropWhile isNameChar)
    else .mismatch .lexeme (c :: cs)

def variableName : Parser Source.Term := do
  sign "$"
  return .var (String.ofList (← run1 isVariableChar))

/-- A string that is written as a name. -/
def symbol : Parser Source.Term := do
  sign "#"
  return .str (← name)

/-- The character that another one stands for after a backslash. -/
def unescape? (c : Char) : Option Char :=
  match c with
  | '\\' => some '\\'
  | '"' => some '"'
  | 'n' => some '\n'
  | 't' => some '\t'
  | _ => none

/-- The characters of a string up to its closing quote or the end of the text. An unknown escape
    spoils all of them. -/
def stringChars : List Char → Option (List Char × List Char)
  | [] => some ([], [])
  | '"' :: cs => some ([], '"' :: cs)
  | '\\' :: c :: cs => do
    let char ← unescape? c
    let (chars, rest) ← stringChars cs
    return (char :: chars, rest)
  | '\\' :: [] => none
  | c :: cs => do
    let (chars, rest) ← stringChars cs
    return (c :: chars, rest)

def quote : Parser Unit := fun text =>
  match text with
  | '"' :: rest => .ok () rest
  | _ => .mismatch .quote text

/-- A string in double quotes. -/
def stringLiteral : Parser Source.Term := do
  quote
  let chars ← fun text =>
    match stringChars text with
    | some (chars, rest) => .ok chars rest
    | none => .ok [] text
  quote
  return .str (String.ofList chars)

/-- Splits off exactly `count` digits of any script. -/
def takeDigits? (count : Nat) (text : List Char) : Option (List Char) :=
  if (text.take count).length = count ∧ (text.take count).all Unicode.isDigit then
    some (text.drop count)
  else none

/-- The text after a date and time of day, which may have a fraction and ends with a zone. -/
def afterDate? (text : List Char) : Option (List Char) := do
  let mark (c : Char) : List Char → Option (List Char) := Text.Calendar.mark? c
  let text ← takeDigits? 4 text >>= mark '-'
  let text ← takeDigits? 2 text >>= mark '-'
  let text ← takeDigits? 2 text >>= mark 'T'
  let text ← takeDigits? 2 text >>= mark ':'
  let text ← takeDigits? 2 text >>= mark ':'
  let text ← takeDigits? 2 text
  let text := match text with
    | '.' :: c :: rest =>
      if Unicode.isDigit c then rest.dropWhile Unicode.isDigit else text
    | _ => text
  match text with
  | 'Z' :: rest => some rest
  | c :: rest =>
    if c = '+' ∨ c = '-' then takeDigits? 2 rest >>= mark ':' >>= takeDigits? 2 else none
  | [] => none

/-- A date with a time of day and a zone, not before 1970. -/
def date : Parser Source.Term := fun text =>
  match afterDate? text with
  | none => .mismatch .lexeme text
  | some rest =>
    match Text.Calendar.parse? (text.take (text.length - rest.length)) with
    | some seconds => .ok (.date (UInt64.ofNat seconds)) rest
    | none => .failure .meaning text

def isHexDigit (c : Char) : Bool := (Text.hexDigit? c).isSome

/-- Bytes as pairs of hexadecimal digits. -/
def bytes : Parser Source.Term := fun text =>
  match sign "hex:" text with
  | .ok () rest =>
    match Text.Hex.decode ((rest.takeWhile isHexDigit).map fun c => UInt8.ofNat c.toNat) with
    | .ok value => .ok (.bytes value) (rest.dropWhile isHexDigit)
    | .error _ => .failure .meaning text
  | .mismatch fault rest => .mismatch fault rest
  | .failure fault rest => .failure fault rest

/-- Splits off a word that does not go on. -/
def wholeWord? (word text : List Char) : Option (List Char) :=
  if word.isPrefixOf text ∧ ¬ (text.drop word.length).head?.any Unicode.isWord then
    some (text.drop word.length)
  else none

def boolean : Parser Source.Term := fun text =>
  match wholeWord? "true".toList text, wholeWord? "false".toList text with
  | some rest, _ => .ok (.bool true) rest
  | none, some rest => .ok (.bool false) rest
  | none, none => .mismatch .lexeme text

/-- A decimal integer of 64 bits. Digits of other scripts are taken for digits, but then the
    integer has no value. -/
def integer : Parser Source.Term := fun text =>
  let minus := if text.head? = some '-' then ['-'] else []
  let digits := (text.drop minus.length).takeWhile Unicode.isDigit
  if digits.isEmpty then .mismatch .lexeme text
  else
    match Text.integer64? (minus ++ digits) with
    | some n => .ok (.integer n) (text.drop (minus.length + digits.length))
    | none => .failure .meaning text

/-- A term that is no set. -/
def scalar : Parser Source.Term :=
  variableName.orElse (symbol.orElse (stringLiteral.orElse (date.orElse
    (bytes.orElse (boolean.orElse integer)))))

/-- Terms in square brackets, if they may form a set. -/
def set : Parser Source.Term := fun text =>
  let elements : Parser (List Source.Term) := do
    sign "["
    let items ← separated0 (sign ",") (do spacing; scalar)
    sign "]"
    return items
  match elements text with
  | .ok items rest =>
    match Source.setOf items with
    | .ok t => .ok t rest
    | .error _ => .failure .meaning text
  | .mismatch fault rest => .mismatch fault rest
  | .failure fault rest => .failure fault rest

def term : Parser Source.Term := do
  spacing
  scalar.orElse set

end Warrant.Grammar
