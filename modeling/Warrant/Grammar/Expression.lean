import Warrant.Grammar.Term

namespace Warrant.Grammar

open Warrant.Grammar.Parser

/-- Reads one of some signs, the first that is there. -/
def oneSign : List (String × Binary) → Parser Binary
  | [] => fun text => .mismatch .sign text
  | (mark, which) :: rest =>
    Parser.orElse (do exact mark.toList; return which) (oneSign rest)

/-- Reads further operands of operators that bind from the left, after the operations of those
    before. `count` operands are enough to reach the end of the text. -/
def chainTail (operand : Parser Source.Expression) (operator : Parser Binary) :
    Nat → Source.Expression → Parser Source.Expression
  | 0, ops, text => .ok ops text
  | count + 1, ops, text =>
    match operator (text.dropWhile isSpacing) with
    | .mismatch _ _ => .ok ops text
    | .failure fault rest => .failure fault rest
    | .ok which rest =>
      match operand rest with
      | .ok right rest => chainTail operand operator count (ops ++ right ++ [.binary which]) rest
      | outcome => outcome

/-- Reads operands with operators between them. -/
def chain (operand : Parser Source.Expression) (operator : Parser Binary) :
    Parser Source.Expression := fun text =>
  match operand text with
  | .ok ops rest => chainTail operand operator rest.length ops rest
  | outcome => outcome

/-- An expression in parentheses. -/
def parens (inner : Parser Source.Expression) : Parser Source.Expression := do
  sign "("
  let ops ← inner
  sign ")"
  return ops ++ [.unary .parens]

def primary (inner : Parser Source.Expression) : Parser Source.Expression := do
  spacing
  (parens inner).orElse (do return [.value (← term)])

/-- The operation that a method with an argument stands for. -/
def methodNamed? (name : String) : Option Binary :=
  [Binary.contains, .startsWith, .endsWith, .matchesPattern, .intersection, .union].find?
    fun which => which.method? = some name

/-- A method and its argument, as the operations that follow those of its operand. -/
def methodCall (inner : Parser Source.Expression) : Parser Source.Expression := do
  sign "."
  let method ← name
  sign "("
  if method = "length" then
    sign ")"
    return [.unary .length]
  else
    match methodNamed? method with
    | none => fun text => .mismatch .sign text
    | some which =>
      let argument ← inner
      sign ")"
      return argument ++ [.binary which]

/-- Reads further methods after the operations of what they are called on. `count` of them are
    enough to reach the end of the text. -/
def methodTail (inner : Parser Source.Expression) :
    Nat → Source.Expression → Parser Source.Expression
  | 0, ops, text => .ok ops text
  | count + 1, ops, text =>
    match methodCall inner text with
    | .ok call rest => methodTail inner count (ops ++ call) rest
    | .mismatch _ _ => .ok ops text
    | .failure fault rest => .failure fault rest

def methods (inner : Parser Source.Expression) : Parser Source.Expression := fun text =>
  match primary inner text with
  | .ok ops rest => methodTail inner rest.length ops rest
  | outcome => outcome

/-- Reads exclamation marks, at most `count`, and what they negate. -/
def negations (inner : Parser Source.Expression) : Nat → Parser Source.Expression
  | 0 => methods inner
  | count + 1 => fun text =>
    match sign "!" text with
    | .ok () rest =>
      match negations inner count rest with
      | .ok ops rest => .ok (ops ++ [.unary .negate]) rest
      | outcome => outcome
    | _ => methods inner text

def negation (inner : Parser Source.Expression) : Parser Source.Expression := fun text =>
  negations inner text.length text

def product (inner : Parser Source.Expression) : Parser Source.Expression :=
  chain (negation inner) (oneSign [("*", .mul), ("/", .div)])

def sum (inner : Parser Source.Expression) : Parser Source.Expression :=
  chain (product inner) (oneSign [("+", .add), ("-", .sub)])

def comparison (inner : Parser Source.Expression) : Parser Source.Expression :=
  chain (sum inner) (oneSign [("<=", .lessOrEqual), (">=", .greaterOrEqual), ("==", .equal),
    ("<", .lessThan), (">", .greaterThan)])

def conjunction (inner : Parser Source.Expression) : Parser Source.Expression :=
  chain (comparison inner) (oneSign [("&&", .and)])

def disjunction (inner : Parser Source.Expression) : Parser Source.Expression :=
  chain (conjunction inner) (oneSign [("||", .or)])

/-- An expression in which parentheses and arguments are nested at most `depth` deep. -/
def nestedExpression : Nat → Parser Source.Expression
  | 0 => fun text => .mismatch .sign text
  | depth + 1 => disjunction (nestedExpression depth)

/-- An expression; every level of nesting takes a character at least. -/
def expression : Parser Source.Expression := fun text =>
  nestedExpression (text.length + 1) text

end Warrant.Grammar
