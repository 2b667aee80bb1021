import Warrant.Grammar.Expression

namespace Warrant.Grammar

open Warrant.Grammar.Parser

def predicate : Parser Source.Predicate := do
  spacing
  let head ← name
  sign "("
  let terms ← separated0 (sign ",") term
  sign ")"
  return ⟨head, terms⟩

/-- A predicate without variables among its arguments. -/
def fact : Parser Source.Fact := fun text =>
  match predicate text with
  | .ok p rest =>
    if p.argVariables.isEmpty then .ok p rest else .failure .meaning text
  | outcome => outcome

/-- Predicates and constraints in any order. -/
def body : Parser (List Source.Predicate × List Source.Expression) := do
  let element : Parser (Source.Predicate ⊕ Source.Expression) :=
    Parser.orElse (do return .inl (← predicate)) (do return .inr (← expression))
  let elements ← separated1 (sign ",") element
  return (elements.filterMap Sum.getLeft?, elements.filterMap Sum.getRight?)

def rule : Parser Source.Rule := do
  let head ← predicate
  sign "<-"
  let (predicates, expressions) ← body
  return ⟨head, predicates, expressions⟩

/-- Bodies with "or" between them. -/
def queries : Parser (List Source.Rule) :=
  separated1 (sign "or") do
    let (predicates, expressions) ← body
    return ⟨⟨"query", []⟩, predicates, expressions⟩

def check : Parser Source.Check := do
  sign "check"
  sign "if"
  return ⟨← queries⟩

def policy : Parser Source.Policy := do
  let kind ← Parser.orElse (do sign "allow"; return PolicyKind.allow)
    (do sign "deny"; return PolicyKind.deny)
  sign "if"
  return ⟨← queries, kind⟩

/-- The distinct variables of some predicates, in the order in which they first occur. -/
def headVariables (predicates : List Source.Predicate) : List Source.Term :=
  ((predicates.flatMap PredicateOf.argVariables).foldl (fun seen v =>
    if v ∈ seen then seen else seen ++ [v]) []).map .var

/-- A body that is asked for all its variables. -/
def query : Parser Source.Rule := do
  sign "?-"
  let (predicates, expressions) ← body
  return ⟨⟨"query", headVariables predicates⟩, predicates, expressions⟩

def statement : Parser Source.Statement :=
  Parser.orElse (do return .check (← check)) <|
  Parser.orElse (do return .policy (← policy)) <|
  Parser.orElse (do return .query (← query)) <|
  Parser.orElse (do return .rule (← rule)) (do return .fact (← fact))

/-- Why a text is not what it is read as. -/
inductive SyntaxError where
  | expected (fault : Fault) (rest : String)
  | unexpectedInput (rest : String)
  deriving DecidableEq, Repr

def SyntaxError.message : SyntaxError → String
  | expected fault rest => fault.name ++ " at \"" ++ rest ++ "\""
  | unexpectedInput rest => "unexpected input at \"" ++ rest ++ "\""

/-- What is left after spacing and at most one semicolon or period. -/
def afterTerminator (text : List Char) : List Char :=
  match text.dropWhile isSpacing with
  | ';' :: rest => rest.dropWhile isSpacing
  | '.' :: rest => rest.dropWhile isSpacing
  | rest => rest

/-- Reads a whole text, which may end with a semicolon or a period. -/
def readWhole {α : Type} (p : Parser α) (text : String) : Except SyntaxError α :=
  match p text.toList with
  | .ok value rest =>
    if (afterTerminator rest).isEmpty then .ok value
    else .error (.unexpectedInput (String.ofList (afterTerminator rest)))
  | .mismatch fault rest => .error (.expected fault (String.ofList rest))
  | .failure fault rest => .error (.expected fault (String.ofList rest))

def readStatement (text : String) : Except SyntaxError Source.Statement :=
  readWhole statement text

def readFact (text : String) : Except SyntaxError Source.Fact := readWhole fact text

def readRule (text : String) : Except SyntaxError Source.Rule := readWhole rule text

def readCheck (text : String) : Except SyntaxError Source.Check := readWhole check text

def readPolicy (text : String) : Except SyntaxError Source.Policy := readWhole policy text

end Warrant.Grammar
