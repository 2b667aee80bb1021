import Warrant.Rule
import Warrant.SymbolTable
import Warrant.Text.Calendar
import Warrant.Text.Hex
import Warrant.Text.Quoted

namespace Warrant

def commaSeparated (texts : List String) : String := ", ".intercalate texts

/-- A date as universal time, or by its number where its year has more than four digits. -/
def renderDate (seconds : UInt64) : String :=
  match Text.Calendar.format? seconds.toNat with
  | some text => String.ofList text
  | none => "date(" ++ toString seconds.toNat ++ ")"

mutual

def TermOf.render (symbols : SymbolTable) : Term → String
  | .var v => "$" ++ symbols.name v.toUInt64
  | .integer i => toString i.toInt
  | .str s => Text.quoted (symbols.name s)
  | .date d => renderDate d
  | .bytes b => "hex:" ++ Text.Hex.encode b
  | .bool b => toString b
  | .set elements => "[" ++ commaSeparated (TermOf.renderAll symbols elements) ++ "]"

def TermOf.renderAll (symbols : SymbolTable) : List Term → List String
  | [] => []
  | t :: ts => t.render symbols :: TermOf.renderAll symbols ts

end

mutual

/-- A term with the name of its kind and the numbers it is made of. -/
def TermOf.describe : Term → String
  | .var v => "Variable(" ++ toString v.toNat ++ ")"
  | .integer i => "Integer(" ++ toString i.toInt ++ ")"
  | .str s => "Str(" ++ toString s.toNat ++ ")"
  | .date d => "Date(" ++ toString d.toNat ++ ")"
  | .bytes b => "Bytes([" ++ commaSeparated (b.map fun x => toString x.toNat) ++ "])"
  | .bool b => "Bool(" ++ toString b ++ ")"
  | .set elements => "Set(\x7b" ++ commaSeparated (TermOf.describeAll elements) ++ "\x7d)"

def TermOf.describeAll : List Term → List String
  | [] => []
  | t :: ts => t.describe :: TermOf.describeAll ts

end

def Unary.describe : Unary → String
  | negate => "Negate"
  | parens => "Parens"
  | length => "Length"

def Binary.describe : Binary → String
  | lessThan => "LessThan"
  | greaterThan => "GreaterThan"
  | lessOrEqual => "LessOrEqual"
  | greaterOrEqual => "GreaterOrEqual"
  | equal => "Equal"
  | contains => "Contains"
  | startsWith => "Prefix"
  | endsWith => "Suffix"
  | matchesPattern => "Regex"
  | add => "Add"
  | sub => "Sub"
  | mul => "Mul"
  | div => "Div"
  | and => "And"
  | or => "Or"
  | intersection => "Intersection"
  | union => "Union"

def OpOf.describe : Op → String
  | .value term => "Value(" ++ term.describe ++ ")"
  | .unary which => "Unary(" ++ which.describe ++ ")"
  | .binary which => "Binary(" ++ which.describe ++ ")"

/-- An expression in infix form, or a list of its operations if they do not leave one value. -/
def renderExpression (symbols : SymbolTable) (e : Expression) : String :=
  match renderInfix? (TermOf.render symbols) e with
  | some text => text
  | none => "<invalid expression: [" ++ commaSeparated (e.map OpOf.describe) ++ "]>"

def PredicateOf.render (symbols : SymbolTable) (p : Predicate) : String :=
  symbols.name p.name ++ "(" ++ commaSeparated (p.terms.map (TermOf.render symbols)) ++ ")"

/-- The body of a rule with its constraints. -/
def RuleOf.renderBody (symbols : SymbolTable) (r : Rule) : String :=
  commaSeparated (r.body.map (PredicateOf.render symbols) ++
    r.expressions.map (renderExpression symbols))

def RuleOf.render (symbols : SymbolTable) (r : Rule) : String :=
  r.head.render symbols ++ " <- " ++ r.renderBody symbols

def renderQueries (symbols : SymbolTable) (queries : List Rule) : String :=
  " or ".intercalate (queries.map (RuleOf.renderBody symbols))

def CheckOf.render (symbols : SymbolTable) (c : Check) : String :=
  "check if " ++ renderQueries symbols c.queries

def PolicyKind.word : PolicyKind → String
  | allow => "allow"
  | deny => "deny"

def PolicyOf.render (symbols : SymbolTable) (p : Policy) : String :=
  p.kind.word ++ " if " ++ renderQueries symbols p.queries

end Warrant
