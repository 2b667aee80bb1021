import Warrant.Expression
import Warrant.Pattern.Compile
import Warrant.SymbolTable

namespace Warrant

/-- Patterns that have been compiled, by their symbols. A pattern that cannot be used is kept as
    such. -/
abbrev PatternCache := List (UInt64 × Option Pattern)

/-- Evaluation may fail, and keeps the patterns that it compiled also then. -/
abbrev Evaluation := OptionT (StateM PatternCache)

/-- A value that is there or not, whatever patterns there are. -/
def Evaluation.ofOption {α : Type} (value : Option α) : Evaluation α := OptionT.mk (pure value)

/-- The pattern that a symbol writes, compiled at most once. -/
def cachedPattern (symbols : SymbolTable) (symbol : UInt64) : Evaluation Pattern :=
  fun cache =>
    match cache.lookup symbol with
    | some found => (found, cache)
    | none =>
      let found := (symbols.resolve? symbol).bind Pattern.compile
      (found, (symbol, found) :: cache)

/-- An integer that is the result of an operation, if 64 bits hold it. -/
def checkedInteger (n : Int) : Option Term :=
  if Int64.minValue.toInt ≤ n ∧ n ≤ Int64.maxValue.toInt then some (.integer (Int64.ofInt n))
  else none

/-- The set of some terms, if they may form one. -/
def checkedSet (elements : List Term) : Option Term :=
  (TermOf.setOf elements).toOption

def Unary.evaluate (symbols : SymbolTable) (operand : Term) : Unary → Option Term
  | negate =>
    match operand with
    | .bool b => some (.bool !b)
    | _ => none
  | parens => some operand
  | length =>
    match operand with
    | .str s => (symbols.resolve? s).map fun text => .integer (Int64.ofNat text.utf8ByteSize)
    | .bytes b => some (.integer (Int64.ofNat b.length))
    | .set elements => some (.integer (Int64.ofNat elements.length))
    | _ => none

/-- The value of a comparison of two terms that have an order. -/
def compareOrdered (test : Ordering → Bool) : Term → Term → Option Term
  | .integer i, .integer j => some (.bool (test (compare i j)))
  | .date i, .date j => some (.bool (test (compare i j)))
  | _, _ => none

/-- The value of an operation on two integers, if it has one and 64 bits hold it. -/
def calculate (operation : Int → Int → Option Int) : Term → Term → Option Term
  | .integer i, .integer j => (operation i.toInt j.toInt).bind checkedInteger
  | _, _ => none

/-- The value of a test on the texts of two symbols. -/
def compareTexts (symbols : SymbolTable) (test : String → String → Bool) :
    Term → Term → Option Term
  | .str s, .str t => do
    let left ← symbols.resolve? s
    let right ← symbols.resolve? t
    return .bool (test left right)
  | _, _ => none

/-- Terms of one kind other than variables can be compared. -/
def equalTerms (left right : Term) : Option Term :=
  if left.kind = right.kind ∧ left.kind ≠ .var then some (.bool (left = right)) else none

def containsTerm : Term → Term → Option Term
  | .set elements, .set others => some (.bool (others.all (· ∈ elements)))
  | .set _, .var _ => none
  | .set elements, scalar => some (.bool (decide (scalar ∈ elements)))
  | _, _ => none

/-- The value of a binary operation that needs no pattern. -/
def Binary.evaluatePlain (symbols : SymbolTable) (left right : Term) : Binary → Option Term
  | lessThan => compareOrdered (· == .lt) left right
  | greaterThan => compareOrdered (· == .gt) left right
  | lessOrEqual => compareOrdered (· != .gt) left right
  | greaterOrEqual => compareOrdered (· != .lt) left right
  | equal => equalTerms left right
  | contains => containsTerm left right
  | startsWith =>
    compareTexts symbols (fun text start => start.toList.isPrefixOf text.toList) left right
  | endsWith =>
    compareTexts symbols (fun text tail => tail.toList.isSuffixOf text.toList) left right
  | matchesPattern => none
  | add => calculate (fun i j => some (i + j)) left right
  | sub => calculate (fun i j => some (i - j)) left right
  | mul => calculate (fun i j => some (i * j)) left right
  | div => calculate (fun i j => if j = 0 then none else some (i.tdiv j)) left right
  | and =>
    match left, right with
    | .bool a, .bool b => some (.bool (a && b))
    | _, _ => none
  | or =>
    match left, right with
    | .bool a, .bool b => some (.bool (a || b))
    | _, _ => none
  | intersection =>
    match left, right with
    | .set a, .set b => checkedSet (a.filter (· ∈ b))
    | _, _ => none
  | union =>
    match left, right with
    | .set a, .set b => checkedSet (a ++ b)
    | _, _ => none

def Binary.evaluate (symbols : SymbolTable) (which : Binary) (left right : Term) :
    Evaluation Term :=
  match which, left, right with
  | matchesPattern, .str s, .str p => do
    let text ← Evaluation.ofOption (symbols.resolve? s)
    let pattern ← cachedPattern symbols p
    return .bool (pattern.isMatch text)
  | _, _, _ => Evaluation.ofOption (which.evaluatePlain symbols left right)

/-- The terms that variables are bound to. -/
abbrev Bindings := List (UInt32 × Term)

/-- The term that a term stands for under some bindings. -/
def TermOf.lookup (bindings : Bindings) : Term → Option Term
  | .var v => bindings.lookup v
  | t => some t

/-- The value of an expression, if it leaves exactly one. -/
def evaluate (symbols : SymbolTable) (bindings : Bindings) (e : Expression) : Evaluation Term := do
  let stack ← runPostfix failure (fun t => Evaluation.ofOption (t.lookup bindings))
    (fun which operand => Evaluation.ofOption (which.evaluate symbols operand))
    (Binary.evaluate symbols) e []
  match stack with
  | [value] => return value
  | _ => failure

/-- Whether every constraint evaluates to true; the first that does not ends the test. -/
def allHold (symbols : SymbolTable) (bindings : Bindings) :
    List Expression → StateM PatternCache Bool
  | [] => return true
  | e :: es => do
    match ← (evaluate symbols bindings e).run with
    | some (.bool true) => allHold symbols bindings es
    | _ => return false

end Warrant
