import Warrant.Term

namespace Warrant

inductive Unary where
  | negate
  | parens
  | length
  deriving DecidableEq, Repr

inductive Binary where
  | lessThan
  | greaterThan
  | lessOrEqual
  | greaterOrEqual
  | equal
  | contains
  | startsWith
  | endsWith
  | matchesPattern
  | add
  | sub
  | mul
  | div
  | and
  | or
  | intersection
  | union
  deriving DecidableEq, Repr

/-- One step of an expression: it pushes a value or works on the values pushed last. -/
inductive OpOf (V S : Type) where
  | value (term : TermOf V S)
  | unary (which : Unary)
  | binary (which : Binary)
  deriving DecidableEq

/-- A constraint in postfix order. -/
abbrev ExpressionOf (V S : Type) := List (OpOf V S)

abbrev Op := OpOf UInt32 UInt64

abbrev Expression := ExpressionOf UInt32 UInt64

namespace OpOf

variable {V S V' S' : Type}

def traverse {m : Type → Type} [Monad m] [Ord V'] [Ord S'] (onVariable : V → m V')
    (onString : S → m S') : OpOf V S → m (OpOf V' S')
  | value term => return value (← term.traverse onVariable onString)
  | unary which => return unary which
  | binary which => return binary which

/-- The variable that an operation pushes, if it pushes one. -/
def asVariable? : OpOf V S → Option V
  | value term => term.asVariable?
  | _ => none

end OpOf

namespace Unary

/-- A unary operation written in infix form. -/
def render (operand : String) : Unary → String
  | negate => "!" ++ operand
  | parens => "(" ++ operand ++ ")"
  | length => operand ++ ".length()"

end Unary

namespace Binary

/-- The sign of an operation that stands between its operands. -/
def sign? : Binary → Option String
  | lessThan => some "<"
  | greaterThan => some ">"
  | lessOrEqual => some "<="
  | greaterOrEqual => some ">="
  | equal => some "=="
  | add => some "+"
  | sub => some "-"
  | mul => some "*"
  | div => some "/"
  | and => some "&&"
  | or => some "||"
  | _ => none

/-- The name of an operation that follows its left operand and takes the right one in
    parentheses. -/
def method? : Binary → Option String
  | contains => some "contains"
  | startsWith => some "starts_with"
  | endsWith => some "ends_with"
  | matchesPattern => some "matches"
  | intersection => some "intersection"
  | union => some "union"
  | _ => none

/-- A binary operation written in infix form. -/
def render (left right : String) (which : Binary) : String :=
  match which.sign?, which.method? with
  | some sign, _ => left ++ " " ++ sign ++ " " ++ right
  | none, some name => left ++ "." ++ name ++ "(" ++ right ++ ")"
  | none, none => left

end Binary

/-- Runs postfix operations on a stack, whose top is its head. `stuck` is what becomes of it where
    an operation lacks an operand. -/
def runPostfix {V S α : Type} {m : Type → Type} [Monad m] (stuck : m (List α))
    (onValue : TermOf V S → m α) (onUnary : Unary → α → m α) (onBinary : Binary → α → α → m α) :
    ExpressionOf V S → List α → m (List α)
  | [], stack => return stack
  | .value term :: ops, stack => do
    runPostfix stuck onValue onUnary onBinary ops ((← onValue term) :: stack)
  | .unary which :: ops, operand :: stack => do
    runPostfix stuck onValue onUnary onBinary ops ((← onUnary which operand) :: stack)
  | .binary which :: ops, right :: left :: stack => do
    runPostfix stuck onValue onUnary onBinary ops ((← onBinary which left right) :: stack)
  | _, _ => stuck

/-- An expression in infix form, if it leaves one value. -/
def renderInfix? {V S : Type} (term : TermOf V S → String) (ops : ExpressionOf V S) :
    Option String := do
  let stack ← runPostfix none (fun t => some (term t))
    (fun which operand => some (which.render operand))
    (fun which left right => some (which.render left right)) ops []
  match stack with
  | [text] => some text
  | _ => none

end Warrant
