import Warrant.Rule
import Warrant.Wire.Codec

namespace Warrant.Wire

mutual

def encodeTerm : Term → List UInt8
  | .var v => encodeVariant 0 ++ encodeWord32 v
  | .integer i => encodeVariant 1 ++ encodeWord64 i.toUInt64
  | .str s => encodeVariant 2 ++ encodeWord64 s
  | .date d => encodeVariant 3 ++ encodeWord64 d
  | .bytes b => encodeVariant 4 ++ encodeBytes b
  | .bool b => encodeVariant 5 ++ encodeBool b
  | .set elements => encodeVariant 6 ++ encodeLength elements.length ++ encodeTerms elements

def encodeTerms : List Term → List UInt8
  | [] => []
  | t :: ts => encodeTerm t ++ encodeTerms ts

end

/-- Reads a term in which sets are nested less than `depth` deep. The elements of a set may come
    in any order. -/
def termWithin : Nat → Decoder Term
  | 0 => throw .endOfInput
  | depth + 1 => do
    match ← variant 7 with
    | 0 => return .var (← word32)
    | 1 => return .integer (← word64).toInt64
    | 2 => return .str (← word64)
    | 3 => return .date (← word64)
    | 4 => return .bytes (← bytes)
    | 5 => return .bool (← bool)
    | _ => return .ofElements (← list (termWithin depth))

/-- Reads a term; every level of nesting takes a byte at least. -/
def term : Decoder Term := fun bytes => termWithin (bytes.length + 1) bytes

def unaryCodes : List Unary := [.negate, .parens, .length]

def binaryCodes : List Binary :=
  [.lessThan, .greaterThan, .lessOrEqual, .greaterOrEqual, .equal, .contains, .startsWith,
    .endsWith, .matchesPattern, .add, .sub, .mul, .div, .and, .or, .intersection, .union]

def encodeOp : Op → List UInt8
  | .value t => encodeVariant 0 ++ encodeTerm t
  | .unary which => encodeVariant 1 ++ encodeVariant (unaryCodes.idxOf which)
  | .binary which => encodeVariant 2 ++ encodeVariant (binaryCodes.idxOf which)

/-- Reads one of some choices by its place among them. -/
def choice {α : Type} (choices : List α) : Decoder α := do
  let n ← variant choices.length
  match choices[n]? with
  | some x => return x
  | none => throw (.variant n choices.length)

def op : Decoder Op := do
  match ← variant 3 with
  | 0 => return .value (← term)
  | 1 => return .unary (← choice unaryCodes)
  | _ => return .binary (← choice binaryCodes)

def encodeExpression (e : Expression) : List UInt8 := encodeList encodeOp e

def expression : Decoder Expression := list op

def encodePredicate (p : Predicate) : List UInt8 :=
  encodeWord64 p.name ++ encodeList encodeTerm p.terms

def predicate : Decoder Predicate := do return ⟨← word64, ← list term⟩

def encodeRule (r : Rule) : List UInt8 :=
  encodePredicate r.head ++ encodeList encodePredicate r.body ++
    encodeList encodeExpression r.expressions

def rule : Decoder Rule := do return ⟨← predicate, ← list predicate, ← list expression⟩

def encodeCheck (c : Check) : List UInt8 := encodeList encodeRule c.queries

def check : Decoder Check := do return ⟨← list rule⟩

def policyCodes : List PolicyKind := [.allow, .deny]

def encodePolicy (p : Policy) : List UInt8 :=
  encodeList encodeRule p.queries ++ encodeVariant (policyCodes.idxOf p.kind)

def policy : Decoder Policy := do return ⟨← list rule, ← choice policyCodes⟩

end Warrant.Wire
