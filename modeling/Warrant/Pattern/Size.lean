import Warrant.Pattern.Basic

namespace Warrant.Pattern

open Unicode (CodePoints)

/-- The bytes that encode a code point whose encoding has `more` bytes after the first. -/
def encoding (more c : Nat) : List Nat :=
  let lead := match more with
    | 0 => c
    | 1 => 0xC0 + c / 64
    | 2 => 0xE0 + c / 4096
    | _ => 0xF0 + c / 262144
  lead :: ((List.range more).reverse.map fun i => 0x80 + c / Nat.pow 64 i % 64)

/-- The sequences of byte ranges that cover all encodings between two of the same length, in
    order. No encoding is longer than `length`. -/
def byteSequences : Nat → List Nat → List Nat → List (List (Nat × Nat))
  | length + 1, a :: as, b :: bs =>
    if a = b then (byteSequences length as bs).map fun s => (a, b) :: s
    else
      let startsFull := as.all (· == 0x80)
      let endsFull := bs.all (· == 0xBF)
      let first := if startsFull then a else a + 1
      let last := if endsFull then b else b - 1
      (if startsFull then []
        else (byteSequences length as (as.map fun _ => 0xBF)).map fun s => (a, a) :: s) ++
      (if first ≤ last then [(first, last) :: as.map fun _ => (0x80, 0xBF)] else []) ++
      (if endsFull then []
        else (byteSequences length (bs.map fun _ => 0x80) bs).map fun s => (b, b) :: s)
  | _, _, _ => [[]]

/-- The code points whose encodings have the same length, with the number of bytes after the
    first. Surrogates have no encoding. -/
def encodingLengths : List (Nat × Nat × Nat) :=
  [(0, 0, 0x7F), (1, 0x80, 0x7FF), (2, 0x800, 0xD7FF), (2, 0xE000, 0xFFFF),
    (3, 0x10000, 0x10FFFF)]

/-- The sequences of byte ranges that cover the encodings of a set. -/
def sequencesOf (points : CodePoints) : List (List (Nat × Nat)) :=
  points.flatMap fun r => encodingLengths.flatMap fun (more, lo, hi) =>
    let first := max r.1 lo
    let last := min r.2 hi
    if first ≤ last then byteSequences 4 (encoding more first) (encoding more last) else []

/-- Groups neighbours that begin alike, with what follows the beginning. -/
def groupByHead : List (List (Nat × Nat)) → List ((Nat × Nat) × List (List (Nat × Nat)))
  | [] => []
  | [] :: rest => groupByHead rest
  | (head :: tail) :: rest =>
    match groupByHead rest with
    | (head', tails) :: groups =>
      if head = head' then (head, tail :: tails) :: groups
      else (head, [tail]) :: (head', tails) :: groups
    | [] => [(head, [tail])]

/-- The number of branches of the tree of sequences; no sequence is longer than `depth`. -/
def branchCount : Nat → List (List (Nat × Nat)) → Nat
  | 0, _ => 0
  | depth + 1, sequences =>
    (groupByHead sequences).foldl (fun n group => n + 1 + branchCount depth group.2) 0

/-- The states of an automaton, each given by its branches and where they lead. -/
abbrev States := List (List ((Nat × Nat) × Nat))

/-- The number of a state among `states`, to which it is added if it is new. -/
def shareState (state : List ((Nat × Nat) × Nat)) (states : States) : Nat × States :=
  match states.idxOf? state with
  | some i => (i + 1, states)
  | none => (states.length + 1, states ++ [state])

/-- Adds the states that read some sequences, sharing those that read the same; the end is 0. -/
def addStates : Nat → List (List (Nat × Nat)) → States → Nat × States
  | 0, _, states => (0, states)
  | depth + 1, sequences, states =>
    if sequences.all List.isEmpty then (0, states)
    else
      let (branches, states) := (groupByHead sequences).foldl (fun (branches, states) group =>
        let (target, states) := addStates depth group.2 states
        (branches ++ [(group.1, target)], states)) ([], states)
      shareState branches states

/-- What one state costs, without its branches. -/
def stateCost : Nat := 32

/-- What one branch on a range of bytes costs. -/
def rangeCost : Nat := 8

/-- What one branch without a condition costs. -/
def branchCost : Nat := 4

/-- The cost of a set of characters. Sets within ASCII take one state; read backwards, the others
    become a tree of byte ranges, and read forwards the smallest automaton. -/
def charsCost (backwards : Bool) (points : CodePoints) : Nat :=
  match points with
  | [(c, d)] =>
    if c = d then stateCost * (sequencesOf points).flatten.length
    else wideCost
  | _ => wideCost
where
  wideCost : Nat :=
    if points.all fun r => r.2 ≤ 0x7F then 2 * stateCost + rangeCost * points.length
    else
      let sequences := sequencesOf points
      if backwards then
        stateCost * (2 + branchCount 4 sequences) + branchCost * sequences.length
      else
        let states := (addStates 5 sequences []).2
        stateCost * (1 + states.length) + rangeCost * states.flatten.length

/-- The cost of a choice, from the costs of its branches; one branch is no choice. -/
def choiceCost : List Nat → Nat
  | [n] => n
  | branches => branches.foldr Nat.add 0 + 2 * stateCost + branchCost * branches.length

/-- The cost of a repetition of what costs `once`. -/
def repetitionCost (once least : Nat) : Option Nat → Nat
  | none =>
    if least = 0 then once + 2 * stateCost + 4 * branchCost
    else least * once + stateCost + 2 * branchCost
  | some most => least * once + stateCost + (most - least) * (once + stateCost + 2 * branchCost)

/-- The costs of the branches of a pattern, which is its own only branch unless it is a choice. -/
def branchCosts (backwards : Bool) : Pattern → List Nat
  | empty => [stateCost]
  | chars points => [charsCost backwards points]
  | look _ => [stateCost]
  | seq first second =>
    [choiceCost (branchCosts backwards first) + choiceCost (branchCosts backwards second)]
  | alt left right => choiceCost (branchCosts backwards left) :: branchCosts backwards right
  | repeated body least most =>
    [repetitionCost (choiceCost (branchCosts backwards body)) least most]
  | group body =>
    [choiceCost (branchCosts backwards body) + if backwards then 0 else 2 * stateCost]

/-- The cost of the automaton that a pattern is compiled to, reading forwards or backwards. -/
def cost (backwards : Bool) (pattern : Pattern) : Nat :=
  choiceCost (branchCosts backwards pattern)

/-- What the automaton of a pattern may cost. -/
def costLimit : Nat := 0x100000

/-- The cost of what surrounds every pattern: the search for a place to begin, and the end. -/
def frameCost : Nat := 5 * stateCost + rangeCost + 2 * branchCost

/-- Whether a pattern is small enough to be used, in both directions. -/
def fits (pattern : Pattern) : Bool :=
  pattern.group.cost false + frameCost ≤ costLimit && pattern.cost true + frameCost ≤ costLimit

end Warrant.Pattern
