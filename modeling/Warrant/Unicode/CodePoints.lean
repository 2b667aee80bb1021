import Warrant.Text.Words

namespace Warrant.Unicode

/-- A set of code points: increasing ranges that do not touch, with both ends included. -/
abbrev CodePoints := List (Nat × Nat)

namespace CodePoints

/-- The greatest code point. -/
def last : Nat := 0x10FFFF

def contains : CodePoints → Nat → Bool
  | [], _ => false
  | (lo, hi) :: rest, c => if c < lo then false else if c ≤ hi then true else contains rest c

/-- Joins a range with the ranges after it that overlap or touch it, in a list that is sorted by
    lower ends. -/
def coalesceFrom (lo hi : Nat) : List (Nat × Nat) → CodePoints
  | [] => [(lo, hi)]
  | (lo', hi') :: rest =>
    if lo' ≤ hi + 1 then coalesceFrom lo (max hi hi') rest
    else (lo, hi) :: coalesceFrom lo' hi' rest

/-- Joins ranges that overlap or touch, in a list that is sorted by lower ends. -/
def coalesce : List (Nat × Nat) → CodePoints
  | [] => []
  | (lo, hi) :: rest => coalesceFrom lo hi rest

/-- The set covered by some ranges, in any order. -/
def ofRanges (ranges : List (Nat × Nat)) : CodePoints :=
  coalesce ((ranges.filter fun r => r.1 ≤ r.2).mergeSort fun r s => r.1 ≤ s.1)

/-- The set of some code points. -/
def ofList (points : List Nat) : CodePoints :=
  ofRanges (points.map fun c => (c, c))

def union (sets : List CodePoints) : CodePoints :=
  ofRanges sets.flatten

/-- The code points from `start` to `top` that are not in the set. -/
def gaps (start top : Nat) : CodePoints → CodePoints
  | [] => if start ≤ top then [(start, top)] else []
  | (lo, hi) :: rest =>
    if start < lo then (start, lo - 1) :: gaps (hi + 1) top rest else gaps (hi + 1) top rest

/-- The code points up to `top` that are not in the set. -/
def complement (top : Nat) (points : CodePoints) : CodePoints :=
  gaps 0 top points

def inter (s t : CodePoints) : CodePoints :=
  ofRanges (s.flatMap fun r => t.map fun q => (max r.1 q.1, min r.2 q.2))

def diff (s t : CodePoints) : CodePoints :=
  inter s (complement last t)

/-- Reads ranges that are written in hexadecimal and separated by blanks. -/
def read (text : String) : CodePoints :=
  (Text.pieces Char.isWhitespace text.toList).filterMap fun word =>
    match Text.pieces (· == '-') word with
    | [c] => some (Text.hexNumber c, Text.hexNumber c)
    | [lo, hi] => some (Text.hexNumber lo, Text.hexNumber hi)
    | _ => none

/-- The set in the first entry of a table that answers to `name`. -/
def lookup (table : List (String × String)) (name : String) : Option CodePoints :=
  (table.find? fun entry => (Text.pieces (· == ' ') entry.1.toList).contains name.toList).map
    fun entry => read entry.2

end CodePoints

end Warrant.Unicode
