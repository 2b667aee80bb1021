import Warrant.Pattern.Basic

namespace Warrant.Pattern

/-- Joins two increasing lists of positions. -/
def mergePositions : List Nat → List Nat → List Nat
  | [], ys => ys
  | xs, [] => xs
  | x :: xs, y :: ys =>
    if x < y then x :: mergePositions xs (y :: ys)
    else if y < x then y :: mergePositions (x :: xs) ys
    else x :: mergePositions xs ys
termination_by xs ys => xs.length + ys.length

/-- Applies a step a given number of times, or until no position is left. -/
def exactly (step : List Nat → List Nat) : Nat → List Nat → List Nat
  | 0, starts => starts
  | n + 1, starts => if starts.isEmpty then [] else exactly step n (step starts)

/-- Applies a step up to a given number of times and keeps every position on the way. -/
def upTo (step : List Nat → List Nat) : Nat → List Nat → List Nat
  | 0, starts => starts
  | n + 1, starts =>
    let ends := mergePositions starts (step starts)
    if ends = starts then starts else upTo step n ends

/-- The positions at which a match that begins at one of `starts` can end. Positions count the
    characters before them and increase. -/
def ends (text : Array Char) : Pattern → List Nat → List Nat
  | empty, starts => starts
  | chars allowed, starts =>
    starts.filterMap fun i =>
      match text[i]? with
      | some c => if allowed.contains c.toNat then some (i + 1) else none
      | none => none
  | look place, starts =>
    starts.filter fun i => place.holds (if i = 0 then none else text[i - 1]?) text[i]?
  | seq first second, starts => ends text second (ends text first starts)
  | alt left right, starts => mergePositions (ends text left starts) (ends text right starts)
  | repeated body least most, starts =>
    let turns := match most with
      | some n => n - least
      | none => text.size + 1
    upTo (ends text body) turns (exactly (ends text body) least starts)
  | group body, starts => ends text body starts

/-- Whether a pattern matches some part of a text. -/
def isMatch (pattern : Pattern) (text : String) : Bool :=
  let chars := text.toList.toArray
  !(pattern.ends chars (List.range (chars.size + 1))).isEmpty

end Warrant.Pattern
