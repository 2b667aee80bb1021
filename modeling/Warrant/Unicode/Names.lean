import Warrant.Unicode.Age
import Warrant.Unicode.Boundary
import Warrant.Unicode.Character
import Warrant.Unicode.Script
import Warrant.Unicode.ScriptExtension

namespace Warrant.Unicode

/-- A name without case, blanks, hyphens, underscores and a leading "is"; characters outside ASCII
    do not count. -/
def looseName (name : String) : String :=
  let cs := name.toList
  let isPrefixed : Bool := (cs.take 2).map Char.toLower = ['i', 's']
  let kept := ((if isPrefixed then cs.drop 2 else cs).filter fun c =>
    c.toNat < 0x80 && !(c == ' ' || c == '_' || c == '-')).map Char.toLower
  if isPrefixed ∧ kept = ['c'] then "isc" else String.ofList kept

/-- The code points of a general category, one of its groups, or one of the classes that are
    used like a category. -/
def categoryLike? (name : String) : Option CodePoints :=
  match name with
  | "any" => some [(0, CodePoints.last)]
  | "assigned" => (category? "cn").map (CodePoints.complement CodePoints.last)
  | "ascii" => some [(0, 0x7F)]
  | _ => category? name

/-- The code points of the characters that a script uses. -/
def scriptExtension? (name : String) : Option CodePoints :=
  match CodePoints.lookup scriptExtensionTable name with
  | some points => some points
  | none => script? name

/-- What a bare name stands for: a property, else a category, else a script. Three short names
    mean a category though they also abbreviate a property. -/
def named? (name : String) : Option CodePoints :=
  let name := looseName name
  match (if ["cf", "sc", "lc"].contains name then none else property? name) with
  | some points => some points
  | none =>
    match categoryLike? name with
    | some points => some points
    | none => script? name

/-- What the name of a property with a value stands for. -/
def valued? (property value : String) : Option CodePoints :=
  let value := looseName value
  match looseName property with
  | "gc" | "generalcategory" => categoryLike? value
  | "sc" | "script" => script? value
  | "scx" | "scriptextensions" => scriptExtension? value
  | "age" => age? value
  | "gcb" | "graphemeclusterbreak" => CodePoints.lookup graphemeBreakTable value
  | "wb" | "wordbreak" => CodePoints.lookup wordBreakTable value
  | "sb" | "sentencebreak" => CodePoints.lookup sentenceBreakTable value
  | _ => none

end Warrant.Unicode
