import Warrant.Pattern.Basic
import Warrant.Pattern.Form
import Warrant.Unicode.Folding
import Warrant.Unicode.Names

namespace Warrant.Pattern

open Unicode (CodePoints)

/-- The flags in force at some place of a pattern. -/
structure Mode where
  ignoreCase : Bool := false
  multiLine : Bool := false
  dotMatchesAll : Bool := false
  crlf : Bool := false
  unicode : Bool := true

def Mode.set (mode : Mode) : Flag × Bool → Mode
  | (.ignoreCase, on) => { mode with ignoreCase := on }
  | (.multiLine, on) => { mode with multiLine := on }
  | (.dotMatchesAll, on) => { mode with dotMatchesAll := on }
  | (.crlf, on) => { mode with crlf := on }
  | (.unicode, on) => { mode with unicode := on }
  | (.swapGreed, _) => mode
  | (.spaced, _) => mode

def Mode.apply (mode : Mode) (change : FlagChange) : Mode := change.foldl Mode.set mode

/-- Adds the other case of every ASCII letter. -/
def foldAscii (points : CodePoints) : CodePoints :=
  let shifted (lo hi : Nat) (move : Nat → Nat) : CodePoints :=
    (CodePoints.inter points [(lo, hi)]).map fun r => (move r.1, move r.2)
  CodePoints.union [points, shifted 0x41 0x5A (· + 32), shifted 0x61 0x7A (· - 32)]

/-- Adds what differs only in case, if case is ignored. -/
def Mode.fold (mode : Mode) (points : CodePoints) : CodePoints :=
  if mode.ignoreCase then if mode.unicode then points.foldCase else foldAscii points else points

/-- The greatest member that a class can have: a code point or a byte. -/
def Mode.top (mode : Mode) : Nat := if mode.unicode then CodePoints.last else 0xFF

/-- A class of bytes may only hold ASCII, for other bytes are no characters by themselves. -/
def Mode.checked (mode : Mode) (points : CodePoints) : Option CodePoints :=
  if mode.unicode ∨ points.all fun r => r.2 ≤ 0x7F then some points else none

/-- A class whose members are known, with its case folded before it is negated. -/
def Mode.finish (mode : Mode) (negated : Bool) (points : CodePoints) : Option CodePoints :=
  let folded := mode.fold points
  mode.checked (if negated then folded.complement mode.top else folded)

def Mode.shorthand (mode : Mode) (which : Shorthand) : CodePoints :=
  match which, mode.unicode with
  | .digit, true => Unicode.digits
  | .space, true => Unicode.blanks
  | .word, true => Unicode.wordPoints
  | .digit, false => [(0x30, 0x39)]
  | .space, false => [(0x09, 0x0D), (0x20, 0x20)]
  | .word, false => [(0x30, 0x39), (0x41, 0x5A), (0x5F, 0x5F), (0x61, 0x7A)]

def Property.points? : Property → Option CodePoints
  | named name => Unicode.named? name
  | valued name value => Unicode.valued? name value

/-- The member of a class that a character stands for. -/
def Mode.member (mode : Mode) (char : Literal) : Option Nat :=
  if mode.unicode ∨ char.char.toNat ≤ 0x7F then some char.char.toNat else none

mutual

/-- The members of a class. -/
def ClassForm.resolve (mode : Mode) : ClassForm → Option CodePoints
  | literal char => (mode.member char).map fun c => [(c, c)]
  | range first last => do
    let lo ← mode.member first
    let hi ← mode.member last
    return [(lo, hi)]
  | posix negated ranges => mode.finish negated ranges
  | shorthand negated which =>
    let points := mode.shorthand which
    mode.checked (if negated then points.complement mode.top else points)
  | property negated which => do
    let points ← which.points?
    if mode.unicode then mode.finish negated points else none
  | bracketed negated content => do mode.finish negated (← content.resolve mode)
  | union members => ClassForm.resolveAll mode members
  | operation which left right => do
    let s := mode.fold (← left.resolve mode)
    let t := mode.fold (← right.resolve mode)
    return match which with
      | .intersection => s.inter t
      | .difference => s.diff t
      | .symmetricDifference => CodePoints.diff (CodePoints.union [s, t]) (s.inter t)

/-- The members of some classes together. -/
def ClassForm.resolveAll (mode : Mode) : List ClassForm → Option CodePoints
  | [] => some []
  | f :: fs => do
    let points ← f.resolve mode
    let rest ← ClassForm.resolveAll mode fs
    return CodePoints.union [points, rest]

end

def Anchor.resolve (mode : Mode) : Anchor → Look
  | lineStart =>
    if mode.multiLine then if mode.crlf then .lineStartCrlf else .lineStart else .textStart
  | lineEnd => if mode.multiLine then if mode.crlf then .lineEndCrlf else .lineEnd else .textEnd
  | textStart => .textStart
  | textEnd => .textEnd
  | boundary => .boundary mode.unicode false
  | notBoundary => .boundary mode.unicode true
  | wordStart => .wordStart mode.unicode
  | wordEnd => .wordEnd mode.unicode
  | wordStartHalf => .wordStartHalf mode.unicode
  | wordEndHalf => .wordEndHalf mode.unicode

/-- The characters that one written character matches. A byte outside ASCII matches none. -/
def Mode.literal (mode : Mode) (char : Literal) : Option Pattern :=
  let c := char.char.toNat
  if mode.unicode then some (.chars (mode.fold [(c, c)]))
  else if c ≤ 0x7F then some (.chars (mode.fold [(c, c)]))
  else if char.isByte ∧ c ≤ 0xFF then none
  else some (.chars [(c, c)])

/-- What a dot matches. Bytes that may be no characters cannot be asked for. -/
def Mode.anyChar (mode : Mode) : Option Pattern :=
  if ¬ mode.unicode then none
  else if mode.dotMatchesAll then some (.chars [(0, CodePoints.last)])
  else if mode.crlf then
    some (.chars (CodePoints.complement CodePoints.last [(0x0A, 0x0A), (0x0D, 0x0D)]))
  else some (.chars (CodePoints.complement CodePoints.last [(0x0A, 0x0A)]))

/-- Whether a pattern can match nothing but the empty text. -/
def isEmptyOnly : Pattern → Bool
  | empty => true
  | chars _ => false
  | look _ => true
  | seq first second => isEmptyOnly first && isEmptyOnly second
  | alt left right => isEmptyOnly left && isEmptyOnly right
  | repeated body _ most => isEmptyOnly body || most == some 0
  | group body => isEmptyOnly body

/-- A repetition. What matches only the empty text does so once. -/
def repetition (body : Pattern) (least : Nat) (most : Option Nat) : Pattern :=
  let once := body.isEmptyOnly
  let least := if once then min least 1 else least
  let most := if once then some (min (most.getD 1) 1) else most
  if most = some 0 then .empty
  else if least = 1 ∧ most = some 1 then body
  else .repeated body least most

mutual

/-- The pattern that a form stands for under some flags, and the flags after it. -/
def Form.resolve (mode : Mode) : Form → Option (Pattern × Mode)
  | empty => some (.empty, mode)
  | flags change => some (.empty, mode.apply change)
  | literal char => do return (← mode.literal char, mode)
  | anyChar => do return (← mode.anyChar, mode)
  | anchor which => some (.look (which.resolve mode), mode)
  | charClass content => do return (.chars (← content.resolve mode), mode)
  | repeated body least most => do
    let (p, mode) ← body.resolve mode
    return (repetition p least most, mode)
  | group captures change body => do
    let (p, _) ← body.resolve (mode.apply change)
    return (if captures then .group p else p, mode)
  | sequence parts => Form.resolveSequence mode parts
  | alternatives branches => Form.resolveBranches mode branches

def Form.resolveSequence (mode : Mode) : List Form → Option (Pattern × Mode)
  | [] => some (.empty, mode)
  | f :: fs => do
    let (p, mode) ← f.resolve mode
    let (q, mode) ← Form.resolveSequence mode fs
    return (match p, q with
      | .empty, q => q
      | p, .empty => p
      | p, q => .seq p q, mode)

/-- Flags that one branch switches stay switched in the branches after it. -/
def Form.resolveBranches (mode : Mode) : List Form → Option (Pattern × Mode)
  | [] => some (.empty, mode)
  | [f] => f.resolve mode
  | f :: fs => do
    let (p, mode) ← f.resolve mode
    let (q, mode) ← Form.resolveBranches mode fs
    return (.alt p q, mode)

end

end Warrant.Pattern
