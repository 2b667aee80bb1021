namespace Warrant.Pattern

/-- What the letters between "(?" and ")" switch. -/
inductive Flag where
  | ignoreCase
  | multiLine
  | dotMatchesAll
  | swapGreed
  | unicode
  | crlf
  | spaced
  deriving DecidableEq, Repr

/-- The flags that a group switches on or off. -/
abbrev FlagChange := List (Flag × Bool)

/-- The places in a text that a pattern can ask for. -/
inductive Anchor where
  | lineStart
  | lineEnd
  | textStart
  | textEnd
  | boundary
  | notBoundary
  | wordStart
  | wordEnd
  | wordStartHalf
  | wordEndHalf
  deriving DecidableEq, Repr

/-- A character, and whether it is written with a backslash, an x and two digits. -/
structure Literal where
  char : Char
  isByte : Bool
  deriving DecidableEq, Repr

/-- The classes that a backslash and a letter stand for. -/
inductive Shorthand where
  | digit
  | space
  | word
  deriving DecidableEq, Repr

/-- The name of a set of code points. -/
inductive Property where
  | named (name : String)
  | valued (name value : String)
  deriving DecidableEq, Repr

inductive SetOperation where
  | intersection
  | difference
  | symmetricDifference
  deriving DecidableEq, Repr

/-- A class of characters as it is written. -/
inductive ClassForm where
  | literal (char : Literal)
  | range (first last : Literal)
  | posix (negated : Bool) (ranges : List (Nat × Nat))
  | shorthand (negated : Bool) (which : Shorthand)
  | property (negated : Bool) (which : Property)
  | bracketed (negated : Bool) (content : ClassForm)
  | union (members : List ClassForm)
  | operation (which : SetOperation) (left right : ClassForm)

/-- A pattern as it is written. -/
inductive Form where
  | empty
  | flags (change : FlagChange)
  | literal (char : Literal)
  | anyChar
  | anchor (which : Anchor)
  | charClass (content : ClassForm)
  | repeated (body : Form) (least : Nat) (most : Option Nat)
  | group (captures : Bool) (change : FlagChange) (body : Form)
  | sequence (parts : List Form)
  | alternatives (branches : List Form)

mutual

/-- How deep brackets, unions and set operations are nested. -/
def ClassForm.depth : ClassForm → Nat
  | bracketed _ content => content.depth + 1
  | union [] => 0
  | union (f :: fs) => max f.depth (depthOfMembers fs) + 1
  | operation _ left right => max left.depth right.depth + 1
  | _ => 0

def ClassForm.depthOfMembers : List ClassForm → Nat
  | [] => 0
  | f :: fs => max f.depth (depthOfMembers fs)

end

mutual

/-- How deep the parts of a pattern are nested. -/
def Form.depth : Form → Nat
  | charClass content => content.depth
  | repeated body _ _ => body.depth + 1
  | group _ _ body => body.depth + 1
  | sequence parts => depthOfParts parts + 1
  | alternatives branches => depthOfParts branches + 1
  | _ => 0

def Form.depthOfParts : List Form → Nat
  | [] => 0
  | f :: fs => max f.depth (depthOfParts fs)

end

/-- A sequence of parts; one part stands for itself. -/
def Form.ofParts : List Form → Form
  | [] => .empty
  | [f] => f
  | fs => .sequence fs

/-- A choice between branches; one branch stands for itself. -/
def Form.ofBranches : List Form → Form
  | [f] => f
  | fs => .alternatives fs

/-- The class of the members written side by side; one member stands for itself. -/
def ClassForm.ofMembers : List ClassForm → ClassForm
  | [f] => f
  | fs => .union fs

end Warrant.Pattern
