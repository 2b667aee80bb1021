import Warrant.Pattern.Form
import Warrant.Text.Words
import Warrant.Unicode.Character

namespace Warrant.Pattern

/-- Passes over blanks and over comments, which a number sign opens and a line end closes. -/
def skipSpacing : Bool → List Char → List Char
  | _, [] => []
  | true, c :: cs => skipSpacing (c != '\n') cs
  | false, c :: cs =>
    if Unicode.isBlank c then skipSpacing false cs
    else if c = '#' then skipSpacing true cs
    else c :: cs

/-- Passes over blanks and comments where the pattern is spaced. -/
def skip (spaced : Bool) (cs : List Char) : List Char :=
  if spaced then skipSpacing false cs else cs

/-- The next character of a spaced class, as far as blanks and the sign of a comment go. -/
def peek (spaced : Bool) (cs : List Char) : Option Char :=
  if spaced then
    let rest := cs.dropWhile Unicode.isBlank
    let rest := if rest.head? = some '#' then rest.tail.dropWhile Unicode.isBlank else rest
    if rest.isEmpty then cs.head? else rest.head?
  else cs.head?

/-- What a single character or a backslash with what follows it stands for. -/
inductive Primitive where
  | literal (char : Literal)
  | anchor (which : Anchor)
  | charClass (content : ClassForm)

/-- The characters that mean something by themselves. -/
def isMeta (c : Char) : Bool :=
  "\\.+*?()|[]\x7b\x7d^$#&-~".toList.contains c

/-- Whether a backslash before a character leaves it as it is. -/
def isEscapable (c : Char) : Bool :=
  isMeta c || (c.toNat < 0x80 && !c.isAlphanum && c != '<' && c != '>')

/-- The character that a letter after a backslash stands for. -/
def control? (c : Char) : Option Char :=
  match c with
  | 'a' => some '\x07'
  | 'f' => some '\x0c'
  | 't' => some '\t'
  | 'n' => some '\n'
  | 'r' => some '\r'
  | 'v' => some '\x0b'
  | _ => none

def charOfNumber? (n : Nat) : Option Char :=
  if n < 0xD800 ∨ (0xDFFF < n ∧ n < 0x110000) then some (Char.ofNat n) else none

/-- Reads `count` hexadecimal digits. -/
def readDigits (spaced : Bool) : Nat → Nat → List Char → Option (Nat × List Char)
  | 0, value, cs => some (value, cs)
  | count + 1, value, cs =>
    match cs with
    | [] => none
    | c :: rest => do
      let d ← Text.hexDigit? c
      readDigits spaced count (16 * value + d) (skip spaced rest)

/-- Collects characters up to a closing brace, with spacing left out. -/
def readBraced (spaced : Bool) : Nat → List Char → Option (List Char × List Char)
  | 0, _ => none
  | fuel + 1, cs =>
    match skip spaced cs with
    | [] => none
    | c :: rest =>
      if c = '\x7d' then some ([], rest)
      else do
        let (content, rest) ← readBraced spaced fuel rest
        return (c :: content, rest)

/-- Reads the number of a character, after its letter, as a fixed count of digits or in braces. -/
def readHex (spaced : Bool) (letter : Char) (cs : List Char) : Option (Literal × List Char) :=
  match skip spaced cs with
  | [] => none
  | c :: rest =>
    if c = '\x7b' then do
      let (digits, rest) ← readBraced spaced (rest.length + 1) rest
      if digits.isEmpty ∨ ¬ digits.all fun d => (Text.hexDigit? d).isSome then none
      else
        let char ← charOfNumber? (Text.hexNumber digits)
        return (⟨char, false⟩, skip spaced rest)
    else do
      let count := if letter = 'x' then 2 else if letter = 'u' then 4 else 8
      let (n, rest) ← readDigits spaced count 0 (c :: rest)
      let char ← charOfNumber? n
      return (⟨char, letter == 'x'⟩, rest)

/-- Cuts a list at the first place where another list occurs. -/
def cutAt (mark : List Char) : List Char → Option (List Char × List Char)
  | [] => none
  | c :: cs =>
    if mark.isPrefixOf (c :: cs) then some ([], (c :: cs).drop mark.length)
    else (cutAt mark cs).map fun (before, after) => (c :: before, after)

/-- A property by its name, or by a name and a value with a sign between them. -/
def Property.ofText (text : List Char) : Property :=
  match (cutAt ['!', '='] text).or ((cutAt [':'] text).or (cutAt ['='] text)) with
  | some (name, value) => .valued (String.ofList name) (String.ofList value)
  | none => .named (String.ofList text)

/-- Reads the name of a property, which is one letter or stands in braces. -/
def readProperty (spaced negated : Bool) (cs : List Char) : Option (Primitive × List Char) :=
  match skip spaced cs with
  | [] => none
  | c :: rest =>
    if c = '\x7b' then do
      let (text, rest) ← readBraced spaced (rest.length + 1) rest
      return (.charClass (.property negated (.ofText text)), rest)
    else if c = '\\' then none
    else some (.charClass (.property negated (.named (String.singleton c))), skip spaced rest)

def isBoundaryNameChar (c : Char) : Bool := c.isAlpha || c == '-'

/-- Collects the letters and hyphens of the name of a boundary. -/
def readBoundaryName (spaced : Bool) : Nat → List Char → List Char × List Char
  | 0, cs => ([], cs)
  | _, [] => ([], [])
  | fuel + 1, c :: cs =>
    if isBoundaryNameChar c then
      let (name, rest) := readBoundaryName spaced fuel (skip spaced cs)
      (c :: name, rest)
    else ([], c :: cs)

/-- Reads what follows the letter of a word boundary: a name in braces makes it special, other
    braces are left to be read as a repetition. -/
def readBoundary (spaced : Bool) (cs : List Char) : Option (Primitive × List Char) :=
  match cs with
  | '\x7b' :: rest =>
    match skip spaced rest with
    | [] => none
    | c :: inside =>
      if isBoundaryNameChar c then
        let (name, rest) := readBoundaryName spaced (inside.length + 1) (c :: inside)
        match rest with
        | '\x7d' :: rest =>
          match String.ofList name with
          | "start" => some (.anchor .wordStart, rest)
          | "end" => some (.anchor .wordEnd, rest)
          | "start-half" => some (.anchor .wordStartHalf, rest)
          | "end-half" => some (.anchor .wordEndHalf, rest)
          | _ => none
        | _ => none
      else some (.anchor .boundary, cs)
  | _ => some (.anchor .boundary, cs)

/-- Reads what follows a backslash. -/
def readEscape (spaced : Bool) : List Char → Option (Primitive × List Char)
  | [] => none
  | c :: cs =>
    if c.isDigit then none
    else if c = 'x' ∨ c = 'u' ∨ c = 'U' then
      (readHex spaced c cs).map fun (char, rest) => (.literal char, rest)
    else if c = 'p' ∨ c = 'P' then readProperty spaced (c == 'P') cs
    else if c = 'd' ∨ c = 'D' then some (.charClass (.shorthand (c == 'D') .digit), cs)
    else if c = 's' ∨ c = 'S' then some (.charClass (.shorthand (c == 'S') .space), cs)
    else if c = 'w' ∨ c = 'W' then some (.charClass (.shorthand (c == 'W') .word), cs)
    else if isEscapable c then some (.literal ⟨c, false⟩, cs)
    else
      match control? c with
      | some char => some (.literal ⟨char, false⟩, cs)
      | none =>
        match c with
        | 'A' => some (.anchor .textStart, cs)
        | 'z' => some (.anchor .textEnd, cs)
        | 'b' => readBoundary spaced cs
        | 'B' => some (.anchor .notBoundary, cs)
        | '<' => some (.anchor .wordStart, cs)
        | '>' => some (.anchor .wordEnd, cs)
        | _ => none

/-- The ranges of the classes that are named between "[:" and ":]". -/
def posixRanges? (name : String) : Option (List (Nat × Nat)) :=
  match name with
  | "alnum" => some [(0x30, 0x39), (0x41, 0x5A), (0x61, 0x7A)]
  | "alpha" => some [(0x41, 0x5A), (0x61, 0x7A)]
  | "ascii" => some [(0, 0x7F)]
  | "blank" => some [(0x09, 0x09), (0x20, 0x20)]
  | "cntrl" => some [(0, 0x1F), (0x7F, 0x7F)]
  | "digit" => some [(0x30, 0x39)]
  | "graph" => some [(0x21, 0x7E)]
  | "lower" => some [(0x61, 0x7A)]
  | "print" => some [(0x20, 0x7E)]
  | "punct" => some [(0x21, 0x2F), (0x3A, 0x40), (0x5B, 0x60), (0x7B, 0x7E)]
  | "space" => some [(0x09, 0x0D), (0x20, 0x20)]
  | "upper" => some [(0x41, 0x5A)]
  | "word" => some [(0x30, 0x39), (0x41, 0x5A), (0x5F, 0x5F), (0x61, 0x7A)]
  | "xdigit" => some [(0x30, 0x39), (0x41, 0x46), (0x61, 0x66)]
  | _ => none

/-- Reads a named class after its opening bracket, if there is one. -/
def readPosix? : List Char → Option (ClassForm × List Char)
  | ':' :: cs =>
    let negated := cs.head? = some '^'
    let cs := if negated then cs.tail else cs
    match cs.dropWhile (· != ':') with
    | ':' :: ']' :: rest =>
      (posixRanges? (String.ofList (cs.takeWhile (· != ':')))).map fun ranges =>
        (.posix negated ranges, rest)
    | _ => none
  | _ => none

/-- Reads the hyphens that open a class. -/
def readHyphens (spaced : Bool) : Nat → List Char → List ClassForm × List Char
  | fuel + 1, '-' :: cs =>
    let (members, rest) := readHyphens spaced fuel (skip spaced cs)
    (.literal ⟨'-', false⟩ :: members, rest)
  | _, cs => ([], cs)

/-- Reads the beginning of a class after its bracket: a caret negates it, and hyphens, or else one
    closing bracket, stand for themselves there. -/
def readClassStart (spaced : Bool) (cs : List Char) : Bool × List ClassForm × List Char :=
  let cs := skip spaced cs
  let negated := cs.head? = some '^'
  let cs := if negated then skip spaced cs.tail else cs
  let (hyphens, cs) := readHyphens spaced (cs.length + 1) cs
  match hyphens, cs with
  | [], ']' :: rest => (negated, [.literal ⟨']', false⟩], skip spaced rest)
  | _, _ => (negated, hyphens, cs)

/-- Reads one member of a class that is no class in brackets. -/
def readClassPrimitive (spaced : Bool) : List Char → Option (Primitive × List Char)
  | [] => none
  | '\\' :: cs => readEscape spaced cs
  | c :: cs => some (.literal ⟨c, false⟩, cs)

/-- Reads a member of a class or a range between two of them. -/
def readRange (spaced : Bool) (cs : List Char) : Option (ClassForm × List Char) := do
  let (first, rest) ← readClassPrimitive spaced cs
  let single : Option (ClassForm × List Char) :=
    match first with
    | .literal char => some (.literal char, skip spaced rest)
    | .charClass content => some (content, skip spaced rest)
    | .anchor _ => none
  match skip spaced rest with
  | [] => none
  | '-' :: after =>
    if peek spaced after = some ']' ∨ peek spaced after = some '-' then single
    else do
      let (last, rest) ← readClassPrimitive spaced (skip spaced after)
      match first, last with
      | .literal lo, .literal hi =>
        if lo.char ≤ hi.char then return (.range lo hi, rest) else none
      | _, _ => none
  | _ => single

/-- The class of the members read so far, after the operation that waits for them. -/
def closeOperation (pending : Option (SetOperation × ClassForm)) (members : List ClassForm) :
    ClassForm :=
  match pending with
  | none => .ofMembers members.reverse
  | some (which, left) => .operation which left (.ofMembers members.reverse)

/-- Reads a class up to its closing bracket. `members` holds the members read since the last
    operation, the latest first. -/
def readClass (spaced : Bool) : Nat → Option (SetOperation × ClassForm) → List ClassForm →
    List Char → Option (ClassForm × List Char)
  | 0, _, _, _ => none
  | fuel + 1, pending, members, cs =>
    match skip spaced cs with
    | [] => none
    | '[' :: rest =>
      match readPosix? rest with
      | some (content, rest) => readClass spaced fuel pending (content :: members) rest
      | none => do
        let (negated, start, rest) := readClassStart spaced rest
        let (content, rest) ← readClass spaced fuel none start.reverse rest
        readClass spaced fuel pending (.bracketed negated content :: members) rest
    | ']' :: rest => some (closeOperation pending members, rest)
    | '&' :: '&' :: rest =>
      readClass spaced fuel (some (.intersection, closeOperation pending members)) [] rest
    | '-' :: '-' :: rest =>
      readClass spaced fuel (some (.difference, closeOperation pending members)) [] rest
    | '~' :: '~' :: rest =>
      readClass spaced fuel (some (.symmetricDifference, closeOperation pending members)) [] rest
    | cs => do
      let (content, rest) ← readRange spaced cs
      readClass spaced fuel pending (content :: members) rest

/-- Reads the digits of a count; spacing may stand between them where the pattern is spaced. -/
def readCountDigits (spaced : Bool) : Nat → List Char → List Char × List Char
  | fuel + 1, c :: cs =>
    if c.isDigit then
      let (digits, rest) := readCountDigits spaced fuel (skip spaced cs)
      (c :: digits, rest)
    else ([], c :: cs)
  | _, cs => ([], cs)

/-- Reads a count of at most 32 bits with blanks around it. -/
def readCount (spaced : Bool) (cs : List Char) : Option (Nat × List Char) :=
  let cs := cs.dropWhile Unicode.isBlank
  let (digits, rest) := readCountDigits spaced (cs.length + 1) cs
  let n := digits.foldl (fun n d => 10 * n + (d.toNat - '0'.toNat)) 0
  if digits.isEmpty ∨ UInt32.size ≤ n then none
  else some (n, skip spaced (rest.dropWhile Unicode.isBlank))

/-- Reads the bounds of a repetition after its opening brace. -/
def readBounds (spaced : Bool) (cs : List Char) : Option (Nat × Option Nat × List Char) := do
  let (least, rest) ← readCount spaced (skip spaced cs)
  match rest with
  | '\x7d' :: rest => return (least, some least, rest)
  | ',' :: rest =>
    match skip spaced rest with
    | '\x7d' :: rest => return (least, none, rest)
    | rest =>
      let (most, rest) ← readCount spaced rest
      match rest with
      | '\x7d' :: rest => if least ≤ most then return (least, some most, rest) else none
      | _ => none
  | _ => none

def flag? (c : Char) : Option Flag :=
  match c with
  | 'i' => some .ignoreCase
  | 'm' => some .multiLine
  | 's' => some .dotMatchesAll
  | 'U' => some .swapGreed
  | 'u' => some .unicode
  | 'R' => some .crlf
  | 'x' => some .spaced
  | _ => none

/-- Reads flags up to the colon or parenthesis after them, which is left. Each flag may stand once,
    and one hyphen may stand before the flags that are switched off. -/
def readFlags (on : Bool) (change : FlagChange) : List Char → Option (FlagChange × List Char)
  | [] => none
  | '-' :: cs =>
    if on ∧ cs.head? ≠ some ':' ∧ cs.head? ≠ some ')' then readFlags false change cs else none
  | c :: cs =>
    if c = ':' ∨ c = ')' then some (change.reverse, c :: cs)
    else
      match flag? c with
      | none => none
      | some flag =>
        if change.any fun f => f.1 = flag then none
        else readFlags on ((flag, on) :: change) cs

/-- Reads the name of a group up to its closing angle. -/
def readGroupName (isFirst : Bool) : List Char → Option (List Char × List Char)
  | [] => none
  | c :: cs =>
    if c = '>' then some ([], cs)
    else if c = '_' ∨ (if isFirst then Unicode.isLetter c
        else Unicode.isLetterOrNumber c ∨ c = '.' ∨ c = '[' ∨ c = ']') then do
      let (name, rest) ← readGroupName false cs
      return (c :: name, rest)
    else none

/-- What an opening parenthesis turns out to be. -/
inductive Opening where
  | flags (change : FlagChange)
  | plain (change : FlagChange)
  | capture
  | named (name : List Char)

def opening (cs : List Char) : Option (Opening × List Char) :=
  let ofName (cs : List Char) : Option (Opening × List Char) := do
    let (name, rest) ← readGroupName true cs
    if name.isEmpty then none else return (.named name, rest)
  match cs with
  | '?' :: '=' :: _ => none
  | '?' :: '!' :: _ => none
  | '?' :: '<' :: '=' :: _ => none
  | '?' :: '<' :: '!' :: _ => none
  | '?' :: 'P' :: '<' :: rest => ofName rest
  | '?' :: '<' :: rest => ofName rest
  | '?' :: rest =>
    match readFlags true [] rest with
    | some (change, ')' :: rest) => if change.isEmpty then none else some (.flags change, rest)
    | some (change, _ :: rest) => some (.plain change, rest)
    | _ => none
  | _ => some (.capture, cs)

/-- Whether a pattern is spaced after a change of flags. -/
def spacedAfter (spaced : Bool) (change : FlagChange) : Bool :=
  match change.find? fun f => f.1 = .spaced with
  | some (_, on) => on
  | none => spaced

/-- Repeats the part read last. Flags and the empty beginning of a branch cannot be repeated. -/
def repeatLast (least : Nat) (most : Option Nat) : List Form → Option (List Form)
  | [] => none
  | .flags _ :: _ => none
  | f :: fs => some (.repeated f least most :: fs)

/-- Passes over a question mark, which makes a repetition prefer fewer turns. -/
def dropLazy : List Char → List Char
  | '?' :: cs => cs
  | cs => cs

/-- How far the reading of a pattern has come: whether it is spaced and the names of its groups. -/
structure Progress where
  spaced : Bool
  names : List (List Char)

/-- Reads branches up to a closing parenthesis, which is left, or to the end. `branches` holds the
    branches before and `parts` the parts of this one, both with the latest first. -/
def readBranches : Nat → Progress → List Form → List Form → List Char →
    Option (Form × Progress × List Char)
  | 0, _, _, _, _ => none
  | fuel + 1, at_, branches, parts, cs =>
    let finish := Form.ofBranches (Form.ofParts parts.reverse :: branches).reverse
    let repeated (least : Nat) (most : Option Nat) (rest : List Char) := do
      readBranches fuel at_ branches (← repeatLast least most parts) rest
    match skip at_.spaced cs with
    | [] => some (finish, at_, [])
    | ')' :: rest => some (finish, at_, ')' :: rest)
    | '|' :: rest => readBranches fuel at_ (Form.ofParts parts.reverse :: branches) [] rest
    | '(' :: rest => do
      let group (captures : Bool) (change : FlagChange) (names : List (List Char))
          (rest : List Char) := do
        let (body, inner, rest) ←
          readBranches fuel ⟨spacedAfter at_.spaced change, names⟩ [] [] rest
        match rest with
        | ')' :: rest =>
          readBranches fuel ⟨at_.spaced, inner.names⟩ branches
            (.group captures change body :: parts) rest
        | _ => none
      match ← opening (skip at_.spaced rest) with
      | (.flags change, rest) =>
        readBranches fuel ⟨spacedAfter at_.spaced change, at_.names⟩ branches
          (.flags change :: parts) rest
      | (.plain change, rest) => group false change at_.names rest
      | (.capture, rest) => group true [] at_.names rest
      | (.named name, rest) =>
        if at_.names.contains name then none else group true [] (name :: at_.names) rest
    | '[' :: rest => do
      let (negated, start, rest) := readClassStart at_.spaced rest
      let (content, rest) ← readClass at_.spaced (rest.length + 1) none start.reverse rest
      readBranches fuel at_ branches (.charClass (.bracketed negated content) :: parts) rest
    | '?' :: rest => repeated 0 (some 1) (dropLazy rest)
    | '*' :: rest => repeated 0 none (dropLazy rest)
    | '+' :: rest => repeated 1 none (dropLazy rest)
    | '\x7b' :: rest => do
      let (least, most, rest) ← readBounds at_.spaced rest
      repeated least most (dropLazy (skip at_.spaced rest))
    | '\\' :: rest => do
      match ← readEscape at_.spaced rest with
      | (.literal char, rest) => readBranches fuel at_ branches (.literal char :: parts) rest
      | (.anchor which, rest) => readBranches fuel at_ branches (.anchor which :: parts) rest
      | (.charClass content, rest) =>
        readBranches fuel at_ branches (.charClass content :: parts) rest
    | '.' :: rest => readBranches fuel at_ branches (.anyChar :: parts) rest
    | '^' :: rest => readBranches fuel at_ branches (.anchor .lineStart :: parts) rest
    | '$' :: rest => readBranches fuel at_ branches (.anchor .lineEnd :: parts) rest
    | c :: rest => readBranches fuel at_ branches (.literal ⟨c, false⟩ :: parts) rest

/-- How deep the parts of a pattern may be nested. -/
def depthLimit : Nat := 250

/-- Reads a whole pattern. -/
def Form.read (text : List Char) : Option Form :=
  match readBranches (text.length + 1) ⟨false, []⟩ [] [] text with
  | some (form, _, []) => if form.depth ≤ depthLimit then some form else none
  | _ => none

end Warrant.Pattern
