import Warrant.Error
import Warrant.Wire.Content

namespace Warrant

namespace Wire

/-- The version comes first, so that it can be read when nothing else can. -/
def encodeBlock (block : Block) : List UInt8 :=
  encodeWord32 block.version ++ encodeList encodeString block.symbols.names ++
    encodeList encodePredicate block.facts ++ encodeList encodeRule block.rules ++
    encodeList encodeCheck block.checks ++ encodeOption encodeString block.context

/-- Reads a block. A string that occurs again counts once. -/
def block : Decoder Block := do
  let version ← word32
  let symbols ← list string
  let facts ← list predicate
  let rules ← list rule
  let checks ← list check
  let context ← option string
  return ⟨.ofList symbols, facts, rules, checks, context, version⟩

end Wire

namespace Block

def toBytes (block : Block) : List UInt8 := Wire.encodeBlock block

/-- The block that some bytes begin with, if it may be read. -/
def ofBytes (bytes : List UInt8) : Except Error Block :=
  match Wire.word32 bytes with
  | .error fault => .error (.format (.block fault))
  | .ok (version, _) =>
    if currentVersion < version then .error (.format (.version version))
    else
      match Wire.block bytes with
      | .error fault => .error (.format (.block fault))
      | .ok (block, _) =>
        match block.validate with
        | .error fault => .error (.term fault)
        | .ok () => .ok block

end Block

end Warrant
