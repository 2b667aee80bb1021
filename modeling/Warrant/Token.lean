import Warrant.Text.Blank
import Warrant.Wire.Block
import Warrant.Wire.Envelope

namespace Warrant

/-- Blocks, which a chain of signatures holds, over one table of symbols. -/
structure Token (scheme : Scheme) where
  authority : Block
  blocks : List Block
  symbols : SymbolTable
  chain : Chain scheme

namespace Token

variable {scheme : Scheme}

/-- Symbols that a block adds to those of a token; no symbol may be added twice. -/
def extendSymbols (symbols : SymbolTable) (block : Block) : Except Error SymbolTable :=
  if symbols.isDisjoint block.symbols then .ok (symbols.extend block.symbols)
  else .error .overlappingSymbols

/-- A token of one block, which `root` signs. The symbols in `base` are known to all readers. -/
def create (rootKeyId : Option UInt32) (root next : PrivateKey) (base : SymbolTable)
    (authority : Block) : Except Error (Token scheme) := do
  let symbols ← extendSymbols base authority
  return ⟨authority, [], symbols, Chain.create rootKeyId authority.toBytes root next⟩

/-- The token with one more block. -/
def append (token : Token scheme) (next : PrivateKey) (block : Block) :
    Except Error (Token scheme) := do
  let chain ← (token.chain.append block.toBytes next).mapError .chain
  let symbols ← extendSymbols token.symbols block
  return { token with blocks := token.blocks ++ [block], symbols := symbols, chain := chain }

/-- The token in a form that takes no more blocks. -/
def toSealed (token : Token scheme) : Except Error (Token scheme) := do
  let chain ← token.chain.toSealed.mapError .chain
  return { token with chain := chain }

/-- Reads blocks one after another, each with its symbols. -/
def readBlocks (symbols : SymbolTable) :
    List (SignedBlock scheme) → Except Error (List Block × SymbolTable)
  | [] => .ok ([], symbols)
  | signed :: rest => do
    let block ← Block.ofBytes signed.data
    let symbols ← extendSymbols symbols block
    let (blocks, symbols) ← readBlocks symbols rest
    return (block :: blocks, symbols)

/-- The token that some bytes begin with, if its signatures hold under the root key that
    `rootKey` finds for it. The symbols in `base` are those that it was made with. -/
def ofBytes (bytes : List UInt8) (rootKey : Option UInt32 → Option (PublicKey scheme))
    (base : SymbolTable) : Except Error (Token scheme) := do
  let chain ← (Chain.ofBytes bytes).mapError .format
  match rootKey chain.rootKeyId with
  | none => throw (.format .unknownRoot)
  | some root =>
    (chain.verify root).mapError .chain
    let authority ← Block.ofBytes chain.authority.data
    let symbols ← extendSymbols base authority
    let (blocks, symbols) ← readBlocks symbols chain.others
    return ⟨authority, blocks, symbols, chain⟩

def toBytes (token : Token scheme) : List UInt8 := token.chain.toBytes

def toBase64 (token : Token scheme) : String := Text.Base64.encode token.toBytes

/-- The bytes that a text in base 64 writes. Blanks around the text do not count. -/
def bytesOfBase64 (text : String) : Except Error (List UInt8) :=
  match Text.Base64.decode (Text.Utf8.encode (String.ofList (Text.trim text.toList))) with
  | .error fault => .error (.format (.base64 fault))
  | .ok bytes => .ok bytes

/-- The token that a text in base 64 writes, made with the standard symbols. -/
def ofBase64 (text : String) (rootKey : Option UInt32 → Option (PublicKey scheme)) :
    Except Error (Token scheme) := do
  ofBytes (← bytesOfBase64 text) rootKey .standard

/-- All blocks in the order of the chain. -/
def allBlocks (token : Token scheme) : List Block := token.authority :: token.blocks

/-- One identifier for each block, by which the token can be revoked. -/
def revocationIds (token : Token scheme) : List (List UInt8) :=
  token.chain.blocks.map fun block => block.signature.bytes

def contexts (token : Token scheme) : List (Option String) := token.allBlocks.map Block.context

def rootKeyId (token : Token scheme) : Option UInt32 := token.chain.rootKeyId

def isSealed (token : Token scheme) : Bool := token.chain.isSealed

/-- A token with its symbols and blocks. -/
def render (token : Token scheme) : String :=
  "Biscuit \x7b\n\tsymbols: " ++ Text.quotedList token.symbols.names ++
    "\n\tauthority: " ++ token.authority.render token.symbols ++
    "\n\tblocks: [\n\t" ++ ",\n\t".intercalate (token.blocks.map (Block.render token.symbols)) ++
    "\n\t]\n\x7d"

end Token

end Warrant
