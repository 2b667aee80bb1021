import Warrant.Proofs.Base64
import Warrant.Proofs.Envelope
import Warrant.Proofs.Extension
import Warrant.Proofs.Readable
import Warrant.Proofs.Symbols

namespace Warrant

variable {scheme : Scheme}

namespace Chain

/-- The bytes of a chain contain the data of its blocks. -/
theorem length_data_le {chain : Chain scheme} {block : SignedBlock scheme}
    (h : block ∈ chain.blocks) : block.data.length ≤ chain.toBytes.length := by
  have hblock : block.data.length ≤ (Wire.encodeSignedBlock block).length := by
    simp only [Wire.encodeSignedBlock, List.length_append, Wire.length_encodeBytes]
    omega
  have hchain : (Wire.encodeSignedBlock block).length ≤ chain.toBytes.length := by
    simp only [toBytes, Wire.encodeChain, Wire.encodeList, List.length_append]
    rcases List.mem_cons.1 h with rfl | h
    · omega
    · have hothers : (Wire.encodeSignedBlock block).length ≤
          (chain.others.flatMap Wire.encodeSignedBlock).length :=
        Wire.length_le_length_flatMap h
      omega
  exact Nat.le_trans hblock hchain

end Chain

namespace Token

/-- The tokens that are made from one block by appending blocks and sealing. `root` signs the first
    block, and all readers know the symbols in `base`. -/
inductive Issued (base : SymbolTable) (root : PrivateKey) : Token scheme → Prop
  | create {rootKeyId : Option UInt32} {next : PrivateKey} {authority : Block}
      {token : Token scheme} (h : Token.create rootKeyId root next base authority = .ok token) :
      Issued base root token
  | append {token longer : Token scheme} {next : PrivateKey} {block : Block}
      (htoken : Issued base root token) (h : token.append next block = .ok longer) :
      Issued base root longer
  | toSealed {token closed : Token scheme} (htoken : Issued base root token)
      (h : token.toSealed = .ok closed) : Issued base root closed

/-- A table with the symbols that some blocks add to it. -/
def extendAll (base : SymbolTable) (blocks : List Block) : Except Error SymbolTable :=
  blocks.foldlM extendSymbols base

theorem names_of_extendSymbols {symbols table : SymbolTable} {block : Block}
    (h : extendSymbols symbols block = .ok table) :
    table.names = symbols.names ++ block.symbols.names := by
  rw [extendSymbols] at h
  split at h
  case isTrue hdisjoint =>
    cases h
    exact SymbolTable.names_extend hdisjoint
  case isFalse => cases h

/-- Symbols come in the order of the blocks that introduce them. -/
theorem names_of_extendAll {base table : SymbolTable} {blocks : List Block}
    (h : extendAll base blocks = .ok table) :
    table.names = base.names ++ blocks.flatMap fun block => block.symbols.names := by
  induction blocks generalizing base with
  | nil =>
    cases h
    exact (List.append_nil _).symm
  | cons block rest ih =>
    obtain ⟨symbols, hsymbols, hrest⟩ := bind_eq_ok_iff.1 h
    rw [ih hrest, names_of_extendSymbols hsymbols, List.flatMap_cons, List.append_assoc]

theorem extendAll_append_singleton {base symbols : SymbolTable} {blocks : List Block}
    (h : extendAll base blocks = .ok symbols) (block : Block) :
    extendAll base (blocks ++ [block]) = extendSymbols symbols block := by
  rw [extendAll, List.foldlM_append]
  change (extendAll base blocks).bind (fun symbols => extendAll symbols [block]) = _
  rw [h]
  change (extendSymbols symbols block).bind pure = _
  cases extendSymbols symbols block <;> rfl

theorem mapError_eq_ok_iff {ε ε' α : Type} {f : ε → ε'} {x : Except ε α} {a : α} :
    x.mapError f = .ok a ↔ x = .ok a := by
  cases x <;> simp [Except.mapError]

/-- How the parts of a token belong together. -/
structure Coherent (base : SymbolTable) (root : PrivateKey) (token : Token scheme) : Prop where
  data : token.chain.blocks.map SignedBlock.data = token.allBlocks.map Block.toBytes
  symbols : extendAll base token.allBlocks = .ok token.symbols
  verifies : token.chain.verify (root.toPublic scheme) = .ok ()

theorem Issued.coherent (hscheme : scheme.AcceptsOwn) {base : SymbolTable} {root : PrivateKey}
    {token : Token scheme} (h : Issued base root token) : Coherent base root token := by
  induction h with
  | create h =>
    obtain ⟨symbols, hsymbols, h⟩ := bind_eq_ok_iff.1 h
    cases h
    exact ⟨rfl, bind_eq_ok_iff.2 ⟨symbols, hsymbols, rfl⟩, Chain.verify_create hscheme _ _ _ _⟩
  | append htoken h ih =>
    obtain ⟨chain, hchain, h⟩ := bind_eq_ok_iff.1 h
    obtain ⟨symbols, hsymbols, h⟩ := bind_eq_ok_iff.1 h
    cases h
    rw [mapError_eq_ok_iff] at hchain
    refine ⟨?_, ?_, Chain.verify_append hscheme hchain ih.verifies⟩
    · obtain ⟨secret, -, rfl⟩ := Chain.exists_of_append_eq_ok hchain
      have hdata := ih.data
      simp only [Chain.blocks, allBlocks, List.map_cons, List.map_append,
        List.cons.injEq] at hdata ⊢
      rw [hdata.1, hdata.2]
      exact ⟨rfl, rfl⟩
    · rw [allBlocks, ← List.cons_append]
      exact (extendAll_append_singleton ih.symbols _).trans hsymbols
  | toSealed htoken h ih =>
    obtain ⟨chain, hchain, h⟩ := bind_eq_ok_iff.1 h
    cases h
    rw [mapError_eq_ok_iff] at hchain
    refine ⟨?_, ih.symbols, Chain.verify_toSealed hscheme hchain ih.verifies⟩
    obtain ⟨secret, -, rfl⟩ := Chain.exists_of_toSealed_eq_ok hchain
    exact ih.data

/-- Blocks are read from their bytes exactly if each of them may be read. -/
theorem readBlocks_eq_ok_iff {symbols final : SymbolTable} {signed : List (SignedBlock scheme)}
    {blocks : List Block} {read : List Block × SymbolTable}
    (hdata : signed.map SignedBlock.data = blocks.map Block.toBytes)
    (hsymbols : extendAll symbols blocks = .ok final)
    (hordered : ∀ block ∈ blocks, ∀ t ∈ block.terms, t.Ordered)
    (hlength : ∀ block ∈ blocks, block.toBytes.length < Wire.maxLength) :
    readBlocks symbols signed = .ok read ↔
      (∀ block ∈ blocks, block.MayBeRead) ∧ read = (blocks, final) := by
  induction blocks generalizing symbols signed read with
  | nil =>
    rw [List.map_nil, List.map_eq_nil_iff] at hdata
    cases hdata
    cases hsymbols
    rw [readBlocks]
    simp [eq_comm]
  | cons block rest ih =>
    cases signed with
    | nil => cases hdata
    | cons first others =>
      rw [List.map_cons, List.map_cons, List.cons.injEq] at hdata
      obtain ⟨extended, hextended, hrest⟩ := bind_eq_ok_iff.1 hsymbols
      rw [List.forall_mem_cons] at hordered hlength ⊢
      have hread (read : Block) : Block.ofBytes block.toBytes = .ok read ↔ _ :=
        Block.ofBytes_toBytes_eq_ok_iff hordered.1 hlength.1
      rw [readBlocks, bind_eq_ok_iff, hdata.1]
      constructor
      · rintro ⟨block', hblock', h⟩
        obtain ⟨hmay, rfl⟩ := (hread block').1 hblock'
        obtain ⟨extended', hextended', h⟩ := bind_eq_ok_iff.1 h
        obtain rfl := Except.ok.inj (hextended.symm.trans hextended')
        obtain ⟨more, hmore, h⟩ := bind_eq_ok_iff.1 h
        obtain ⟨hmayRest, rfl⟩ := (ih hdata.2 hrest hordered.2 hlength.2).1 hmore
        cases h
        exact ⟨⟨hmay, hmayRest⟩, rfl⟩
      · rintro ⟨⟨hmay, hmayRest⟩, rfl⟩
        refine ⟨block, (hread block).2 ⟨hmay, rfl⟩, bind_eq_ok_iff.2 ⟨extended, hextended, ?_⟩⟩
        have hmore := (ih hdata.2 hrest hordered.2 hlength.2).2 ⟨hmayRest, rfl⟩
        exact bind_eq_ok_iff.2 ⟨_, hmore, rfl⟩

/-- What is loaded from the bytes of a token whose parts belong together, if anything, is the token,
    and it is loaded exactly if every block may be read. -/
theorem Coherent.ofBytes_toBytes_eq_ok_iff {base : SymbolTable} {root : PrivateKey}
    {token loaded : Token scheme} (hcoherent : Coherent base root token)
    (hordered : ∀ block ∈ token.allBlocks, ∀ t ∈ block.terms, t.Ordered)
    (hlength : token.toBytes.length < Wire.maxLength)
    {rootKey : Option UInt32 → Option (PublicKey scheme)}
    (hroot : rootKey token.rootKeyId = some (root.toPublic scheme)) :
    ofBytes token.toBytes rootKey base = .ok loaded ↔
      (∀ block ∈ token.allBlocks, block.MayBeRead) ∧ loaded = token := by
  obtain ⟨hdata, hsymbols, hverify⟩ := hcoherent
  have hchain : Chain.ofBytes token.toBytes = .ok token.chain := by
    have hread := token.chain.ofBytes_toBytes_append hlength []
    rw [List.append_nil] at hread
    exact hread
  have hblocks (block : Block) (h : block ∈ token.allBlocks) :
      block.toBytes.length < Wire.maxLength := by
    have hmem : block.toBytes ∈ token.chain.blocks.map SignedBlock.data := by
      rw [hdata]
      exact List.mem_map_of_mem h
    obtain ⟨signed, hsigned, hbytes⟩ := List.mem_map.1 hmem
    rw [← hbytes]
    exact Nat.lt_of_le_of_lt (Chain.length_data_le hsigned) hlength
  -- the authority block is read as the first of all blocks
  have hopen : ofBytes token.toBytes rootKey base = (do
      let authority ← Block.ofBytes token.chain.authority.data
      let symbols ← extendSymbols base authority
      let read ← readBlocks symbols token.chain.others
      return ⟨authority, read.1, read.2, token.chain⟩) := by
    have hroot' : rootKey token.chain.rootKeyId = some (root.toPublic scheme) := hroot
    have hchain' : (Chain.ofBytes token.toBytes).mapError Error.format = .ok token.chain := by
      rw [hchain]
      rfl
    rw [ofBytes, hchain', ok_bind, hroot']
    change ((token.chain.verify (root.toPublic scheme)).mapError Error.chain).bind _ = _
    rw [hverify]
    rfl
  have hread (read : List Block × SymbolTable) :
      readBlocks base token.chain.blocks = .ok read ↔ _ :=
    readBlocks_eq_ok_iff hdata hsymbols hordered hblocks
  rw [Chain.blocks, readBlocks] at hread
  rw [hopen]
  constructor
  · intro h
    obtain ⟨authority, hauthority, h⟩ := bind_eq_ok_iff.1 h
    obtain ⟨symbols, hextended, h⟩ := bind_eq_ok_iff.1 h
    obtain ⟨⟨blocks, table⟩, hothers, h⟩ := bind_eq_ok_iff.1 h
    cases h
    obtain ⟨hmay, hsame⟩ := (hread (authority :: blocks, table)).1 <| bind_eq_ok_iff.2
      ⟨_, hauthority, bind_eq_ok_iff.2 ⟨_, hextended, bind_eq_ok_iff.2 ⟨_, hothers, rfl⟩⟩⟩
    cases hsame
    exact ⟨hmay, rfl⟩
  · rintro ⟨hmay, rfl⟩
    obtain ⟨authority, hauthority, h⟩ := bind_eq_ok_iff.1 ((hread _).2 ⟨hmay, rfl⟩)
    obtain ⟨symbols, hextended, h⟩ := bind_eq_ok_iff.1 h
    obtain ⟨⟨blocks, table⟩, hothers, h⟩ := bind_eq_ok_iff.1 h
    cases h
    exact bind_eq_ok_iff.2
      ⟨_, hauthority, bind_eq_ok_iff.2 ⟨_, hextended, bind_eq_ok_iff.2 ⟨_, hothers, rfl⟩⟩⟩

theorem ofBytes_toBytes_eq_ok_iff (hscheme : scheme.AcceptsOwn) {base : SymbolTable}
    {root : PrivateKey} {token loaded : Token scheme} (hissued : Issued base root token)
    (hordered : ∀ block ∈ token.allBlocks, ∀ t ∈ block.terms, t.Ordered)
    (hlength : token.toBytes.length < Wire.maxLength)
    {rootKey : Option UInt32 → Option (PublicKey scheme)}
    (hroot : rootKey token.rootKeyId = some (root.toPublic scheme)) :
    ofBytes token.toBytes rootKey base = .ok loaded ↔
      (∀ block ∈ token.allBlocks, block.MayBeRead) ∧ loaded = token :=
  (hissued.coherent hscheme).ofBytes_toBytes_eq_ok_iff hordered hlength hroot

/-- Loading undoes saving. A token that has been issued is loaded from its bytes exactly if each of
    its blocks may be read, and then it comes back as it was, with the symbols of its blocks in the
    order of the chain after those that were known before. With the standard symbols, the same holds
    of its text. -/
theorem ofBytes_toBytes_of_issued (hscheme : scheme.AcceptsOwn) {base : SymbolTable}
    {root : PrivateKey} {token : Token scheme} (hissued : Issued base root token)
    (hordered : ∀ block ∈ token.allBlocks, ∀ t ∈ block.terms, t.Ordered)
    (hlength : token.toBytes.length < Wire.maxLength)
    {rootKey : Option UInt32 → Option (PublicKey scheme)}
    (hroot : rootKey token.rootKeyId = some (root.toPublic scheme)) :
    ((∃ loaded, ofBytes token.toBytes rootKey base = .ok loaded) ↔
        ∀ block ∈ token.allBlocks, block.MayBeRead) ∧
      (∀ loaded, ofBytes token.toBytes rootKey base = .ok loaded → loaded = token) ∧
      token.symbols.names =
        base.names ++ token.allBlocks.flatMap (fun block => block.symbols.names) ∧
      (base = .standard →
        ofBase64 token.toBase64 rootKey = ofBytes token.toBytes rootKey base) := by
  have hload (loaded : Token scheme) :
      ofBytes token.toBytes rootKey base = .ok loaded ↔ _ :=
    ofBytes_toBytes_eq_ok_iff hscheme hissued hordered hlength hroot
  refine ⟨⟨?_, ?_⟩, ?_, ?_, ?_⟩
  · rintro ⟨loaded, h⟩
    exact ((hload loaded).1 h).1
  · exact fun hmay => ⟨token, (hload token).2 ⟨hmay, rfl⟩⟩
  · exact fun loaded h => ((hload loaded).1 h).2
  · exact names_of_extendAll (hissued.coherent hscheme).symbols
  · rintro rfl
    rw [ofBase64, toBase64, bytesOfBase64_encode]
    rfl

theorem create_of_isDisjoint (scheme : Scheme) {base : SymbolTable} {authority : Block}
    (h : base.isDisjoint authority.symbols = true) (rootKeyId : Option UInt32)
    (root next : PrivateKey) :
    (create rootKeyId root next base authority : Except Error (Token scheme)) =
      .ok ⟨authority, [], base.extend authority.symbols,
        Chain.create rootKeyId authority.toBytes root next⟩ := by
  rw [create, extendSymbols, if_pos h]
  rfl

theorem append_of_isDisjoint {token : Token scheme} {key : PrivateKey}
    (htail : token.chain.tail = .growing key) {block : Block}
    (h : token.symbols.isDisjoint block.symbols = true) (next : PrivateKey) :
    token.append next block = .ok { token with
      blocks := token.blocks ++ [block]
      symbols := token.symbols.extend block.symbols
      chain := { token.chain with
        others := token.chain.others ++ [SignedBlock.create block.toBytes key next]
        tail := .growing next } } := by
  rw [append, Chain.append_of_growing htail, extendSymbols, if_pos h]
  rfl

theorem toSealed_of_growing {token : Token scheme} {key : PrivateKey}
    (htail : token.chain.tail = .growing key) :
    token.toSealed = .ok { token with
      chain := { token.chain with
        tail := .sealed (scheme.sign key token.chain.last.sealMessage) } } := by
  rw [toSealed, Chain.toSealed_of_growing htail]
  rfl

end Token

open Classical in
/-- A scheme that accepts all that is signed with its keys, besides what it accepts already. -/
noncomputable def Scheme.withOwn (scheme : Scheme) : Scheme :=
  { scheme with
    accepts := fun key message signature => scheme.accepts key message signature ||
      decide (∃ secret, scheme.publicBytes secret = key ∧ scheme.sign secret message = signature) }

theorem Scheme.acceptsOwn_withOwn (scheme : Scheme) : scheme.withOwn.AcceptsOwn := by
  intro key message
  have hown : ∃ secret, scheme.publicBytes secret = scheme.publicBytes key ∧
      scheme.sign secret message = scheme.sign key message :=
    ⟨key, rfl, rfl⟩
  exact Bool.or_eq_true_iff.2 (.inr (@decide_eq_true _ (Classical.propDecidable _) hown))

namespace Token

/-- A block that grants a right to a file and to some numbers. -/
def sampleGrant : Block where
  symbols := .ofList ["file"]
  facts := [⟨4, [.str 0, .str 7, .set [.integer 1, .integer 2]]⟩]
  rules := []
  checks := []
  context := some "grant"
  version := 2

/-- A block with a check that the file is asked for. -/
def sampleLimit : Block where
  symbols := .ofList ["limit"]
  facts := []
  rules := []
  checks := [⟨[⟨⟨8, []⟩, [⟨2, [.str 1, .str 7]⟩], []⟩]⟩]
  context := none
  version := 2

/-- The sealed token of the two blocks. -/
def sample (scheme : Scheme) : Token scheme :=
  let authority := SignedBlock.create sampleGrant.toBytes Chain.sampleRoot Chain.sampleFirst.key
  let second :=
    SignedBlock.create sampleLimit.toBytes Chain.sampleFirst.key Chain.sampleSecond.key
  { authority := sampleGrant
    blocks := [sampleLimit]
    symbols := (SymbolTable.standard.extend sampleGrant.symbols).extend sampleLimit.symbols
    chain := ⟨some 3, authority, [second],
      .sealed (scheme.sign Chain.sampleSecond.key (SignedBlock.sealMessage second))⟩ }

theorem issued_sample (scheme : Scheme) : Issued .standard Chain.sampleRoot (sample scheme) := by
  have hgrant : SymbolTable.standard.isDisjoint sampleGrant.symbols = true := by decide +kernel
  have hlimit : (SymbolTable.standard.extend sampleGrant.symbols).isDisjoint
      sampleLimit.symbols = true := by
    decide +kernel
  have hcreated := Issued.create
    (create_of_isDisjoint scheme hgrant (some 3) Chain.sampleRoot Chain.sampleFirst.key)
  have happended := hcreated.append (append_of_isDisjoint rfl hlimit Chain.sampleSecond.key)
  exact happended.toSealed (toSealed_of_growing rfl)

theorem length_toBytes_sampleGrant : sampleGrant.toBytes.length = 138 := by
  have hsymbols : sampleGrant.symbols.names = ["file"] := by decide +kernel
  have hfile : "file".utf8ByteSize = 4 := by decide +kernel
  have hgrant : "grant".utf8ByteSize = 5 := by decide +kernel
  rw [Block.toBytes, Wire.encodeBlock, hsymbols]
  simp [sampleGrant, Wire.encodeOption, Wire.encodeList, Wire.encodePredicate, Wire.encodeTerm,
    Wire.encodeTerms, hfile, hgrant]

theorem length_toBytes_sampleLimit : sampleLimit.toBytes.length = 130 := by
  have hsymbols : sampleLimit.symbols.names = ["limit"] := by decide +kernel
  have hlimit : "limit".utf8ByteSize = 5 := by decide +kernel
  rw [Block.toBytes, Wire.encodeBlock, hsymbols]
  simp [sampleLimit, Wire.encodeOption, Wire.encodeList, Wire.encodeCheck, Wire.encodeRule,
    Wire.encodePredicate, Wire.encodeTerm, hlimit]

theorem length_toBytes_sample (scheme : Scheme) : (sample scheme).toBytes.length = 597 := by
  simp [sample, toBytes, Chain.toBytes, Wire.encodeChain, Wire.encodeOption,
    Wire.encodeSignedBlock, Wire.encodeList, Wire.encodeTail, SignedBlock.create,
    length_toBytes_sampleGrant, length_toBytes_sampleLimit, Signature.size, PublicKey.size]

theorem ordered_sample (scheme : Scheme) :
    ∀ block ∈ (sample scheme).allBlocks, ∀ t ∈ block.terms, t.Ordered := by
  simp [allBlocks, sample, sampleGrant, sampleLimit, Block.terms, Block.queries, RuleOf.terms,
    RuleOf.arguments, RuleOf.operands, TermOf.Ordered, TermOf.AllOrdered]
  decide

theorem mayBeRead_sample (scheme : Scheme) :
    ∀ block ∈ (sample scheme).allBlocks, block.MayBeRead := by
  have hmay {block : Block} (hversion : block.version ≤ 2) (h : block.validate = .ok ()) :
      block.MayBeRead :=
    ⟨hversion, (Block.validate_eq_ok_iff.1 h).1, (Block.validate_eq_ok_iff.1 h).2⟩
  have hgrant : sampleGrant.MayBeRead := hmay (by decide) rfl
  have hlimit : sampleLimit.MayBeRead := hmay (by decide) rfl
  exact List.forall_mem_cons.2 ⟨hgrant, List.forall_mem_cons.2 ⟨hlimit, nofun⟩⟩

/-- The sealed token of the two blocks is loaded from its bytes. -/
theorem sample_ofBytes_toBytes_of_issued :
    let scheme := Signature.Ed25519.scheme.withOwn
    let root := Chain.sampleRoot.toPublic scheme
    ofBytes (sample scheme).toBytes (fun _ => some root) .standard = .ok (sample scheme) ∧
      (sample scheme).isSealed = true := by
  intro scheme root
  have hlength : (sample scheme).toBytes.length < Wire.maxLength := by
    rw [length_toBytes_sample]
    decide
  let rootKey : Option UInt32 → Option (PublicKey scheme) := fun _ => some root
  have hroot : rootKey (sample scheme).rootKeyId = some root := rfl
  obtain ⟨hloads, hsame, -⟩ := ofBytes_toBytes_of_issued
    (Scheme.acceptsOwn_withOwn Signature.Ed25519.scheme) (issued_sample scheme)
    (ordered_sample scheme) hlength hroot
  obtain ⟨loaded, hloaded⟩ := hloads.2 (mayBeRead_sample scheme)
  rw [hsame loaded hloaded] at hloaded
  exact ⟨hloaded, rfl⟩

end Token

end Warrant
