import Warrant.Proofs.Decoding
import Warrant.Signature.Ed25519
import Warrant.Wire.Envelope

namespace Warrant

variable {scheme : Scheme}

theorem PrivateKey.ofBytes_eq_ok_iff {bytes : List UInt8} {key : PrivateKey} :
    ofBytes bytes = .ok key ↔ bytes = key.bytes := by
  constructor
  · intro h
    rw [ofBytes] at h
    split at h
    · cases h
      rfl
    · cases h
  · rintro rfl
    exact dif_pos key.size

theorem Signature.ofBytes_eq_ok_iff {bytes : List UInt8} {signature : Signature} :
    ofBytes bytes = .ok signature ↔ bytes = signature.bytes := by
  constructor
  · intro h
    rw [ofBytes] at h
    split at h
    · cases h
      rfl
    · cases h
  · rintro rfl
    exact dif_pos signature.size

theorem PublicKey.ofBytes_eq_ok_iff {bytes : List UInt8} {key : PublicKey scheme} :
    ofBytes bytes = .ok key ↔ bytes = key.bytes := by
  constructor
  · intro h
    rw [ofBytes] at h
    split at h
    · split at h
      · cases h
        rfl
      · cases h
    · cases h
  · rintro rfl
    rw [ofBytes, dif_pos key.size, dif_pos key.valid]

/-- A signed block before its key and its signature are looked at. -/
def SignedBlock.toLoose (block : SignedBlock scheme) : Wire.LooseBlock :=
  ⟨block.data, block.nextKey.bytes, block.signature.bytes⟩

theorem Wire.LooseBlock.fit_eq_ok_iff {loose : LooseBlock} {block : SignedBlock scheme} :
    loose.fit = .ok block ↔ loose = block.toLoose := by
  constructor
  · intro h
    obtain ⟨key, hkey, h⟩ := bind_eq_ok_iff.1 h
    obtain ⟨signature, hsignature, h⟩ := bind_eq_ok_iff.1 h
    cases h
    rw [SignedBlock.toLoose, ← PublicKey.ofBytes_eq_ok_iff.1 hkey,
      ← Signature.ofBytes_eq_ok_iff.1 hsignature]
  · rintro rfl
    exact bind_eq_ok_iff.2 ⟨_, PublicKey.ofBytes_eq_ok_iff.2 rfl,
      bind_eq_ok_iff.2 ⟨_, Signature.ofBytes_eq_ok_iff.2 rfl, rfl⟩⟩

theorem Wire.mapM_fit_eq_ok_iff {loose : List LooseBlock} {blocks : List (SignedBlock scheme)} :
    loose.mapM LooseBlock.fit = .ok blocks ↔ loose = blocks.map SignedBlock.toLoose := by
  induction loose generalizing blocks with
  | nil => cases blocks <;> simp [pure, Except.pure]
  | cons first rest ih =>
    rw [List.mapM_cons, bind_eq_ok_iff]
    constructor
    · rintro ⟨block, hfirst, h⟩
      obtain ⟨others, hrest, h⟩ := bind_eq_ok_iff.1 h
      cases h
      rw [List.map_cons, ← LooseBlock.fit_eq_ok_iff.1 hfirst, ← ih.1 hrest]
    · intro h
      cases blocks with
      | nil => cases h
      | cons block others =>
        rw [List.map_cons, List.cons.injEq] at h
        exact ⟨block, LooseBlock.fit_eq_ok_iff.2 h.1,
          bind_eq_ok_iff.2 ⟨others, ih.2 h.2, rfl⟩⟩

/-- Whether a tail is sealed, and its bytes. -/
def Tail.toLoose : Tail → Bool × List UInt8
  | growing key => (false, key.bytes)
  | .sealed signature => (true, signature.bytes)

/-- A chain before its keys and its signatures are looked at. -/
def Chain.toLoose (chain : Chain scheme) : Wire.LooseChain where
  rootKeyId := chain.rootKeyId
  authority := chain.authority.toLoose
  others := chain.others.map SignedBlock.toLoose
  isSealed := chain.tail.toLoose.1
  tail := chain.tail.toLoose.2

/-- The tail of some bytes, if they are a key or a signature. -/
def Tail.ofLoose : Bool × List UInt8 → Except KeyFault Tail
  | (false, bytes) => growing <$> PrivateKey.ofBytes bytes
  | (true, bytes) => Tail.sealed <$> Signature.ofBytes bytes

theorem Tail.ofLoose_eq_ok_iff {loose : Bool × List UInt8} {tail : Tail} :
    ofLoose loose = .ok tail ↔ loose = tail.toLoose := by
  obtain ⟨_ | _, bytes⟩ := loose
  · rw [ofLoose, map_eq_ok_iff]
    constructor
    · rintro ⟨key, hkey, rfl⟩
      rw [PrivateKey.ofBytes_eq_ok_iff.1 hkey, toLoose]
    · intro h
      cases tail <;> cases h
      exact ⟨_, PrivateKey.ofBytes_eq_ok_iff.2 rfl, rfl⟩
  · rw [ofLoose, map_eq_ok_iff]
    constructor
    · rintro ⟨signature, hsignature, rfl⟩
      rw [Signature.ofBytes_eq_ok_iff.1 hsignature, toLoose]
    · intro h
      cases tail <;> cases h
      exact ⟨_, Signature.ofBytes_eq_ok_iff.2 rfl, rfl⟩

theorem Wire.LooseChain.fit_eq (loose : LooseChain) :
    (loose.fit : Except KeyFault (Chain scheme)) = do
      let authority ← loose.authority.fit
      let others ← loose.others.mapM LooseBlock.fit
      let tail ← Tail.ofLoose (loose.isSealed, loose.tail)
      return ⟨loose.rootKeyId, authority, others, tail⟩ := by
  obtain ⟨rootKeyId, authority, others, isSealed, tail⟩ := loose
  cases isSealed <;> rfl

theorem Wire.LooseChain.fit_eq_ok_iff {loose : LooseChain} {chain : Chain scheme} :
    loose.fit = .ok chain ↔ loose = chain.toLoose := by
  rw [fit_eq]
  constructor
  · intro h
    obtain ⟨authority, hauthority, h⟩ := bind_eq_ok_iff.1 h
    obtain ⟨others, hothers, h⟩ := bind_eq_ok_iff.1 h
    obtain ⟨tail, htail, h⟩ := bind_eq_ok_iff.1 h
    cases h
    rw [Chain.toLoose, ← LooseBlock.fit_eq_ok_iff.1 hauthority, ← mapM_fit_eq_ok_iff.1 hothers,
      ← Tail.ofLoose_eq_ok_iff.1 htail]
  · rintro rfl
    exact bind_eq_ok_iff.2 ⟨_, LooseBlock.fit_eq_ok_iff.2 rfl, bind_eq_ok_iff.2
      ⟨_, mapM_fit_eq_ok_iff.2 rfl, bind_eq_ok_iff.2 ⟨_, Tail.ofLoose_eq_ok_iff.2 rfl, rfl⟩⟩⟩

namespace Wire

theorem reads_looseBlock (block : SignedBlock scheme) :
    Reads looseBlock (encodeSignedBlock block) block.toLoose := by
  rw [encodeSignedBlock, List.append_assoc]
  exact (reads_bytes block.data).bind ((reads_bytes _).bind (reads_bytes _).map)

theorem reads_looseTail (tail : Tail) : Reads looseTail (encodeTail tail) tail.toLoose := by
  cases tail with
  | growing key => exact (reads_variant (by decide) (by decide)).bind (reads_bytes key.bytes).map
  | «sealed» signature =>
    exact (reads_variant (by decide) (by decide)).bind (reads_bytes signature.bytes).map

theorem reads_looseChain (chain : Chain scheme) :
    Reads looseChain (encodeChain chain) chain.toLoose := by
  have hrootKeyId : Reads (option word32) (encodeOption encodeWord32 chain.rootKeyId)
      chain.rootKeyId :=
    reads_option fun id _ => reads_word32 id
  have hothers := reads_list_map fun block (_ : block ∈ chain.others) => reads_looseBlock block
  rw [encodeChain, List.append_assoc, List.append_assoc]
  exact hrootKeyId.bind ((reads_looseBlock _).bind (hothers.bind (reads_looseTail _).map))

/-! Keys and signatures of any size have one spelling as well. -/

def encodeLooseBlock (block : LooseBlock) : List UInt8 :=
  encodeBytes block.data ++ encodeBytes block.nextKey ++ encodeBytes block.signature

def encodeLooseTail (tail : Bool × List UInt8) : List UInt8 :=
  encodeVariant (if tail.1 then 1 else 0) ++ encodeBytes tail.2

def encodeLooseChain (chain : LooseChain) : List UInt8 :=
  encodeOption encodeWord32 chain.rootKeyId ++ encodeLooseBlock chain.authority ++
    encodeList encodeLooseBlock chain.others ++ encodeLooseTail (chain.isSealed, chain.tail)

theorem canonical_looseBlock : Canonical looseBlock encodeLooseBlock := by
  refine canonical_bytes.bind fun taken data hdata => ?_
  refine canonical_bytes.bind fun taken' nextKey hnextKey => ?_
  refine canonical_bytes.map fun taken'' signature hsignature => ?_
  rw [hdata, hnextKey, hsignature, encodeLooseBlock, List.append_assoc]

theorem canonical_looseTail : Canonical looseTail encodeLooseTail := by
  refine (takes_variant 2).bind fun taken which hwhich =>
    canonical_bytes.map fun more tail htail => ?_
  obtain ⟨rfl, hbound⟩ := hwhich
  rw [htail, encodeLooseTail]
  match which with
  | 0 => rfl
  | 1 => rfl

theorem canonical_looseChain : Canonical looseChain encodeLooseChain := by
  refine (canonical_option canonical_word32).bind fun taken rootKeyId hrootKeyId => ?_
  refine canonical_looseBlock.bind fun taken' authority hauthority => ?_
  refine (canonical_list canonical_looseBlock).bind fun taken'' others hothers => ?_
  refine canonical_looseTail.map fun taken''' tail htail => ?_
  rw [hrootKeyId, hauthority, hothers, htail, encodeLooseChain]
  simp only [List.append_assoc]

theorem encodeLooseChain_toLoose (chain : Chain scheme) :
    encodeLooseChain chain.toLoose = encodeChain chain := by
  have hothers : (chain.others.map SignedBlock.toLoose).flatMap encodeLooseBlock =
      chain.others.flatMap encodeSignedBlock := List.flatMap_map _ _ _
  have htail : encodeLooseTail chain.tail.toLoose = encodeTail chain.tail := by
    cases chain.tail <;> rfl
  rw [encodeLooseChain, encodeChain, ← htail, encodeList, encodeList, ← hothers,
    ← List.length_map SignedBlock.toLoose]
  rfl

end Wire

namespace Chain

/-- A chain is read from its bytes, whatever follows them. -/
theorem ofBytes_toBytes_append (chain : Chain scheme)
    (hlength : chain.toBytes.length < Wire.maxLength) (rest : List UInt8) :
    ofBytes (chain.toBytes ++ rest) = .ok chain := by
  have hread : Wire.looseChain (chain.toBytes ++ rest) = .ok (chain.toLoose, rest) :=
    (Wire.reads_looseChain chain).2 hlength rest
  have hfit : chain.toLoose.fit = .ok chain := Wire.LooseChain.fit_eq_ok_iff.2 rfl
  simp only [ofBytes, hread, hfit]

/-- A chain is only read from bytes that begin with its own. -/
theorem toBytes_prefix_of_ofBytes {bytes : List UInt8} {chain : Chain scheme}
    (h : ofBytes bytes = .ok chain) : chain.toBytes <+: bytes := by
  rw [ofBytes] at h
  split at h
  case h_1 => cases h
  case h_2 loose rest hread =>
    split at h
    case h_1 => cases h
    case h_2 fitting hfit =>
      cases h
      obtain ⟨taken, rfl, htaken⟩ := Wire.canonical_looseChain _ _ _ hread
      rw [Wire.LooseChain.fit_eq_ok_iff] at hfit
      rw [toBytes, ← Wire.encodeLooseChain_toLoose, ← hfit, ← htaken]
      exact List.prefix_append taken rest

theorem ofBytes_eq_ok_iff {chain : Chain scheme} (hlength : chain.toBytes.length < Wire.maxLength)
    {bytes : List UInt8} : ofBytes bytes = .ok chain ↔ chain.toBytes <+: bytes := by
  refine ⟨toBytes_prefix_of_ofBytes, ?_⟩
  rintro ⟨rest, rfl⟩
  exact chain.ofBytes_toBytes_append hlength rest

/-- A chain has one spelling. It is read from exactly those bytes that begin with its own, so that
    bytes from which it is read differ in what follows only, and none of its own bytes can be left
    out at the end. -/
theorem spelled_once (scheme : Scheme) :
    (∀ (bytes : List UInt8) (chain : Chain scheme), ofBytes bytes = .ok chain →
      chain.toBytes <+: bytes) ∧
    ∀ chain : Chain scheme, chain.toBytes.length < Wire.maxLength →
      (∀ rest, ofBytes (chain.toBytes ++ rest) = .ok chain) ∧
      (∀ (bytes bytes' : List UInt8) (chain' : Chain scheme), ofBytes bytes = .ok chain →
        ofBytes bytes' = .ok chain' → (chain = chain' ↔
          ∃ rest rest', bytes = chain.toBytes ++ rest ∧ bytes' = chain.toBytes ++ rest')) ∧
      ∀ bytes, bytes <+: chain.toBytes → bytes ≠ chain.toBytes →
        ∃ fault, (ofBytes bytes : Except FormatError (Chain scheme)) = .error fault := by
  refine ⟨fun bytes chain => toBytes_prefix_of_ofBytes, fun chain hlength => ⟨?_, ?_, ?_⟩⟩
  · exact chain.ofBytes_toBytes_append hlength
  · intro bytes bytes' chain' h h'
    constructor
    · rintro rfl
      obtain ⟨rest, hrest⟩ := toBytes_prefix_of_ofBytes h
      obtain ⟨rest', hrest'⟩ := toBytes_prefix_of_ofBytes h'
      exact ⟨rest, rest', hrest.symm, hrest'.symm⟩
    · rintro ⟨rest, rest', rfl, rfl⟩
      rw [chain.ofBytes_toBytes_append hlength rest'] at h'
      exact Except.ok.inj h'
  · intro bytes hstart hne
    cases hread : (ofBytes bytes : Except FormatError (Chain scheme)) with
    | error fault => exact ⟨fault, rfl⟩
    | ok shorter =>
      -- the bytes of what is read begin those of the chain, so that it is the chain
      have hbegin := toBytes_prefix_of_ofBytes hread
      have hlength' := Nat.lt_of_le_of_lt (hbegin.trans hstart).length_le hlength
      have hshorter := (ofBytes_eq_ok_iff hlength').2 (hbegin.trans hstart)
      have hchain := (ofBytes_eq_ok_iff hlength).2 List.prefix_rfl
      obtain rfl : chain = shorter := Except.ok.inj (hchain.symm.trans hshorter)
      exact absurd (hstart.eq_of_length_le hbegin.length_le) hne

/-- A sealed chain of one block that says nothing, with any keys and any signatures. -/
def silentChain (scheme : Scheme) : Chain scheme :=
  let key : PrivateKey := ⟨List.replicate 32 7, rfl⟩
  ⟨some 3, SignedBlock.create [] key key, [], .sealed (scheme.sign key [])⟩

theorem length_toBytes_silentChain (scheme : Scheme) :
    (silentChain scheme).toBytes.length = 209 := by
  simp [silentChain, toBytes, Wire.encodeChain, Wire.encodeOption, Wire.encodeSignedBlock,
    Wire.encodeList, Wire.encodeTail, SignedBlock.create, Signature.size, PublicKey.size]

/-- The chain of one block is read where a byte follows its own, but not where its last byte is left
    out. -/
theorem silentChain_spelled_once :
    let chain := silentChain Signature.Ed25519.scheme
    chain.toBytes.length < Wire.maxLength ∧ ofBytes (chain.toBytes ++ [0]) = .ok chain ∧
      ∃ fault, (ofBytes chain.toBytes.dropLast :
        Except FormatError (Chain Signature.Ed25519.scheme)) = .error fault := by
  intro chain
  have hcount : chain.toBytes.length = 209 := length_toBytes_silentChain _
  have hlength : chain.toBytes.length < Wire.maxLength := by
    rw [hcount]
    decide
  obtain ⟨hreads, -, hshort⟩ := (spelled_once Signature.Ed25519.scheme).2 chain hlength
  refine ⟨hlength, hreads [0], hshort _ (List.dropLast_prefix _) fun hsame => ?_⟩
  have hless : chain.toBytes.dropLast.length < chain.toBytes.length := by
    rw [List.length_dropLast, hcount]
    decide
  rw [hsame] at hless
  exact absurd hless (Nat.lt_irrefl _)

end Chain

end Warrant
