import Mathlib.Data.List.Nodup
import Warrant.Chain
import Warrant.Signature.Ed25519

namespace Warrant

variable {scheme : Scheme}

/-- Bytes that end both in a signature and in a key end in the key as the signature does. -/
theorem drop_eq_of_append_eq {xs ys : List UInt8} {signature : Signature} {key : PublicKey scheme}
    (h : xs ++ signature.bytes = ys ++ key.bytes) : signature.bytes.drop 32 = key.bytes := by
  have hsplit : xs ++ signature.bytes =
      (xs ++ signature.bytes.take 32) ++ signature.bytes.drop 32 := by
    rw [List.append_assoc, List.take_append_drop]
  have hlength : (signature.bytes.drop 32).length = key.bytes.length := by
    rw [List.length_drop, signature.size, key.size]
  exact (List.append_inj' (hsplit.symm.trans h) hlength).2

theorem PublicKey.eq_of_bytes {key other : PublicKey scheme} (h : key.bytes = other.bytes) :
    key = other := by
  cases key
  cases other
  cases h
  rfl

namespace SignedBlock

/-- What a block says: its data and the key that follows. -/
def content (block : SignedBlock scheme) : List UInt8 × PublicKey scheme :=
  (block.data, block.nextKey)

/-- Whether no public key stands at the end of the signature of a block. -/
def NoKeyAtEnd (block : SignedBlock scheme) : Prop :=
  scheme.isPublic (block.signature.bytes.drop 32) = false

instance (block : SignedBlock scheme) : Decidable block.NoKeyAtEnd :=
  inferInstanceAs (Decidable (_ = _))

/-- As keys have one size, a message tells the data from the key. -/
theorem content_eq_of_message_eq {block other : SignedBlock scheme}
    (h : block.message = other.message) : block.content = other.content := by
  have hlength : block.nextKey.bytes.length = other.nextKey.bytes.length := by
    rw [block.nextKey.size, other.nextKey.size]
  obtain ⟨hdata, hkey⟩ := List.append_inj' h hlength
  rw [content, content, hdata, PublicKey.eq_of_bytes hkey]

/-- The message of a seal is not that of a block, unless a key stands at the end of the signature
    that it contains. -/
theorem sealMessage_ne_message {block : SignedBlock scheme} (hblock : block.NoKeyAtEnd)
    (other : SignedBlock scheme) : block.sealMessage ≠ other.message := by
  intro h
  have hkey : scheme.isPublic (block.signature.bytes.drop 32) = true := by
    rw [drop_eq_of_append_eq h]
    exact other.nextKey.valid
  rw [hblock] at hkey
  cases hkey

end SignedBlock

/-- Whether a tail fits the key after the last block. -/
def Tail.Fits (tail : Tail) (last : SignedBlock scheme) (key : PublicKey scheme) : Prop :=
  match tail with
  | .growing secret => secret.toPublic scheme = key
  | .sealed signature => key.verifies last.sealMessage signature = true

namespace Chain

theorem verify_eq_ok_iff {chain : Chain scheme} {root : PublicKey scheme} :
    chain.verify root = .ok () ↔
      ∃ key, follow root 0 chain.blocks = .ok key ∧ chain.tail.Fits chain.last key := by
  rw [verify]
  cases follow root 0 chain.blocks with
  | error cause =>
    constructor
    · intro h
      cases h
    · rintro ⟨key, h, _⟩
      cases h
  | ok key =>
    have hfits : (∃ other, (.ok key : Except ChainError (PublicKey scheme)) = .ok other ∧
        chain.tail.Fits chain.last other) ↔ chain.tail.Fits chain.last key := by
      simp
    rw [hfits]
    change (match chain.tail with
      | .growing secret => if secret.toPublic scheme = key then pure () else throw .wrongKey
      | .sealed signature => if key.verifies chain.last.sealMessage signature = true then pure ()
        else throw .wrongSeal : Except ChainError Unit) = .ok () ↔ _
    cases chain.tail with
    | growing secret =>
      by_cases h : secret.toPublic scheme = key
      · simp [Tail.Fits, h, pure, Except.pure]
      · simp [Tail.Fits, h, throw, throwThe, MonadExceptOf.throw]
    | sealed signature =>
      by_cases h : key.verifies chain.last.sealMessage signature = true
      · simp [Tail.Fits, h, pure, Except.pure]
      · simp [Tail.Fits, h, throw, throwThe, MonadExceptOf.throw]

theorem follow_cons_eq_ok_iff {key last : PublicKey scheme} {index : Nat}
    {block : SignedBlock scheme} {rest : List (SignedBlock scheme)} :
    follow key index (block :: rest) = .ok last ↔
      key.verifies block.message block.signature = true ∧
        follow block.nextKey (index + 1) rest = .ok last := by
  rw [follow]
  split
  case isTrue h => simp [h]
  case isFalse h => simp [h]

/-- What is signed after a block: each further block under the key of the one before, and the seal,
    if there is one, under the last key. -/
def signingsAfter (tail : Tail) (previous : SignedBlock scheme) :
    List (SignedBlock scheme) → List (PublicKey scheme × List UInt8)
  | [] =>
    match tail with
    | .growing _ => []
    | .sealed _ => [(previous.nextKey, previous.sealMessage)]
  | block :: rest => (previous.nextKey, block.message) :: signingsAfter tail block rest

/-- The messages that are signed in a chain, each with the public key under which it is signed. -/
def signings (root : PublicKey scheme) (chain : Chain scheme) :
    List (PublicKey scheme × List UInt8) :=
  (root, chain.authority.message) :: signingsAfter chain.tail chain.authority chain.others

theorem mem_keys_of_mem_signingsAfter {tail : Tail} {previous : SignedBlock scheme}
    {others : List (SignedBlock scheme)} {signing : PublicKey scheme × List UInt8}
    (h : signing ∈ signingsAfter tail previous others) :
    signing.1 ∈ (previous :: others).map SignedBlock.nextKey := by
  induction others generalizing previous with
  | nil =>
    cases tail with
    | growing _ => cases h
    | sealed _ =>
      obtain rfl := List.mem_singleton.1 h
      exact List.mem_cons_self
  | cons block rest ih =>
    rcases List.mem_cons.1 h with rfl | h
    · exact List.mem_cons_self
    · exact List.mem_cons_of_mem _ (ih h)

/-- Where a key is that of one block only, the message that follows the block is all that the key
    signs. -/
theorem message_eq_of_mem_signingsAfter {tail : Tail} {previous block : SignedBlock scheme}
    {rest : List (SignedBlock scheme)} {message : List UInt8}
    (hnodup : ((previous :: block :: rest).map SignedBlock.nextKey).Nodup)
    (h : (previous.nextKey, message) ∈ signingsAfter tail previous (block :: rest)) :
    message = block.message := by
  rcases List.mem_cons.1 h with heq | h
  · exact (Prod.mk.inj heq).2
  · exact absurd (mem_keys_of_mem_signingsAfter h) (List.nodup_cons.1 hnodup).1

/-- Blocks that go on from a block of a sealed chain have the contents of those that go on there,
    and a seal comes after the last of them: each key signs one message only, and what is signed for
    a seal is not what is signed for a block. -/
theorem contents_eq_of_follow (signature : Signature) {previous forged : SignedBlock scheme}
    {others blocks : List (SignedBlock scheme)} {index : Nat} {last : PublicKey scheme}
    {tail : Tail}
    (hnodup : ((previous :: others).map SignedBlock.nextKey).Nodup)
    (hideal : ∀ key ∈ (previous :: others).map SignedBlock.nextKey, ∀ message signature',
      key.verifies message signature' = true →
        (key, message) ∈ signingsAfter (.sealed signature) previous others)
    (hothers : ∀ block ∈ previous :: others, block.NoKeyAtEnd)
    (hblocks : ∀ block ∈ forged :: blocks, block.NoKeyAtEnd)
    (hfollow : follow previous.nextKey index blocks = .ok last)
    (hfits : tail.Fits (blocks.getLastD forged) last)
    (htail : ∀ secret, tail = .growing secret →
      secret.toPublic scheme ∉ (previous :: others).map SignedBlock.nextKey) :
    (∃ signature', tail = .sealed signature') ∧
      blocks.map SignedBlock.content = others.map SignedBlock.content := by
  induction blocks generalizing previous forged others index with
  | nil =>
    cases hfollow
    cases tail with
    | growing secret =>
      have hsecret : secret.toPublic scheme = previous.nextKey := hfits
      have hmem := htail secret rfl
      rw [hsecret] at hmem
      exact absurd List.mem_cons_self hmem
    | sealed signature' =>
      refine ⟨⟨signature', rfl⟩, ?_⟩
      cases others with
      | nil => rfl
      | cons block rest =>
        have hmessage := message_eq_of_mem_signingsAfter hnodup
          (hideal _ List.mem_cons_self _ _ hfits)
        have hforged := hblocks forged List.mem_cons_self
        exact absurd hmessage (SignedBlock.sealMessage_ne_message hforged block)
  | cons block rest ih =>
    obtain ⟨hverifies, hrest⟩ := follow_cons_eq_ok_iff.1 hfollow
    have hsigned := hideal _ List.mem_cons_self _ _ hverifies
    cases others with
    | nil =>
      have hmessage := (Prod.mk.inj (List.mem_singleton.1 hsigned)).2
      have hprevious := hothers previous List.mem_cons_self
      exact absurd hmessage.symm (SignedBlock.sealMessage_ne_message hprevious block)
    | cons other others =>
      have hmessage := message_eq_of_mem_signingsAfter hnodup hsigned
      have hsame := SignedBlock.content_eq_of_message_eq hmessage
      obtain ⟨hfresh, hnodup'⟩ := List.nodup_cons.1 hnodup
      have hideal' (key : PublicKey scheme) (hmem : key ∈ (other :: others).map SignedBlock.nextKey)
          (message : List UInt8) (signature' : Signature)
          (h : key.verifies message signature' = true) :
          (key, message) ∈ signingsAfter (.sealed signature) other others := by
        rcases List.mem_cons.1 (hideal key (List.mem_cons_of_mem _ hmem) message signature' h)
          with heq | hlater
        · refine absurd ?_ hfresh
          rw [← (Prod.mk.inj heq).1]
          exact hmem
        · exact hlater
      have hkey : block.nextKey = other.nextKey := congrArg Prod.snd hsame
      rw [hkey] at hrest
      have hlast : (block :: rest).getLastD forged = rest.getLastD block := by
        cases rest <;> rfl
      rw [hlast] at hfits
      obtain ⟨hsealed, hcontents⟩ := ih hnodup' hideal'
        (fun b hb => hothers b (List.mem_cons_of_mem _ hb))
        (fun b hb => hblocks b (List.mem_cons_of_mem _ hb)) hrest hfits
        fun secret h hmem => htail secret h (List.mem_cons_of_mem _ hmem)
      exact ⟨hsealed, by rw [List.map_cons, List.map_cons, hsame, hcontents]⟩

end Chain

/-- Some data and the key that signs what comes after it. -/
structure Link where
  data : List UInt8
  key : PrivateKey

namespace Chain

/-- A chain to which blocks have been appended one after another. -/
def appendAll (chain : Chain scheme) (links : List Link) : Except ChainError (Chain scheme) :=
  links.foldlM (fun chain link => chain.append link.data link.key) chain

/-- The sealed chain of some links, the first of which `root` signs. -/
def ofLinks (rootKeyId : Option UInt32) (root : PrivateKey) (first : Link) (rest : List Link) :
    Except ChainError (Chain scheme) := do
  let chain ← (create rootKeyId first.data root first.key).appendAll rest
  chain.toSealed

/-- The public keys of a root key and of some links. -/
def publicKeys (scheme : Scheme) (root : PrivateKey) (links : List Link) :
    List (PublicKey scheme) :=
  root.toPublic scheme :: links.map fun link => link.key.toPublic scheme

theorem append_of_growing {chain : Chain scheme} {key : PrivateKey} (h : chain.tail = .growing key)
    (data : List UInt8) (next : PrivateKey) :
    chain.append data next = .ok { chain with
      others := chain.others ++ [SignedBlock.create data key next], tail := .growing next } := by
  rw [append, signer, h]
  rfl

theorem toSealed_of_growing {chain : Chain scheme} {key : PrivateKey}
    (h : chain.tail = .growing key) :
    chain.toSealed =
      .ok { chain with tail := .sealed (scheme.sign key chain.last.sealMessage) } := by
  rw [toSealed, signer, h]
  rfl

/-- To a chain that grows any blocks can be appended. -/
theorem exists_appendAll (chain : Chain scheme) {key : PrivateKey}
    (h : chain.tail = .growing key) (links : List Link) :
    ∃ (longer : Chain scheme) (last : PrivateKey), chain.appendAll links = .ok longer ∧
      longer.tail = .growing last ∧
      longer.blocks.map SignedBlock.nextKey =
        chain.blocks.map SignedBlock.nextKey ++ links.map fun link => link.key.toPublic scheme := by
  induction links generalizing chain key with
  | nil => exact ⟨chain, key, rfl, h, (List.append_nil _).symm⟩
  | cons link links ih =>
    obtain ⟨longer, last, hlonger, htail, hkeys⟩ := ih
      { chain with others := chain.others ++ [SignedBlock.create link.data key link.key],
                   tail := .growing link.key } rfl
    refine ⟨longer, last, ?_, htail, ?_⟩
    · rw [appendAll, List.foldlM_cons, append_of_growing h]
      exact hlonger
    · rw [hkeys]
      simp [blocks, SignedBlock.create]

theorem exists_ofLinks (scheme : Scheme) (rootKeyId : Option UInt32) (root : PrivateKey)
    (first : Link) (rest : List Link) :
    ∃ (chain : Chain scheme) (signature : Signature),
      ofLinks rootKeyId root first rest = .ok chain ∧ chain.tail = .sealed signature ∧
      root.toPublic scheme :: chain.blocks.map SignedBlock.nextKey =
        publicKeys scheme root (first :: rest) := by
  obtain ⟨chain, last, hchain, htail, hkeys⟩ :=
    exists_appendAll (create rootKeyId first.data root first.key : Chain scheme) rfl rest
  refine ⟨{ chain with tail := .sealed (scheme.sign last chain.last.sealMessage) }, _, ?_, rfl, ?_⟩
  · rw [ofLinks, hchain]
    exact toSealed_of_growing htail
  · change root.toPublic scheme :: chain.blocks.map SignedBlock.nextKey = _
    rw [hkeys]
    rfl

/-- A sealed chain cannot be changed: where nobody signs anything else with its keys, any chain that
    holds under its root key is sealed and has the same contents in the same order, unless it ends
    with one of the keys, or a public key stands at the end of a signature. -/
theorem contents_eq_of_verify {rootKeyId : Option UInt32} {root : PrivateKey} {first : Link}
    {rest : List Link} {built : Chain scheme}
    (hbuilt : ofLinks rootKeyId root first rest = .ok built)
    (hdistinct : (publicKeys scheme root (first :: rest)).Nodup)
    (hideal : ∀ key ∈ publicKeys scheme root (first :: rest), ∀ message signature,
      key.verifies message signature = true →
        (key, message) ∈ built.signings (root.toPublic scheme))
    {chain : Chain scheme} (hverify : chain.verify (root.toPublic scheme) = .ok ())
    (htail : ∀ secret, chain.tail = .growing secret →
      secret.toPublic scheme ∉ publicKeys scheme root (first :: rest))
    (hends : ∀ block ∈ built.blocks ++ chain.blocks, block.NoKeyAtEnd) :
    chain.isSealed = true ∧
      chain.blocks.map SignedBlock.content = built.blocks.map SignedBlock.content := by
  obtain ⟨sealedChain, signature, hsealedChain, hbuiltTail, hkeys⟩ :=
    exists_ofLinks scheme rootKeyId root first rest
  obtain rfl : built = sealedChain := Except.ok.inj (hbuilt.symm.trans hsealedChain)
  rw [← hkeys] at hdistinct hideal htail
  rw [signings, hbuiltTail] at hideal
  obtain ⟨hbuiltEnds, hchainEnds⟩ := List.forall_mem_append.1 hends
  obtain ⟨last, hfollow, hfits⟩ := verify_eq_ok_iff.1 hverify
  obtain ⟨hverifies, hrest⟩ := follow_cons_eq_ok_iff.1 hfollow
  obtain ⟨hfresh, hnodup⟩ := List.nodup_cons.1 hdistinct
  have hmessage : chain.authority.message = built.authority.message := by
    rcases List.mem_cons.1 (hideal _ List.mem_cons_self _ _ hverifies) with heq | hlater
    · exact (Prod.mk.inj heq).2
    · exact absurd (mem_keys_of_mem_signingsAfter hlater) hfresh
  have hsame := SignedBlock.content_eq_of_message_eq hmessage
  have hkey : chain.authority.nextKey = built.authority.nextKey := congrArg Prod.snd hsame
  rw [hkey] at hrest
  obtain ⟨⟨signature', hsealed⟩, hcontents⟩ :=
    contents_eq_of_follow signature hnodup
      (fun key hmem message signature' h => by
        rcases List.mem_cons.1 (hideal key (List.mem_cons_of_mem _ hmem) message signature' h)
          with heq | hlater
        · rw [(Prod.mk.inj heq).1] at hmem
          exact absurd hmem hfresh
        · exact hlater)
      hbuiltEnds hchainEnds hrest hfits
      fun secret h hmem => htail secret h (List.mem_cons_of_mem _ hmem)
  refine ⟨by rw [isSealed, hsealed], ?_⟩
  rw [blocks, blocks, List.map_cons, List.map_cons, hsame, hcontents]

/-- Any three keys, the first of which is the root key. -/
def sampleRoot : PrivateKey := ⟨List.replicate 32 1, rfl⟩

def sampleFirst : Link := ⟨[2], ⟨List.replicate 32 2, rfl⟩⟩

def sampleSecond : Link := ⟨[3], ⟨List.replicate 32 3, rfl⟩⟩

/-- The sealed chain of the two links. -/
def sampleChain (scheme : Scheme) : Chain scheme :=
  let authority := SignedBlock.create sampleFirst.data sampleRoot sampleFirst.key
  let second := SignedBlock.create sampleSecond.data sampleFirst.key sampleSecond.key
  ⟨none, authority, [second],
    .sealed (scheme.sign sampleSecond.key (SignedBlock.sealMessage second))⟩

/-- What is signed in the sealed chain of the two links, with the signatures. -/
def sampleRecord (scheme : Scheme) : List (List UInt8 × List UInt8 × Signature) :=
  let authority : SignedBlock scheme :=
    SignedBlock.create sampleFirst.data sampleRoot sampleFirst.key
  let second : SignedBlock scheme :=
    SignedBlock.create sampleSecond.data sampleFirst.key sampleSecond.key
  [(scheme.publicBytes sampleRoot, authority.message, authority.signature),
    (scheme.publicBytes sampleFirst.key, second.message, second.signature),
    (scheme.publicBytes sampleSecond.key, second.sealMessage,
      scheme.sign sampleSecond.key second.sealMessage)]

/-- A scheme in a world where nothing has been signed but the sealed chain of the two links. -/
def sampleWorld (scheme : Scheme) : Scheme :=
  { scheme with
    accepts := fun key message signature =>
      decide ((key, message, signature) ∈ sampleRecord scheme) }

theorem ofLinks_sample (scheme : Scheme) :
    ofLinks none sampleRoot sampleFirst [sampleSecond] = .ok (sampleChain scheme) := rfl

theorem verify_sampleChain (scheme : Scheme) :
    (sampleChain (sampleWorld scheme)).verify (sampleRoot.toPublic _) = .ok () := by
  refine verify_eq_ok_iff.2 ⟨sampleSecond.key.toPublic _, ?_, ?_⟩
  · refine follow_cons_eq_ok_iff.2 ⟨?_, follow_cons_eq_ok_iff.2 ⟨?_, rfl⟩⟩
    · exact decide_eq_true (.head _)
    · exact decide_eq_true (.tail _ (.head _))
  · exact decide_eq_true (.tail _ (.tail _ (.head _)))

theorem mem_signings_sampleChain (scheme : Scheme) {key : PublicKey (sampleWorld scheme)}
    {message : List UInt8} {signature : Signature} (h : key.verifies message signature = true) :
    (key, message) ∈ (sampleChain (sampleWorld scheme)).signings (sampleRoot.toPublic _) := by
  have hrecord : (key.bytes, message, signature) ∈ sampleRecord scheme := of_decide_eq_true h
  have hkey {secret : PrivateKey} {signed : List UInt8} {good : Signature}
      (h : (key.bytes, message, signature) = (scheme.publicBytes secret, signed, good)) :
      (key, message) = (secret.toPublic (sampleWorld scheme), signed) := by
    obtain ⟨hbytes, hrest⟩ := Prod.mk.inj h
    have hsame : key = secret.toPublic _ := PublicKey.eq_of_bytes hbytes
    rw [(Prod.mk.inj hrest).1, hsame]
  rcases List.mem_cons.1 hrecord with h | hrecord
  · rw [hkey h]
    exact .head _
  rcases List.mem_cons.1 hrecord with h | hrecord
  · rw [hkey h]
    exact .tail _ (.head _)
  · rw [hkey (List.mem_singleton.1 hrecord)]
    exact .tail _ (.tail _ (.head _))

theorem publicKeys_sample_nodup :
    (publicKeys (sampleWorld Signature.Ed25519.scheme) sampleRoot
      [sampleFirst, sampleSecond]).Nodup := by
  decide +kernel

theorem noKeyAtEnd_sampleChain :
    ∀ block ∈ (sampleChain (sampleWorld Signature.Ed25519.scheme)).blocks, block.NoKeyAtEnd := by
  decide +kernel

/-- The sealed chain of the two links under the number of another root key holds, and has the same
    contents. -/
theorem sampleChain_contents_eq_of_verify :
    let built := sampleChain (sampleWorld Signature.Ed25519.scheme)
    let chain := { built with rootKeyId := some 7 }
    chain.verify (sampleRoot.toPublic _) = .ok () ∧ chain.isSealed = true ∧
      chain.blocks.map SignedBlock.content = built.blocks.map SignedBlock.content := by
  have hverify := verify_sampleChain Signature.Ed25519.scheme
  refine ⟨hverify, contents_eq_of_verify (ofLinks_sample _) publicKeys_sample_nodup
    (fun _ _ _ _ h => mem_signings_sampleChain _ h) hverify (fun _ h => ?_) ?_⟩
  · cases h
  · exact List.forall_mem_append.2 ⟨noKeyAtEnd_sampleChain, noKeyAtEnd_sampleChain⟩

end Chain

end Warrant
