import Warrant.Proofs.Extension

namespace Warrant

variable {scheme : Scheme}

/-- As keys have one size, what is signed of a block tells the data from the key. -/
theorem blockMessage_inj {data data' : List UInt8} {key key' : PublicKey scheme} :
    blockMessage data key = blockMessage data' key' ↔ data = data' ∧ key = key' := by
  constructor
  · intro h
    obtain ⟨hdata, hbytes⟩ := List.append_inj' h (key.size.trans key'.size.symm)
    exact ⟨hdata, PublicKey.eq_of_bytes hbytes⟩
  · rintro ⟨rfl, rfl⟩
    rfl

theorem Signature.eq_of_bytes {signature other : Signature} (h : signature.bytes = other.bytes) :
    signature = other := by
  cases signature
  cases other
  cases h
  rfl

namespace SignedBlock

variable {block other : SignedBlock scheme} {data : List UInt8} {key : PublicKey scheme}

/-- As signatures have one size too, the message of a seal tells all of the block. -/
theorem sealMessage_inj : block.sealMessage = other.sealMessage ↔ block = other := by
  refine ⟨fun h => ?_, congrArg sealMessage⟩
  obtain ⟨hmessage, hbytes⟩ :=
    List.append_inj' h (block.signature.size.trans other.signature.size.symm)
  obtain ⟨hdata, hkey⟩ := blockMessage_inj.1 hmessage
  obtain ⟨_, _, _⟩ := block
  obtain ⟨_, _, _⟩ := other
  cases hdata
  cases hkey
  cases Signature.eq_of_bytes hbytes
  rfl

/-- Whether the message of a seal falls into some data and a key: the key is the second half of the
    signature in it, the data is all that comes before. -/
def SealSplits (block : SignedBlock scheme) (data : List UInt8) (key : PublicKey scheme) : Prop :=
  data = block.message ++ block.signature.bytes.take 32 ∧
    key.bytes = block.signature.bytes.drop 32

theorem sealMessage_eq_blockMessage_iff :
    block.sealMessage = blockMessage data key ↔ block.SealSplits data key := by
  have hsplit : block.sealMessage = (block.message ++ block.signature.bytes.take 32) ++
      block.signature.bytes.drop 32 := by
    rw [List.append_assoc, List.take_append_drop, sealMessage]
  rw [hsplit]
  constructor
  · intro h
    have hlength : (block.signature.bytes.drop 32).length = key.bytes.length := by
      rw [List.length_drop, block.signature.size, key.size]
    obtain ⟨hdata, hkey⟩ := List.append_inj' h hlength
    exact ⟨hdata.symm, hkey.symm⟩
  · rintro ⟨rfl, hkey⟩
    rw [blockMessage, hkey]

/-- The message of a seal falls into some data and a key unless no key ends its signature. -/
theorem exists_sealSplits_iff (block : SignedBlock scheme) :
    (∃ data key, block.SealSplits data key) ↔ ¬ block.NoKeyAtEnd := by
  rw [NoKeyAtEnd, Bool.not_eq_false]
  constructor
  · rintro ⟨_, key, -, hkey⟩
    rw [← hkey]
    exact key.valid
  · intro hvalid
    have hsize : (block.signature.bytes.drop 32).length = 32 := by
      rw [List.length_drop, block.signature.size]
    exact ⟨_, ⟨_, hsize, hvalid⟩, rfl, rfl⟩

end SignedBlock

namespace Chain

variable {chain : Chain scheme} {root key : PublicKey scheme}

/-- Blocks lead to the key of the last of them. -/
theorem eq_nextKey_of_follow {block : SignedBlock scheme} {rest : List (SignedBlock scheme)}
    {index : Nat} (h : follow root index (block :: rest) = .ok key) :
    key = (rest.getLastD block).nextKey := by
  induction rest generalizing block root index with
  | nil => exact (Except.ok.inj (follow_cons_eq_ok_iff.1 h).2).symm
  | cons next rest ih =>
    rw [List.getLastD_cons]
    exact ih (follow_cons_eq_ok_iff.1 h).2

/-- The seal of a chain that holds is good under the last key. -/
theorem verifies_seal {signature : Signature} (htail : chain.tail = .sealed signature)
    (hverify : chain.verify root = .ok ()) :
    chain.last.nextKey.verifies chain.last.sealMessage signature = true := by
  obtain ⟨last, hfollow, hfits⟩ := verify_eq_ok_iff.1 hverify
  have hlast : last = chain.last.nextKey := eq_nextKey_of_follow hfollow
  rw [htail, hlast] at hfits
  exact hfits

/-- A chain with one more block, whatever is signed in it, and with another tail. -/
def presentedWith (chain : Chain scheme) (block : SignedBlock scheme) (tail : Tail) :
    Chain scheme :=
  { chain with others := chain.others ++ [block], tail := tail }

/-- A block that is put after those of a chain that holds is looked at under the last key. -/
theorem wrongSignature_presentedWith_iff (hverify : chain.verify root = .ok ())
    (block : SignedBlock scheme) (tail : Tail) :
    (chain.presentedWith block tail).verify root = .error (.wrongSignature chain.blocks.length) ↔
      chain.last.nextKey.verifies block.message block.signature = false := by
  obtain ⟨key, hfollow, -⟩ := verify_eq_ok_iff.1 hverify
  have hkey : key = chain.last.nextKey := eq_nextKey_of_follow hfollow
  have hblocks : (chain.presentedWith block tail).blocks = chain.blocks ++ [block] := rfl
  rw [verify_eq_wrongSignature_iff, hblocks, follow_append, hfollow, ← hkey]
  change follow key (0 + chain.blocks.length) [block] = _ ↔ _
  rw [follow, Nat.zero_add]
  cases key.verifies block.message block.signature <;> simp [follow]

/-- What is signed for blocks and what is signed for seals tell all that they are made of, and a
    seal has its message in common with a block, which is one block only, if and only if a public
    key ends the signature in it. So a seal that is good for nothing but its message is refused as
    the signature of one more block under its key, unless that is the block. -/
theorem seal_refused_as_signature :
    (∀ (data data' : List UInt8) (key key' : PublicKey scheme),
      blockMessage data key = blockMessage data' key' → data = data' ∧ key = key') ∧
    (∀ block other : SignedBlock scheme, block.sealMessage = other.sealMessage → block = other) ∧
    (∀ block : SignedBlock scheme,
      ((∀ data (key : PublicKey scheme), block.sealMessage ≠ blockMessage data key) ↔
        block.NoKeyAtEnd) ∧
      ∀ data (key : PublicKey scheme), block.sealMessage = blockMessage data key ↔
        block.SealSplits data key) ∧
    ∀ (chain : Chain scheme) (root : PublicKey scheme) (signature : Signature),
      chain.tail = .sealed signature → chain.verify root = .ok () →
      (∀ message, chain.last.nextKey.verifies message signature = true →
        message = chain.last.sealMessage) →
      ∀ (data : List UInt8) (key : PublicKey scheme) (tail : Tail),
        (chain.presentedWith ⟨data, key, signature⟩ tail).verify root =
            .error (.wrongSignature chain.blocks.length) ↔
          ¬ chain.last.SealSplits data key := by
  refine ⟨fun _ _ _ _ => blockMessage_inj.1, fun _ _ => SignedBlock.sealMessage_inj.1,
    fun block => ⟨?_, fun _ _ => SignedBlock.sealMessage_eq_blockMessage_iff⟩, ?_⟩
  · rw [← not_iff_not, ← block.exists_sealSplits_iff]
    simp only [ne_eq, not_forall, not_not, SignedBlock.sealMessage_eq_blockMessage_iff]
  · intro chain root signature htail hverify honly data key tail
    have hseal := verifies_seal htail hverify
    rw [wrongSignature_presentedWith_iff hverify, ← Bool.not_eq_true,
      ← SignedBlock.sealMessage_eq_blockMessage_iff]
    refine not_congr ⟨fun h => (honly _ h).symm, fun h => ?_⟩
    rw [h] at hseal
    exact hseal

/-- The seal of the two links is refused as the signature of a third block. -/
theorem sampleChain_seal_refused_as_signature :
    let chain := sampleChain (sampleWorld Signature.Ed25519.scheme)
    ∃ signature, chain.tail = .sealed signature ∧
      (chain.presentedWith ⟨[4], sampleFirst.key.toPublic _, signature⟩
        (.growing sampleFirst.key)).verify (sampleRoot.toPublic _) =
          .error (.wrongSignature 2) := by
  obtain ⟨-, -, -, hrefused⟩ := @seal_refused_as_signature (sampleWorld Signature.Ed25519.scheme)
  refine ⟨_, rfl, (hrefused _ _ _ rfl (verify_sampleChain _) (fun message h => ?_) _ _ _).2 ?_⟩
  · have hkeys := publicKeys_sample_nodup
    rw [publicKeys, List.nodup_cons, List.map_cons, List.nodup_cons] at hkeys
    obtain ⟨hroot, hfirst, -⟩ := hkeys
    rcases List.mem_cons.1 (mem_signings_sampleChain _ h) with heq | hlater
    · rw [← (Prod.mk.inj heq).1] at hroot
      exact absurd (.tail _ (.head _)) hroot
    rcases List.mem_cons.1 hlater with heq | hlast
    · have hkey : sampleSecond.key.toPublic (sampleWorld Signature.Ed25519.scheme) =
          sampleFirst.key.toPublic _ := (Prod.mk.inj heq).1
      rw [← hkey] at hfirst
      exact absurd (.head _) hfirst
    · exact (Prod.mk.inj (List.mem_singleton.1 hlast)).2
  · intro hsplits
    exact (SignedBlock.exists_sealSplits_iff _).1 ⟨_, _, hsplits⟩
      (noKeyAtEnd_sampleChain _ (.tail _ (.head _)))

/-- A block of the curve the signature of which ends in a public key. -/
def keyEndedBlock : SignedBlock Signature.Ed25519.scheme :=
  SignedBlock.create [1] sampleRoot sampleFirst.key

theorem not_noKeyAtEnd_keyEndedBlock : ¬ keyEndedBlock.NoKeyAtEnd := by decide +kernel

/-- A chain of that block is sealed and holds, and what its seal signs is also signed of a block:
    one more block with the seal as its signature is accepted. -/
theorem keyEndedBlock_seal_accepted :
    ∃ (data : List UInt8) (key : PublicKey Signature.Ed25519.scheme) (signature : Signature),
      let chain : Chain Signature.Ed25519.scheme := ⟨none, keyEndedBlock, [], .sealed signature⟩
      keyEndedBlock.sealMessage = blockMessage data key ∧
        chain.verify (sampleRoot.toPublic _) = .ok () ∧
        (chain.presentedWith ⟨data, key, signature⟩ (.sealed signature)).verify
          (sampleRoot.toPublic _) ≠ .error (.wrongSignature 1) := by
  obtain ⟨data, key, hsplits⟩ := keyEndedBlock.exists_sealSplits_iff.2 not_noKeyAtEnd_keyEndedBlock
  have hmessage := SignedBlock.sealMessage_eq_blockMessage_iff.2 hsplits
  let signature := Signature.Ed25519.scheme.sign sampleFirst.key keyEndedBlock.sealMessage
  let chain : Chain Signature.Ed25519.scheme := ⟨none, keyEndedBlock, [], .sealed signature⟩
  have hverify : chain.verify (sampleRoot.toPublic _) = .ok () := by decide +kernel
  refine ⟨data, key, signature, hmessage, hverify, fun hwrong => ?_⟩
  have hrefused := (wrongSignature_presentedWith_iff hverify _ _).1 hwrong
  have hseal := verifies_seal rfl hverify
  change chain.last.nextKey.verifies (blockMessage data key) signature = false at hrefused
  rw [← hmessage] at hrefused
  cases hseal.symm.trans hrefused

end Chain

end Warrant
