import Warrant.Proofs.Sealing

namespace Warrant

variable {scheme : Scheme}

namespace Scheme

/-- Whether signatures of a scheme are accepted under the keys that made them. -/
def AcceptsOwn (scheme : Scheme) : Prop :=
  ∀ key message, scheme.accepts (scheme.publicBytes key) message (scheme.sign key message) = true

/-- Whether signatures of a scheme are accepted under the keys that made them and under no
    others. -/
def AcceptsOnlyOwn (scheme : Scheme) : Prop :=
  ∀ (secret : PrivateKey) (message : List UInt8) (key : PublicKey scheme),
    key.verifies message (scheme.sign secret message) = true ↔ secret.toPublic scheme = key

theorem AcceptsOnlyOwn.acceptsOwn (h : scheme.AcceptsOnlyOwn) : scheme.AcceptsOwn :=
  fun secret message => (h secret message (secret.toPublic scheme)).2 rfl

end Scheme

namespace Chain

theorem follow_append (key : PublicKey scheme) (index : Nat) (xs ys : List (SignedBlock scheme)) :
    follow key index (xs ++ ys) =
      (follow key index xs).bind fun last => follow last (index + xs.length) ys := by
  induction xs generalizing key index with
  | nil => rfl
  | cons x xs ih =>
    rw [List.cons_append, follow, follow]
    split
    · rw [ih, List.length_cons, Nat.add_right_comm, Nat.add_assoc]
    · rfl

/-- A tail is looked at only where every block is signed as it should be. -/
theorem verify_eq_wrongSignature_iff {chain : Chain scheme} {root : PublicKey scheme}
    {index : Nat} :
    chain.verify root = .error (.wrongSignature index) ↔
      follow root 0 chain.blocks = .error (.wrongSignature index) := by
  rw [verify]
  cases follow root 0 chain.blocks with
  | error cause =>
    change (.error cause : Except ChainError Unit) = _ ↔ _
    rw [Except.error.injEq, Except.error.injEq]
  | ok key =>
    constructor
    · intro h
      cases htail : chain.tail with
      | growing secret =>
        rw [htail] at h
        change (if secret.toPublic scheme = key then pure () else throw .wrongKey :
          Except ChainError Unit) = _ at h
        split at h <;> cases h
      | «sealed» signature =>
        rw [htail] at h
        change (if key.verifies chain.last.sealMessage signature = true then pure ()
          else throw .wrongSeal : Except ChainError Unit) = _ at h
        split at h <;> cases h
    · intro h
      cases h

theorem verify_create (hscheme : scheme.AcceptsOwn) (rootKeyId : Option UInt32)
    (data : List UInt8) (root next : PrivateKey) :
    (create rootKeyId data root next : Chain scheme).verify (root.toPublic scheme) = .ok () := by
  refine verify_eq_ok_iff.2 ⟨next.toPublic scheme, ?_, rfl⟩
  exact follow_cons_eq_ok_iff.2 ⟨hscheme root _, rfl⟩

theorem exists_of_append_eq_ok {chain longer : Chain scheme} {data : List UInt8} {next : PrivateKey}
    (h : chain.append data next = .ok longer) :
    ∃ secret, chain.tail = .growing secret ∧ longer = { chain with
      others := chain.others ++ [SignedBlock.create data secret next], tail := .growing next } := by
  cases htail : chain.tail with
  | growing secret =>
    rw [append_of_growing htail] at h
    exact ⟨secret, rfl, (Except.ok.inj h).symm⟩
  | «sealed» signature =>
    rw [append, signer, htail] at h
    cases h

theorem exists_of_toSealed_eq_ok {chain closed : Chain scheme} (h : chain.toSealed = .ok closed) :
    ∃ secret, chain.tail = .growing secret ∧
      closed = { chain with tail := .sealed (scheme.sign secret chain.last.sealMessage) } := by
  cases htail : chain.tail with
  | growing secret =>
    rw [toSealed_of_growing htail] at h
    exact ⟨secret, rfl, (Except.ok.inj h).symm⟩
  | «sealed» signature =>
    rw [toSealed, signer, htail] at h
    cases h

theorem verify_of_growing_eq_ok_iff {chain : Chain scheme} {root : PublicKey scheme}
    {secret : PrivateKey} (htail : chain.tail = .growing secret) :
    chain.verify root = .ok () ↔ follow root 0 chain.blocks = .ok (secret.toPublic scheme) := by
  rw [verify_eq_ok_iff, htail]
  constructor
  · rintro ⟨key, hfollow, hfits⟩
    obtain rfl : secret.toPublic scheme = key := hfits
    exact hfollow
  · exact fun hfollow => ⟨_, hfollow, rfl⟩

section

variable {chain longer closed : Chain scheme} {root : PublicKey scheme} {data : List UInt8}
  {next : PrivateKey}

/-- The blocks of a chain are followed before the block that is appended. -/
theorem follow_blocks_of_append {secret : PrivateKey} (htail : chain.tail = .growing secret)
    (happend : chain.append data next = .ok longer) :
    follow root 0 longer.blocks = (follow root 0 chain.blocks).bind fun last =>
      follow last chain.blocks.length [SignedBlock.create data secret next] := by
  rw [append_of_growing htail] at happend
  cases happend
  have hfollow := follow_append root 0 chain.blocks [SignedBlock.create data secret next]
  rw [Nat.zero_add] at hfollow
  exact hfollow

/-- A chain with one more block holds where the blocks before lead to a key under which the new one
    is accepted. -/
theorem verify_append_eq_ok_iff (happend : chain.append data next = .ok longer) :
    longer.verify root = .ok () ↔
      ∃ secret key, chain.tail = .growing secret ∧ follow root 0 chain.blocks = .ok key ∧
        key.verifies (blockMessage data (next.toPublic scheme))
          (scheme.sign secret (blockMessage data (next.toPublic scheme))) = true := by
  obtain ⟨secret, htail, hlonger⟩ := exists_of_append_eq_ok happend
  have hnext : longer.tail = .growing next := by rw [hlonger]
  rw [verify_of_growing_eq_ok_iff hnext, follow_blocks_of_append htail happend, htail]
  cases follow root 0 chain.blocks with
  | error cause =>
    refine iff_of_false nofun ?_
    rintro ⟨_, _, _, hfollow, _⟩
    cases hfollow
  | ok last =>
    change follow last chain.blocks.length [SignedBlock.create data secret next] = _ ↔ _
    rw [follow_cons_eq_ok_iff]
    constructor
    · rintro ⟨hverifies, -⟩
      exact ⟨secret, last, rfl, rfl, hverifies⟩
    · rintro ⟨_, _, ⟨⟩, ⟨⟩, hverifies⟩
      exact ⟨hverifies, rfl⟩

/-- A sealed chain holds where the blocks lead to a key under which the seal is accepted. -/
theorem verify_toSealed_eq_ok_iff (hclosed : chain.toSealed = .ok closed) :
    closed.verify root = .ok () ↔
      ∃ secret key, chain.tail = .growing secret ∧ follow root 0 chain.blocks = .ok key ∧
        key.verifies chain.last.sealMessage (scheme.sign secret chain.last.sealMessage) = true := by
  obtain ⟨secret, htail, rfl⟩ := exists_of_toSealed_eq_ok hclosed
  rw [verify_eq_ok_iff, htail]
  constructor
  · rintro ⟨key, hfollow, hfits⟩
    exact ⟨secret, key, rfl, hfollow, hfits⟩
  · rintro ⟨_, key, ⟨⟩, hfollow, hverifies⟩
    exact ⟨key, hfollow, hverifies⟩

theorem verify_append (hscheme : scheme.AcceptsOwn) (happend : chain.append data next = .ok longer)
    (h : chain.verify root = .ok ()) : longer.verify root = .ok () := by
  obtain ⟨secret, htail, -⟩ := exists_of_append_eq_ok happend
  rw [verify_of_growing_eq_ok_iff htail] at h
  exact (verify_append_eq_ok_iff happend).2 ⟨secret, _, htail, h, hscheme secret _⟩

theorem verify_toSealed (hscheme : scheme.AcceptsOwn) (hclosed : chain.toSealed = .ok closed)
    (h : chain.verify root = .ok ()) : closed.verify root = .ok () := by
  obtain ⟨secret, htail, -⟩ := exists_of_toSealed_eq_ok hclosed
  rw [verify_of_growing_eq_ok_iff htail] at h
  exact (verify_toSealed_eq_ok_iff hclosed).2 ⟨secret, _, htail, h, hscheme secret _⟩

/-- Where the last key is not that of the blocks, it signs a block that is not accepted. -/
theorem verify_append_iff (hscheme : scheme.AcceptsOnlyOwn)
    (happend : chain.append data next = .ok longer) :
    longer.verify root = .ok () ↔ chain.verify root = .ok () := by
  refine ⟨fun h => ?_, verify_append hscheme.acceptsOwn happend⟩
  obtain ⟨secret, key, htail, hfollow, hverifies⟩ := (verify_append_eq_ok_iff happend).1 h
  rw [hscheme] at hverifies
  rw [verify_of_growing_eq_ok_iff htail, hverifies]
  exact hfollow

/-- Where the last key is not that of the blocks, it makes a seal that is not accepted. -/
theorem verify_toSealed_iff (hscheme : scheme.AcceptsOnlyOwn)
    (hclosed : chain.toSealed = .ok closed) :
    closed.verify root = .ok () ↔ chain.verify root = .ok () := by
  refine ⟨fun h => ?_, verify_toSealed hscheme.acceptsOwn hclosed⟩
  obtain ⟨secret, key, htail, hfollow, hverifies⟩ := (verify_toSealed_eq_ok_iff hclosed).1 h
  rw [hscheme] at hverifies
  rw [verify_of_growing_eq_ok_iff htail, hverifies]
  exact hfollow

theorem wrongSignature_append {index : Nat} (happend : chain.append data next = .ok longer)
    (h : chain.verify root = .error (.wrongSignature index)) :
    longer.verify root = .error (.wrongSignature index) := by
  obtain ⟨secret, htail, -⟩ := exists_of_append_eq_ok happend
  rw [verify_eq_wrongSignature_iff] at h ⊢
  rw [follow_blocks_of_append htail happend, h]
  rfl

theorem wrongSignature_toSealed {index : Nat} (hclosed : chain.toSealed = .ok closed)
    (h : chain.verify root = .error (.wrongSignature index)) :
    closed.verify root = .error (.wrongSignature index) := by
  obtain ⟨secret, -, rfl⟩ := exists_of_toSealed_eq_ok hclosed
  rw [verify_eq_wrongSignature_iff] at h ⊢
  exact h

end

/-- What a chain may become: itself, or what it may become with one more block or sealed. -/
inductive Becomes (chain : Chain scheme) : Chain scheme → Prop
  | refl : Becomes chain chain
  | append {later longer : Chain scheme} {data : List UInt8} {next : PrivateKey}
      (h : Becomes chain later) (happend : later.append data next = .ok longer) :
      Becomes chain longer
  | toSealed {later closed : Chain scheme} (h : Becomes chain later)
      (hclosed : later.toSealed = .ok closed) : Becomes chain closed

namespace Becomes

variable {chain later : Chain scheme} {root : PublicKey scheme}

theorem verify_iff (hscheme : scheme.AcceptsOnlyOwn) (h : chain.Becomes later) :
    later.verify root = .ok () ↔ chain.verify root = .ok () := by
  induction h with
  | refl => exact Iff.rfl
  | append _ happend ih => exact (verify_append_iff hscheme happend).trans ih
  | toSealed _ hclosed ih => exact (verify_toSealed_iff hscheme hclosed).trans ih

theorem wrongSignature {index : Nat} (h : chain.Becomes later)
    (hwrong : chain.verify root = .error (.wrongSignature index)) :
    later.verify root = .error (.wrongSignature index) := by
  induction h with
  | refl => exact hwrong
  | append _ happend ih => exact wrongSignature_append happend ih
  | toSealed _ hclosed ih => exact wrongSignature_toSealed hclosed ih

end Becomes

/-- To go on with a chain neither repairs nor breaks it. A chain that grows takes any block and can
    be sealed, and what comes of it holds under a root key exactly if the chain does; a block that
    is signed wrong is so ever after, and what is made of a chain from its first block on holds. -/
theorem verify_of_becomes (hscheme : scheme.AcceptsOnlyOwn) (root : PublicKey scheme) :
    (∀ (chain : Chain scheme) (secret : PrivateKey), chain.tail = .growing secret →
      (∀ data next, ∃ longer, chain.append data next = .ok longer ∧ longer.tail = .growing next ∧
        (longer.verify root = .ok () ↔ chain.verify root = .ok ())) ∧
      ∃ closed, chain.toSealed = .ok closed ∧
        (closed.verify root = .ok () ↔ chain.verify root = .ok ())) ∧
    (∀ (chain later : Chain scheme) (index : Nat), chain.Becomes later →
      chain.verify root = .error (.wrongSignature index) →
        later.verify root = .error (.wrongSignature index)) ∧
    ∀ (rootKeyId : Option UInt32) (data : List UInt8) (secret next : PrivateKey)
      (later : Chain scheme), (create rootKeyId data secret next).Becomes later →
        secret.toPublic scheme = root → later.verify root = .ok () := by
  refine ⟨fun chain secret htail => ⟨fun data next => ?_, ?_⟩, ?_, ?_⟩
  · have happend := append_of_growing htail data next
    exact ⟨_, happend, rfl, verify_append_iff hscheme happend⟩
  · have hclosed := toSealed_of_growing htail
    exact ⟨_, hclosed, verify_toSealed_iff hscheme hclosed⟩
  · exact fun chain later index h hwrong => h.wrongSignature hwrong
  · rintro rootKeyId data secret next later h rfl
    exact (h.verify_iff hscheme).2 (verify_create hscheme.acceptsOwn rootKeyId data secret next)

end Chain

/-- A signature that says no more than which key it is by. -/
def nameOnly (key : List UInt8) : Signature := ⟨(key ++ List.replicate 64 0).take 64, by simp⟩

namespace Scheme

/-- The signature of a message under a public key in a world where some signatures are on record,
    each with its key and its message, and all others only name their keys. -/
def signatureOf (record : List (List UInt8 × List UInt8 × Signature)) (key message : List UInt8) :
    Signature :=
  match record.find? fun entry => entry.1 = key ∧ entry.2.1 = message with
  | some entry => entry.2.2
  | none => nameOnly key

/-- A scheme in such a world. -/
def recorded (scheme : Scheme) (record : List (List UInt8 × List UInt8 × Signature)) : Scheme :=
  { scheme with
    sign := fun secret message => signatureOf record (scheme.publicBytes secret) message
    accepts := fun key message signature => decide (signature = signatureOf record key message) }

variable {record : List (List UInt8 × List UInt8 × Signature)}

theorem nameOnly_inj {key other : List UInt8} (hkey : key.length = 32) (hother : other.length = 32)
    (h : nameOnly key = nameOnly other) : key = other := by
  have hname (xs : List UInt8) (hxs : xs.length = 32) : (nameOnly xs).bytes.take 32 = xs := by
    rw [nameOnly, List.take_take, Nat.min_eq_left (by decide), List.take_left' hxs]
  rw [← hname key hkey, h, hname other hother]

theorem drop_nameOnly {key : List UInt8} (hkey : key.length = 32) :
    (nameOnly key).bytes.drop 32 = List.replicate 32 0 := by
  rw [nameOnly, List.drop_take, List.drop_left' hkey]
  rfl

theorem of_find?_eq_some {key message : List UInt8} {entry : List UInt8 × List UInt8 × Signature}
    (h : record.find? (fun entry => entry.1 = key ∧ entry.2.1 = message) = some entry) :
    entry.1 = key ∧ entry.2.1 = message := by
  simpa using List.find?_some h

/-- What is on record by one key is signed by no other, if nobody else has signed the same and no
    signature on record only names a key. -/
theorem signatureOf_inj
    (hkeys : ∀ entry ∈ record, ∀ other ∈ record, entry.2.1 = other.2.1 → entry.1 = other.1)
    (hnames : ∀ entry ∈ record, entry.2.2.bytes.drop 32 ≠ List.replicate 32 0)
    {key other message : List UInt8} (hkey : key.length = 32) (hother : other.length = 32)
    (h : signatureOf record key message = signatureOf record other message) : key = other := by
  rw [signatureOf, signatureOf] at h
  split at h
  case h_1 entry hentry =>
    have hmem := List.mem_of_find?_eq_some hentry
    obtain ⟨rfl, hmessage⟩ := of_find?_eq_some hentry
    split at h
    case h_1 entry' hentry' =>
      obtain ⟨rfl, hmessage'⟩ := of_find?_eq_some hentry'
      exact hkeys entry hmem entry' (List.mem_of_find?_eq_some hentry')
        (hmessage.trans hmessage'.symm)
    case h_2 =>
      refine absurd ?_ (hnames entry hmem)
      rw [h, drop_nameOnly hother]
  case h_2 =>
    split at h
    case h_1 entry' hentry' =>
      refine absurd ?_ (hnames entry' (List.mem_of_find?_eq_some hentry'))
      rw [← h, drop_nameOnly hkey]
    case h_2 => exact nameOnly_inj hkey hother h

theorem acceptsOnlyOwn_recorded
    (hkeys : ∀ entry ∈ record, ∀ other ∈ record, entry.2.1 = other.2.1 → entry.1 = other.1)
    (hnames : ∀ entry ∈ record, entry.2.2.bytes.drop 32 ≠ List.replicate 32 0) :
    (scheme.recorded record).AcceptsOnlyOwn := by
  intro secret message key
  have hbytes : key.verifies message ((scheme.recorded record).sign secret message) = true ↔
      signatureOf record (scheme.publicBytes secret) message =
        signatureOf record key.bytes message := decide_eq_true_iff
  rw [hbytes]
  constructor
  · intro h
    exact PublicKey.eq_of_bytes
      (signatureOf_inj hkeys hnames (scheme.length_publicBytes secret) key.size h)
  · rintro rfl
    rfl

end Scheme
namespace Chain

/-- The scheme of the curve in a world where the sealed chain of the two links has been signed. -/
def sampleRecorded : Scheme :=
  Signature.Ed25519.scheme.recorded (sampleRecord Signature.Ed25519.scheme)

theorem acceptsOnlyOwn_sampleRecorded : sampleRecorded.AcceptsOnlyOwn :=
  Scheme.acceptsOnlyOwn_recorded (by decide +kernel) (by decide +kernel)

/-- A chain of one block, the data of which has been changed after it was signed. -/
def tamperedChain : Chain sampleRecorded :=
  let authority := SignedBlock.create sampleFirst.data sampleRoot sampleFirst.key
  ⟨none, { authority with data := [9] }, [], .growing sampleFirst.key⟩

theorem verify_tamperedChain :
    tamperedChain.verify (sampleRoot.toPublic _) = .error (.wrongSignature 0) := by
  decide +kernel

/-- The changed chain takes another block and a seal and stays wrong at its first block. The chain
    as it was before takes them too, and holds. -/
theorem tamperedChain_verify_of_becomes :
    (∃ longer closed, tamperedChain.append sampleSecond.data sampleSecond.key = .ok longer ∧
      longer.toSealed = .ok closed ∧
      closed.verify (sampleRoot.toPublic _) = .error (.wrongSignature 0)) ∧
    ∃ longer closed : Chain sampleRecorded,
      (create none sampleFirst.data sampleRoot sampleFirst.key).append sampleSecond.data
        sampleSecond.key = .ok longer ∧
      longer.toSealed = .ok closed ∧ closed.verify (sampleRoot.toPublic _) = .ok () := by
  obtain ⟨hgrows, hwrong, hmade⟩ :=
    verify_of_becomes acceptsOnlyOwn_sampleRecorded (sampleRoot.toPublic _)
  constructor
  · obtain ⟨longer, happend, htail, -⟩ :=
      (hgrows tamperedChain sampleFirst.key rfl).1 sampleSecond.data sampleSecond.key
    obtain ⟨closed, hclosed, -⟩ := (hgrows longer sampleSecond.key htail).2
    have hbecomes := (Becomes.refl.append happend).toSealed hclosed
    exact ⟨longer, closed, happend, hclosed,
      hwrong tamperedChain closed 0 hbecomes verify_tamperedChain⟩
  · obtain ⟨longer, happend, htail, -⟩ :=
      (hgrows (create none sampleFirst.data sampleRoot sampleFirst.key) sampleFirst.key rfl).1
        sampleSecond.data sampleSecond.key
    obtain ⟨closed, hclosed, -⟩ := (hgrows longer sampleSecond.key htail).2
    have hbecomes := (Becomes.refl.append happend).toSealed hclosed
    exact ⟨longer, closed, happend, hclosed, hmade _ _ _ _ closed hbecomes rfl⟩

end Chain

end Warrant
