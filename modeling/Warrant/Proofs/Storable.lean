import Warrant.Proofs.Interning
import Warrant.Proofs.NormalForm
import Warrant.Proofs.Stages

namespace Warrant

namespace TermOf

variable {V S : Type} {f : V → UInt32} {g : S → UInt64}

/-- Whether a term may be read, and comes back from its bytes as it was. -/
structure Storable (t : Term) : Prop where
  mayBeRead : t.MayBeRead
  ordered : t.Ordered

theorem MayBeRead.numbered {t : TermOf V S} (h : t.MayBeRead) : (t.numbered f g).MayBeRead := by
  cases t with
  | set elements =>
    obtain ⟨hscalar, hkind⟩ := h elements rfl
    have hkinds (e : Term) (he : e ∈ SortedList.ofList (elements.map (TermOf.numbered f g))) :
        ∃ e' ∈ elements, e.kind = e'.kind := by
      obtain ⟨e', he', rfl⟩ := List.mem_map.1 (SortedList.mem_ofList.1 he)
      exact ⟨e', he', kind_numbered e'⟩
    rw [numbered_set]
    rintro _ ⟨⟩
    refine ⟨fun e he => ?_, fun e he other hother => ?_⟩
    · obtain ⟨e', he', hsame⟩ := hkinds e he
      rw [hsame]
      exact hscalar e' he'
    · obtain ⟨e', he', hsame⟩ := hkinds e he
      obtain ⟨other', hother', hsame'⟩ := hkinds other hother
      rw [hsame, hsame']
      exact hkind e' he' other' hother'
  | _ =>
    rw [TermOf.numbered]
    rintro _ ⟨⟩

/-- Numbering puts sets in order. -/
theorem ordered_numbered (t : TermOf V S) : (t.numbered f g).Ordered := by
  induction t with
  | set elements ih =>
    rw [numbered_set]
    exact ordered_ofElements (List.forall_mem_map.2 ih)
  | _ =>
    rw [numbered]
    trivial

theorem MayBeRead.storable_numbered {t : TermOf V S} (h : t.MayBeRead) :
    (t.numbered f g).Storable := ⟨h.numbered, t.ordered_numbered⟩

theorem MayBeRead.isGround {t : TermOf V S} (h : t.MayBeRead) (hvariable : t.asVariable? = none) :
    t.isGround = true := by
  cases t with
  | var v => cases hvariable
  | set elements =>
    rw [TermOf.isGround, areGround_iff]
    intro e he
    obtain ⟨hvar, hset⟩ := (h elements rfl).1 e he
    exact isGround_of_kind_ne hvar hset
  | _ => rfl

/-- Whether a term may be stored and has no variables. -/
structure Constant (t : Term) : Prop extends t.Storable where
  ground : t.isGround = true

end TermOf

section

variable {V S : Type} {f : V → UInt32} {g : S → UInt64}

theorem OpOf.term?_numbered (op : OpOf V S) :
    (op.numbered f g).term? = op.term?.map (TermOf.numbered f g) := by
  cases op <;> rfl

theorem RuleOf.terms_numbered (r : RuleOf V S) :
    (r.numbered f g).terms = r.terms.map (TermOf.numbered f g) := by
  have harguments : (r.numbered f g).arguments = r.arguments.map (TermOf.numbered f g) := by
    simp [arguments, numbered, PredicateOf.numbered, List.flatMap_map, List.map_flatMap]
  have hoperands : (r.numbered f g).operands = r.operands.map (TermOf.numbered f g) := by
    simp [operands, numbered, List.flatMap_map, List.map_flatMap, List.filterMap_map,
      List.map_filterMap, OpOf.term?_numbered]
  rw [terms, harguments, hoperands, ← List.map_append, ← terms]

theorem RuleOf.storable_numbered {r : RuleOf V S} (h : ∀ t ∈ r.terms, t.MayBeRead) :
    ∀ t ∈ (r.numbered f g).terms, t.Storable := by
  rw [terms_numbered]
  exact List.forall_mem_map.2 fun t ht => (h t ht).storable_numbered

end

namespace Block

/-- Whether the terms of a block may be stored and its facts have no variables. -/
structure Storable (b : Block) : Prop where
  ground : ∀ fact ∈ b.facts, fact.isGround = true
  terms : ∀ t ∈ b.terms, t.Storable

theorem terms_numbered (f : UInt32 → UInt32) (g : UInt64 → UInt64) (b : Block) :
    (b.numbered f g).terms = b.terms.map (TermOf.numbered f g) := by
  simp [terms, queries, numbered, PredicateOf.numbered, CheckOf.numbered, List.flatMap_map,
    List.map_flatMap, RuleOf.terms_numbered, List.flatMap_assoc]

theorem Storable.numbered {b : Block} (h : b.Storable) (f : UInt32 → UInt32)
    (g : UInt64 → UInt64) : (b.numbered f g).Storable where
  ground := by
    refine List.forall_mem_map.2 fun fact hfact => ?_
    rw [PredicateOf.isGround_numbered]
    exact h.ground fact hfact
  terms := by
    rw [terms_numbered]
    exact List.forall_mem_map.2 fun t ht => (h.terms t ht).mayBeRead.storable_numbered

theorem storable_of_ofBytes {bytes : List UInt8} {b : Block} (h : ofBytes bytes = .ok b) :
    b.Storable := by
  obtain ⟨hmay, hordered, -⟩ := mayBeRead_of_ofBytes h
  exact ⟨hmay.ground, fun t ht => ⟨hmay.terms t ht, hordered t ht⟩⟩

theorem Storable.constant {b : Block} (h : b.Storable) {fact : Fact} (hfact : fact ∈ b.facts) :
    ∀ t ∈ fact.terms, t.Constant := by
  intro t ht
  have hmem : t ∈ b.terms := List.mem_append_left _ (List.mem_flatMap.2 ⟨fact, hfact, ht⟩)
  exact ⟨h.terms t hmem, List.all_eq_true.1 (h.ground fact hfact) t ht⟩

theorem Storable.query {b : Block} (h : b.Storable) {query : Rule} (hquery : query ∈ b.queries) :
    ∀ t ∈ query.terms, t.Storable := by
  intro t ht
  exact h.terms t (List.mem_append_right _ (List.mem_flatMap.2 ⟨query, hquery, ht⟩))

end Block

/-- The blocks of a token that has been read may be stored. -/
theorem Token.storable_of_ofBytes {scheme : Scheme} {bytes : List UInt8}
    {rootKey : Option UInt32 → Option (PublicKey scheme)} {base : SymbolTable}
    {token : Token scheme} (h : ofBytes bytes rootKey base = .ok token) :
    ∀ b ∈ token.allBlocks, b.Storable := by
  have hblocks {symbols : SymbolTable} {signed : List (SignedBlock scheme)}
      {read : List Block × SymbolTable} (h : readBlocks symbols signed = .ok read) :
      ∀ b ∈ read.1, b.Storable := by
    induction signed generalizing symbols read with
    | nil =>
      cases h
      exact nofun
    | cons first rest ih =>
      obtain ⟨block, hblock, h⟩ := bind_eq_ok_iff.1 h
      obtain ⟨extended, -, h⟩ := bind_eq_ok_iff.1 h
      obtain ⟨more, hmore, h⟩ := bind_eq_ok_iff.1 h
      cases h
      exact List.forall_mem_cons.2 ⟨Block.storable_of_ofBytes hblock, ih hmore⟩
  obtain ⟨chain, -, h⟩ := bind_eq_ok_iff.1 h
  split at h
  case h_1 => cases h
  case h_2 root _ =>
    obtain ⟨_, -, h⟩ := bind_eq_ok_iff.1 h
    obtain ⟨authority, hauthority, h⟩ := bind_eq_ok_iff.1 h
    obtain ⟨extended, -, h⟩ := bind_eq_ok_iff.1 h
    obtain ⟨more, hmore, h⟩ := bind_eq_ok_iff.1 h
    cases h
    exact List.forall_mem_cons.2 ⟨Block.storable_of_ofBytes hauthority, hblocks hmore⟩

/-- Facts without variables that may be stored. -/
def constantFacts : Set Fact := {fact | ∀ t ∈ fact.terms, t.Constant}

theorem closedUnder_constantFacts (symbols : SymbolTable) {rules : List Rule}
    (h : ∀ rule ∈ rules, ∀ t ∈ rule.terms, t.Storable) :
    ClosedUnder symbols rules constantFacts := by
  intro rule hrule fact hyields t ht
  rcases hyields.mem_terms ht with ⟨hhead, hvariable⟩ | ⟨other, hother, hmem⟩
  · have hargument : t ∈ rule.terms :=
      List.mem_append_left _ (List.mem_append_left _ hhead)
    have hstorable := h rule hrule t hargument
    exact ⟨hstorable, hstorable.mayBeRead.isGround hvariable⟩
  · exact hother t hmem

end Warrant
