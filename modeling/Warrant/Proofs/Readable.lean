import Warrant.Proofs.Payload

namespace Warrant

variable {V S : Type}

namespace TermOf

/-- Whether a term may be read: it is no set, or one of scalars that are all of one kind. -/
def MayBeRead (t : TermOf V S) : Prop :=
  ∀ elements, t = set elements →
    (∀ e ∈ elements, e.kind ≠ .var ∧ e.kind ≠ .set) ∧
      ∀ e ∈ elements, ∀ other ∈ elements, e.kind = other.kind

theorem elementFault_cons_eq_none_iff {seen : Option Kind} {t : TermOf V S}
    {ts : List (TermOf V S)} :
    elementFault seen (t :: ts) = none ↔
      (t.kind ≠ .var ∧ t.kind ≠ .set) ∧ seen.getD t.kind = t.kind ∧
        elementFault (some t.kind) ts = none := by
  rw [elementFault]
  split
  case h_1 h => simp [h]
  case h_2 h => simp [h]
  case h_3 hvar hset =>
    have hscalar : t.kind ≠ .var ∧ t.kind ≠ .set := ⟨hvar, hset⟩
    split <;> simp_all

theorem elementFault_some_eq_none_iff {k : Kind} {elements : List (TermOf V S)} :
    elementFault (some k) elements = none ↔
      ∀ e ∈ elements, (e.kind ≠ .var ∧ e.kind ≠ .set) ∧ k = e.kind := by
  induction elements with
  | nil => exact iff_of_true rfl nofun
  | cons e rest ih =>
    rw [elementFault_cons_eq_none_iff, List.forall_mem_cons, and_assoc (c := ∀ _ ∈ _, _)]
    refine and_congr_right fun _ => and_congr_right fun hk => ?_
    obtain rfl : k = e.kind := hk
    exact ih

theorem elementFault_none_eq_none_iff {elements : List (TermOf V S)} :
    elementFault none elements = none ↔
      (∀ e ∈ elements, e.kind ≠ .var ∧ e.kind ≠ .set) ∧
        ∀ e ∈ elements, ∀ other ∈ elements, e.kind = other.kind := by
  cases elements with
  | nil => exact iff_of_true rfl ⟨nofun, nofun⟩
  | cons first rest =>
    rw [elementFault_cons_eq_none_iff, elementFault_some_eq_none_iff]
    constructor
    · rintro ⟨hfirst, -, hrest⟩
      have hkind (e : TermOf V S) (he : e ∈ first :: rest) : first.kind = e.kind := by
        rcases List.mem_cons.1 he with rfl | he
        · rfl
        · exact (hrest e he).2
      refine ⟨List.forall_mem_cons.2 ⟨hfirst, fun e he => (hrest e he).1⟩, ?_⟩
      exact fun e he other hother => (hkind e he).symm.trans (hkind other hother)
    · rintro ⟨hscalar, hkind⟩
      obtain ⟨hfirst, hrest⟩ := List.forall_mem_cons.1 hscalar
      refine ⟨hfirst, rfl, fun e he => ⟨hrest e he, ?_⟩⟩
      exact hkind first List.mem_cons_self e (List.mem_cons_of_mem _ he)

theorem validate_eq_ok_iff {t : TermOf V S} : t.validate = .ok () ↔ t.MayBeRead := by
  cases t with
  | set elements =>
    have hfault : (set elements).validate = .ok () ↔ elementFault none elements = none := by
      rw [validate]
      cases elementFault none elements <;> simp
    rw [hfault, elementFault_none_eq_none_iff]
    constructor
    · rintro h _ ⟨⟩
      exact h
    · exact fun h => h elements rfl
  | _ => exact iff_of_true rfl nofun

/-- The elements of a set that may be read are no sets that could be out of order. -/
theorem MayBeRead.ordered_ofElements [Ord V] [Ord S] [Std.TransOrd (TermOf V S)]
    [Std.LawfulEqOrd (TermOf V S)] {elements : List (TermOf V S)}
    (h : (ofElements elements).MayBeRead) : (ofElements elements).Ordered := by
  refine TermOf.ordered_ofElements fun e he => ?_
  have hscalar := ((h _ rfl).1 e (SortedList.mem_ofList.2 he)).2
  cases e with
  | set inner => exact absurd rfl hscalar
  | _ => trivial

end TermOf

theorem validateTerms_eq_ok_iff {terms : List (TermOf V S)} :
    validateTerms terms = .ok () ↔ ∀ t ∈ terms, t.MayBeRead :=
  forM_eq_ok_iff.trans (forall₂_congr fun _ _ => TermOf.validate_eq_ok_iff)

theorem PredicateOf.validateFact_eq_ok_iff {fact : PredicateOf V S} :
    fact.validateFact = .ok () ↔ fact.isGround = true ∧ ∀ t ∈ fact.terms, t.MayBeRead := by
  rw [validateFact]
  split
  case isTrue h => simp [h, validateTerms_eq_ok_iff]
  case isFalse h => simp [h]

theorem RuleOf.validate_eq_ok_iff {rule : RuleOf V S} :
    rule.validate = .ok () ↔ ∀ t ∈ rule.terms, t.MayBeRead := by
  rw [terms, List.forall_mem_append, ← validateTerms_eq_ok_iff, ← validateTerms_eq_ok_iff]
  exact then_eq_ok_iff

theorem CheckOf.validate_eq_ok_iff {check : CheckOf V S} :
    check.validate = .ok () ↔ ∀ query ∈ check.queries, ∀ t ∈ query.terms, t.MayBeRead :=
  forM_eq_ok_iff.trans (forall₂_congr fun _ _ => RuleOf.validate_eq_ok_iff)

namespace Block

/-- Whether a block may be read from its bytes: its version is supported, its facts have no
    variables and its sets are of scalars of one kind. -/
structure MayBeRead (block : Block) : Prop where
  version : block.version ≤ 2
  ground : ∀ fact ∈ block.facts, fact.isGround = true
  terms : ∀ t ∈ block.terms, t.MayBeRead

theorem validate_eq_ok_iff {block : Block} :
    block.validate = .ok () ↔
      (∀ fact ∈ block.facts, fact.isGround = true) ∧ ∀ t ∈ block.terms, t.MayBeRead := by
  have hloops : block.validate = .ok () ↔
      block.facts.forM PredicateOf.validateFact = .ok () ∧
        block.rules.forM RuleOf.validate = .ok () ∧
          block.checks.forM CheckOf.validate = .ok () :=
    then_eq_ok_iff.trans (and_congr_right fun _ => then_eq_ok_iff)
  rw [hloops, forM_eq_ok_iff, forM_eq_ok_iff, forM_eq_ok_iff]
  simp only [PredicateOf.validateFact_eq_ok_iff, RuleOf.validate_eq_ok_iff,
    CheckOf.validate_eq_ok_iff, Block.terms, queries, List.forall_mem_append,
    List.forall_mem_flatMap, forall_and, and_assoc]

/-- The version of a block is read first. -/
theorem word32_toBytes (block : Block) :
    ∃ rest, Wire.word32 block.toBytes = .ok (block.version, rest) := by
  have hwidth : (Wire.encodeWord32 block.version).length < Wire.maxLength := by
    rw [Wire.length_encodeWord32]
    decide
  rw [toBytes, Wire.encodeBlock]
  simp only [List.append_assoc]
  exact ⟨_, (Wire.reads_word32 block.version).2 hwidth _⟩

/-- The bytes of a block are read as the block where its version is supported and it is valid. -/
theorem ofBytes_toBytes {block : Block} (hordered : ∀ t ∈ block.terms, t.Ordered)
    (hlength : block.toBytes.length < Wire.maxLength) :
    ofBytes block.toBytes =
      if currentVersion < block.version then .error (.format (.version block.version))
      else
        match block.validate with
        | .error fault => .error (.term fault)
        | .ok () => .ok block := by
  obtain ⟨rest, hversion⟩ := word32_toBytes block
  have hblock : Wire.block block.toBytes = .ok (block, []) := by
    have hread := (Wire.reads_block hordered).2 hlength []
    rw [List.append_nil] at hread
    exact hread
  cases hvalidate : block.validate <;> simp only [ofBytes, hversion, hblock, hvalidate]

theorem mayBeRead_iff {block : Block} :
    block.MayBeRead ↔ ¬currentVersion < block.version ∧ block.validate = .ok () := by
  rw [validate_eq_ok_iff, UInt32.not_lt]
  exact ⟨fun h => ⟨h.version, h.ground, h.terms⟩, fun ⟨hv, hg, ht⟩ => ⟨hv, hg, ht⟩⟩

/-- What is read from the bytes of a block, if anything, is the block, and it is read exactly if it
    may be. -/
theorem ofBytes_toBytes_eq_ok_iff {block read : Block} (hordered : ∀ t ∈ block.terms, t.Ordered)
    (hlength : block.toBytes.length < Wire.maxLength) :
    ofBytes block.toBytes = .ok read ↔ block.MayBeRead ∧ read = block := by
  rw [ofBytes_toBytes hordered hlength, mayBeRead_iff]
  by_cases hnew : currentVersion < block.version
  · simp [hnew]
  · cases hvalidate : block.validate <;> simp [hnew, eq_comm]

end Block

end Warrant
