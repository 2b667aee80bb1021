import Warrant.Proofs.Dangling
import Warrant.Proofs.Loading

namespace Warrant

variable {scheme : Scheme}

/-- Whether a block points to strings of a table only. -/
def Block.PointsInto (symbols : SymbolTable) (b : Block) : Prop :=
  ∀ s ∈ b.positions, s.toNat < symbols.size

-- found by searching the list, not all positions that there are
instance (symbols : SymbolTable) (b : Block) : Decidable (b.PointsInto symbols) :=
  List.decidableBAll (fun s : UInt64 => s.toNat < symbols.size) b.positions

/-- What a block says in the strings of a table. -/
def Block.draft (symbols : SymbolTable) (b : Block) : BlockDraft where
  facts := b.facts.map (PredicateOf.resolve symbols)
  rules := b.rules.map (RuleOf.resolve symbols)
  checks := b.checks.map fun check => ⟨check.queries.map (RuleOf.resolve symbols)⟩
  context := b.context

/-- A table that goes on prints a position of the table as the table does. -/
theorem SymbolTable.name_of_prefix {table table' : SymbolTable}
    (hstart : table.names <+: table'.names) {s : UInt64} (h : s.toNat < table.size) :
    table'.name s = table.name s := by
  rw [name, name, resolve?_of_prefix hstart h]

section

variable {symbols symbols' : SymbolTable} (hstart : symbols.names <+: symbols'.names)
include hstart

/-- A table that goes on reads a predicate as the table does, if it points to strings of the table
    only. -/
theorem PredicateOf.resolve_of_prefix {p : Predicate}
    (h : p.Over (fun v => v.toUInt64.toNat < symbols.size) (fun s => s.toNat < symbols.size)
      fun s => s.toNat < symbols.size) : p.resolve symbols' = p.resolve symbols :=
  traverse_congr (fun _ hv => SymbolTable.name_of_prefix hstart hv)
    (fun _ hs => SymbolTable.name_of_prefix hstart hs)
    (fun _ hs => SymbolTable.name_of_prefix hstart hs) h

theorem RuleOf.resolve_of_prefix {r : Rule}
    (h : r.Over (fun v => v.toUInt64.toNat < symbols.size) (fun s => s.toNat < symbols.size)
      (fun s => s.toNat < symbols.size) fun s => s.toNat < symbols.size) :
    r.resolve symbols' = r.resolve symbols :=
  traverse_congr (fun _ hv => SymbolTable.name_of_prefix hstart hv)
    (fun _ hs => SymbolTable.name_of_prefix hstart hs)
    (fun _ hs => SymbolTable.name_of_prefix hstart hs)
    (fun _ hs => SymbolTable.name_of_prefix hstart hs) h

/-- What a block says does not change with strings that come after those that it points to. -/
theorem Block.draft_of_prefix {b : Block} (h : b.PointsInto symbols) :
    b.draft symbols' = b.draft symbols := by
  obtain ⟨hfacts, hrules, hchecks⟩ := Block.over_of_positions h
  have hfacts' : b.facts.map (PredicateOf.resolve symbols') =
      b.facts.map (PredicateOf.resolve symbols) :=
    List.map_congr_left fun fact hfact => PredicateOf.resolve_of_prefix hstart (hfacts fact hfact)
  have hrules' : b.rules.map (RuleOf.resolve symbols') = b.rules.map (RuleOf.resolve symbols) :=
    List.map_congr_left fun rule hrule => RuleOf.resolve_of_prefix hstart (hrules rule hrule)
  have hchecks' : (b.checks.map fun check => (⟨check.queries.map (RuleOf.resolve symbols')⟩ :
        Source.Check)) = b.checks.map fun check => ⟨check.queries.map (RuleOf.resolve symbols)⟩ :=
    List.map_congr_left fun check hcheck => congrArg CheckOf.mk
      (List.map_congr_left fun query hquery =>
        RuleOf.resolve_of_prefix hstart (hchecks check hcheck query hquery))
  rw [draft, draft, hfacts', hrules', hchecks']

end

namespace Token

variable {t t' : Token scheme} {next : PrivateKey} {b : Block}

theorem names_of_append (h : t.append next b = .ok t') :
    t'.symbols.names = t.symbols.names ++ b.symbols.names := by
  obtain ⟨chain, -, h⟩ := bind_eq_ok_iff.1 h
  obtain ⟨symbols, hsymbols, h⟩ := bind_eq_ok_iff.1 h
  cases h
  exact names_of_extendSymbols hsymbols

theorem allBlocks_of_append (h : t.append next b = .ok t') :
    t'.allBlocks = t.allBlocks ++ [b] := by
  obtain ⟨hauthority, hblocks, -⟩ := append_eq_ok h
  rw [allBlocks, allBlocks, hauthority, hblocks, List.cons_append]

end Token

namespace Verifier

theorem token_eq_none_of_addToken {v : Verifier} {t : Token scheme}
    (h : (v.addToken t).2 = .ok ()) : v.token = none := by
  cases htoken : v.token with
  | none => rfl
  | some loaded => simp [addToken, htoken] at h

theorem addToken_eq_ok_iff_pointsInto {v : Verifier} {t : Token scheme} (hnone : v.token = none) :
    (v.addToken t).2 = .ok () ↔ ∀ block ∈ t.allBlocks, block.PointsInto t.symbols :=
  (addToken_eq_ok_iff hnone).trans List.forall_mem_flatMap

/-- A later block gives no meaning to an earlier one that points to strings that the token has
    already. Where a token can be loaded with one more block, it can be loaded without it exactly if
    all its blocks are like that, and these blocks say the same with and without the later one.
    Otherwise a position is reported that only the strings of the later block reach. -/
theorem addToken_of_append {t t' : Token scheme} {next : PrivateKey} {b : Block} {v : Verifier}
    (happend : t.append next b = .ok t') (hload : (v.addToken t').2 = .ok ()) :
    ((v.addToken t).2 = .ok () ↔ ∀ block ∈ t.allBlocks, block.PointsInto t.symbols) ∧
      t'.allBlocks = t.allBlocks ++ [b] ∧
      (∀ block ∈ t.allBlocks, block.PointsInto t.symbols →
        block.draft t'.symbols = block.draft t.symbols) ∧
      ((v.addToken t).2 ≠ .ok () →
        ∃ block ∈ t.allBlocks, ∃ s ∈ block.positions, t.symbols.size ≤ s.toNat ∧
          (∃ name ∈ b.symbols.names, t'.symbols.resolve? s = some name) ∧
            (v.addToken t).2 = .error (.format (.unknownSymbol s))) := by
  have hnone := token_eq_none_of_addToken hload
  have hnames := Token.names_of_append happend
  have hblocks := Token.allBlocks_of_append happend
  have hstart : t.symbols.names <+: t'.symbols.names := ⟨b.symbols.names, hnames.symm⟩
  have hreach (block : Block) (hblock : block ∈ t.allBlocks) : block.PointsInto t'.symbols := by
    refine (addToken_eq_ok_iff_pointsInto hnone).1 hload block ?_
    rw [hblocks]
    exact List.mem_append_left _ hblock
  refine ⟨addToken_eq_ok_iff_pointsInto hnone, hblocks,
    fun _ _ hpoints => Block.draft_of_prefix hstart hpoints, fun hrefused => ?_⟩
  cases hanswer : (v.addToken t).2 with
  | ok => exact absurd hanswer hrefused
  | error e =>
    obtain ⟨before, s, after, hsplit, -, hlacks, rfl⟩ := (addToken_eq_error_iff hnone).1 hanswer
    have hmem : s ∈ t.positions := by
      rw [hsplit]
      exact List.mem_append_right before List.mem_cons_self
    obtain ⟨block, hblock, hs⟩ := List.mem_flatMap.1 hmem
    have hle := SymbolTable.resolve?_eq_none_iff.1 hlacks
    have hlt : s.toNat < t'.symbols.names.length := hreach block hblock s hs
    have hname : t'.symbols.resolve? s = b.symbols.names[s.toNat - t.symbols.size]? := by
      rw [SymbolTable.resolve?, hnames]
      exact List.getElem?_append_right hle
    rw [hnames, List.length_append] at hlt
    have hlater : s.toNat - t.symbols.size < b.symbols.names.length := by
      rw [SymbolTable.size] at hle ⊢
      omega
    refine ⟨block, hblock, s, hs, hle, ⟨_, List.getElem_mem hlater, ?_⟩, rfl⟩
    rw [hname, List.getElem?_eq_getElem hlater]

/-- A block with one fact, whose name is the first string after the standard ones. -/
def pointingBlock (symbols : SymbolTable) : Block where
  symbols := symbols
  facts := [⟨7, []⟩]
  rules := []
  checks := []
  context := none
  version := Block.currentVersion

/-- A block that introduces a string and says nothing. -/
def namingBlock : Block := { pointingBlock (.ofList ["note"]) with facts := [] }

/-- A token with one fact, which introduces the name of the fact or does not. -/
def pointingToken (symbols : SymbolTable) : Token Signature.Ed25519.scheme where
  authority := pointingBlock symbols
  blocks := []
  symbols := SymbolTable.standard.extend symbols
  chain := Chain.create none (pointingBlock symbols).toBytes Chain.sampleRoot Chain.sampleFirst.key

/-- With a block that introduces one more string, the token can be loaded. -/
theorem exists_longer_pointingToken (symbols : SymbolTable)
    (hfresh : (SymbolTable.standard.extend symbols).isDisjoint namingBlock.symbols = true)
    (hpoints : ∀ block ∈ [pointingBlock symbols, namingBlock],
      block.PointsInto ((SymbolTable.standard.extend symbols).extend namingBlock.symbols)) :
    ∃ longer, (pointingToken symbols).append Chain.sampleSecond.key namingBlock = .ok longer ∧
      (empty.addToken longer).2 = .ok () ∧
      longer.symbols = (SymbolTable.standard.extend symbols).extend namingBlock.symbols :=
  ⟨_, Token.append_of_isDisjoint rfl hfresh Chain.sampleSecond.key,
    (addToken_eq_ok_iff_pointsInto rfl).2 hpoints, rfl⟩

theorem pointingToken_addToken_of_append :
    (∃ longer, (pointingToken (.ofList ["file"])).append Chain.sampleSecond.key namingBlock =
        .ok longer ∧
      (empty.addToken longer).2 = .ok () ∧
      (empty.addToken (pointingToken (.ofList ["file"]))).2 = .ok () ∧
      longer.authority.draft longer.symbols =
        (pointingBlock (.ofList ["file"])).draft (SymbolTable.standard.extend (.ofList ["file"]))) ∧
      ∃ longer, (pointingToken .empty).append Chain.sampleSecond.key namingBlock = .ok longer ∧
        (empty.addToken longer).2 = .ok () ∧
        (empty.addToken (pointingToken .empty)).2 = .error (.format (.unknownSymbol 7)) := by
  constructor
  · obtain ⟨longer, happend, hload, -⟩ := exists_longer_pointingToken
      (.ofList ["file"]) (by decide +kernel) (by decide +kernel)
    obtain ⟨hloads, hblocks, hdraft, -⟩ := addToken_of_append happend hload
    have hpoints : ∀ block ∈ (pointingToken (.ofList ["file"])).allBlocks,
        block.PointsInto (pointingToken (.ofList ["file"])).symbols := by
      decide +kernel
    obtain ⟨hauthority, -⟩ := List.cons.inj hblocks
    refine ⟨longer, happend, hload, hloads.2 hpoints, ?_⟩
    rw [hauthority]
    exact hdraft _ List.mem_cons_self (hpoints _ List.mem_cons_self)
  · obtain ⟨longer, happend, hload, -⟩ := exists_longer_pointingToken
      .empty (by decide +kernel) (by decide +kernel)
    obtain ⟨hloads, -, -, hfault⟩ := addToken_of_append happend hload
    have hpoints : ¬∀ block ∈ (pointingToken .empty).allBlocks,
        block.PointsInto (pointingToken .empty).symbols := by
      decide +kernel
    obtain ⟨block, hblock, s, hs, -, -, hanswer⟩ := hfault (mt hloads.1 hpoints)
    obtain rfl := List.mem_singleton.1 hblock
    obtain rfl := List.mem_singleton.1 hs
    exact ⟨longer, happend, hload, hanswer⟩

/-- A token that is read from its bytes can have a fact without a name, which a later block
    introduces. -/
theorem pointingToken_named_by_append :
    let root := Chain.sampleRoot.toPublic Signature.Ed25519.scheme
    let token := pointingToken .empty
    Token.ofBytes token.toBytes (fun _ => some root) .standard = .ok token ∧
      ∃ longer, token.append Chain.sampleSecond.key namingBlock = .ok longer ∧
        empty.token = none ∧ (empty.addToken longer).2 = .ok () ∧
        (empty.addToken token).2 ≠ .ok () ∧
        token.authority.draft longer.symbols ≠ token.authority.draft token.symbols := by
  intro root token
  have hcoherent : Token.Coherent .standard Chain.sampleRoot token := {
    data := rfl
    symbols := by decide +kernel
    verifies := by decide +kernel }
  have hordered : ∀ block ∈ token.allBlocks, ∀ t ∈ block.terms, t.Ordered := by
    intro block hblock t ht
    obtain rfl := List.mem_singleton.1 hblock
    cases ht
  have hmay : ∀ block ∈ token.allBlocks, block.MayBeRead := by
    intro block hblock
    obtain rfl := List.mem_singleton.1 hblock
    exact Block.mayBeRead_iff.2 (by decide)
  have hread : Token.ofBytes token.toBytes (fun _ => some root) .standard = .ok token :=
    (hcoherent.ofBytes_toBytes_eq_ok_iff hordered (by decide +kernel) rfl).2 ⟨hmay, rfl⟩
  obtain ⟨longer, happend, hload, hsymbols⟩ := exists_longer_pointingToken
    .empty (by decide +kernel) (by decide +kernel)
  refine ⟨hread, longer, happend, rfl, hload, ?_, fun hdraft => ?_⟩
  · rw [ne_eq, addToken_eq_ok_iff_pointsInto rfl]
    decide +kernel
  · have hfacts := congrArg BlockDraft.facts hdraft
    rw [hsymbols] at hfacts
    revert hfacts
    decide +kernel

end Verifier

end Warrant
