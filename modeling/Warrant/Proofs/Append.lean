import Warrant.Proofs.Renumbering

namespace Warrant

variable {scheme : Scheme}

/-- Whether the symbols of a block stand for strings, and no predicate of its rules or checks is
    named as revocation facts are. -/
def Block.Plain (symbols : SymbolTable) (b : Block) : Prop :=
  b.Over (fun v => symbols.ResolvesTo (fun _ => True) v.toUInt64)
    (symbols.ResolvesTo fun _ => True) (symbols.ResolvesTo (· ≠ "revocation_id"))

instance (symbols : SymbolTable) (b : Block) : Decidable (b.Plain symbols) :=
  inferInstanceAs (Decidable (b.Over _ _ _))

namespace Token

/-- Whether the blocks of a token are plain in its symbols. -/
def Plain (token : Token scheme) : Prop := ∀ block ∈ token.allBlocks, block.Plain token.symbols

instance (token : Token scheme) : Decidable token.Plain :=
  inferInstanceAs (Decidable (∀ block ∈ token.allBlocks, block.Plain token.symbols))

/-- A token that has got one more block is as before in all else. -/
theorem append_eq_ok {token token' : Token scheme} {next : PrivateKey} {block : Block}
    (h : token.append next block = .ok token') :
    token'.authority = token.authority ∧ token'.blocks = token.blocks ++ [block] ∧
      token.symbols.names <+: token'.symbols.names ∧
      ∃ id, token'.revocationIds = token.revocationIds ++ [id] := by
  rw [append] at h
  cases hsigner : token.chain.signer with
  | error e =>
    simp [Chain.append, hsigner, Except.mapError, bind, Except.bind] at h
  | ok signer =>
    cases hsymbols : extendSymbols token.symbols block with
    | error e =>
      simp [Chain.append, hsigner, hsymbols, Except.mapError, bind, Except.bind, pure,
        Except.pure] at h
    | ok symbols =>
      simp only [Chain.append, hsigner, hsymbols, Except.mapError, bind, Except.bind, pure,
        Except.pure, Except.ok.injEq] at h
      subst h
      let last : SignedBlock scheme := SignedBlock.create block.toBytes signer next
      refine ⟨rfl, rfl, ?_, last.signature.bytes, ?_⟩
      case refine_2 =>
        rw [revocationIds, revocationIds, Chain.blocks, Chain.blocks, ← List.cons_append,
          List.map_append, List.map_singleton]
      rw [extendSymbols] at hsymbols
      split at hsymbols
      · cases hsymbols
        exact token.symbols.prefix_extend block.symbols
      · cases hsymbols

end Token

namespace Renumbering

/-- A plain block is renumbered alike from all tables that go on with more symbols. -/
theorem block_eq_of_prefix {source source' : SymbolTable} {b : Block} (h : b.Plain source)
    (hstart : source.names <+: source'.names) : block source b = block source' b := by
  have hresolve {strings : String → Prop} {s : UInt64} (hs : source.ResolvesTo strings s) :
      symbol source s = symbol source' s := by
    obtain ⟨name, hname, _⟩ := hs
    have hname' : source'.resolve? s = some name := SymbolTable.getElem?_of_prefix hstart hname
    rw [symbol, symbol, hname, hname']
  have hvariable (v : UInt32) (hv : source.ResolvesTo (fun _ => True) v.toUInt64) :
      variableName source v = variableName source' v := by
    rw [variableName, variableName, hresolve hv]
  have hfacts : (b.facts.mapM fun f => f.traverse (variableName source) (symbol source)) =
      b.facts.mapM fun f => f.traverse (variableName source') (symbol source') :=
    mapM_congr_of_mem fun fact hfact => PredicateOf.traverse_congr hvariable
      (fun _ hs => hresolve hs) (fun _ hs => hresolve hs) (h.facts fact hfact)
  have hrules : (b.rules.mapM fun r => r.traverse (variableName source) (symbol source)) =
      b.rules.mapM fun r => r.traverse (variableName source') (symbol source') :=
    mapM_congr_of_mem fun rule hrule => RuleOf.traverse_congr hvariable
      (fun _ hs => hresolve hs) (fun _ hs => hresolve hs) (fun _ hs => hresolve hs)
      (h.rules rule hrule)
  have hchecks : (b.checks.mapM fun c => c.traverse (variableName source) (symbol source)) =
      b.checks.mapM fun c => c.traverse (variableName source') (symbol source') := by
    refine mapM_congr_of_mem fun check hcheck => ?_
    rw [CheckOf.traverse, CheckOf.traverse, mapM_congr_of_mem fun query hquery =>
      RuleOf.traverse_congr hvariable (fun _ hs => hresolve hs) (fun _ hs => hresolve hs)
        (fun _ hs => hresolve hs) (h.checks check hcheck query hquery)]
  rw [block, block, hfacts, hrules, hchecks]

/-- Where a token with one more block can be loaded, it can be loaded without it, with the same
    content up to there. Later symbols come only from the last block. -/
theorem token_of_append {t t' : Token scheme} {next : PrivateKey} {b : Block} (hplain : t.Plain)
    (happend : t.append next b = .ok t') {table table' : SymbolTable} {loaded' : LoadedToken}
    (h : execute (token t') table = (.ok loaded', table')) :
    ∃ (loaded : LoadedToken) (middle : SymbolTable),
      execute (token t) table = (.ok loaded, middle) ∧
      loaded'.authority = loaded.authority ∧
      (∃ last, loaded'.blocks = loaded.blocks ++ [last]) ∧
      (∃ id, loaded'.revocationIds = loaded.revocationIds ++ [id]) ∧
      table.names <+: middle.names ∧ middle.names <+: table'.names ∧
      table'.names ⊆ table.names ++ t'.symbols.names ∧
      ∀ block ∈ loaded.authority :: loaded.blocks, block.Over (fun _ => True)
        (middle.Has fun _ => True) (middle.Has (· ≠ "revocation_id")) := by
  obtain ⟨hauthority, hblocks, hstart, id, hids⟩ := Token.append_eq_ok happend
  have hsame (block : Block) (hblock : block ∈ t.allBlocks) :
      Renumbering.block t.symbols block = Renumbering.block t'.symbols block :=
    block_eq_of_prefix (hplain block hblock) hstart
  have hmapM : t'.blocks.mapM (Renumbering.block t'.symbols) = do
      let blocks ← t.blocks.mapM (Renumbering.block t.symbols)
      let last ← Renumbering.block t'.symbols b
      return blocks ++ [last] := by
    rw [hblocks, List.mapM_append, ← mapM_congr_of_mem fun block hblock =>
      hsame block (List.mem_cons_of_mem _ hblock)]
    simp
  have hkeeps (block : Block) (hblock : block ∈ t.allBlocks) :
      Keeps t.symbols (Renumbering.block t.symbols block) fun table block =>
        block.Over (fun _ => True) (table.Has fun _ => True) (table.Has (· ≠ "revocation_id")) := by
    refine keeps_block (hplain block hblock) ?_
    rintro s ⟨name, hname, hapart⟩ name' hname'
    rw [hname, Option.some.injEq] at hname'
    exact hname' ▸ hapart
  rw [token, hauthority, hmapM, ← hsame t.authority List.mem_cons_self] at h
  obtain ⟨authority, first, hfirst, h⟩ := exists_of_execute_bind h
  obtain ⟨blocks', last', hrest, h⟩ := exists_of_execute_bind h
  obtain ⟨blocks, middle, hmiddle, hrest⟩ := exists_of_execute_bind hrest
  obtain ⟨last, last'', hlast, hrest⟩ := exists_of_execute_bind hrest
  cases h
  cases hrest
  obtain ⟨hfirstStart, hfirstSubset, hfirstOver⟩ :=
    (hkeeps t.authority List.mem_cons_self).of_execute hfirst
  obtain ⟨hmiddleStart, hmiddleSubset, hmiddleOver⟩ := (Keeps.mapM lasting_blockOver
    fun block hblock => hkeeps block (List.mem_cons_of_mem _ hblock)).of_execute hmiddle
  obtain ⟨hlastStart, hlastSubset, _⟩ :=
    (keeps_block b.over_true fun _ _ _ _ => trivial).of_execute hlast
  refine ⟨⟨authority, blocks, t.revocationIds⟩, middle, ?_, rfl, ⟨last, rfl⟩, ⟨id, hids⟩,
    hfirstStart.trans hmiddleStart, hlastStart, ?_, ?_⟩
  · rw [token, execute_bind_ok hfirst, execute_bind_ok hmiddle]
    rfl
  · have hsymbols : t.symbols.names ⊆ t'.symbols.names := hstart.subset
    intro name hname
    rcases List.mem_append.1 (hlastSubset hname) with hname | hname
    · rcases List.mem_append.1 (hmiddleSubset hname) with hname | hname
      · rcases List.mem_append.1 (hfirstSubset hname) with hname | hname
        · exact List.mem_append_left _ hname
        · exact List.mem_append_right _ (hsymbols hname)
      · exact List.mem_append_right _ (hsymbols hname)
    · exact List.mem_append_right _ hname
  · intro block hblock
    rcases List.mem_cons.1 hblock with rfl | hblock
    · exact lasting_blockOver first middle block hmiddleStart hfirstOver
    · exact hmiddleOver block hblock

end Renumbering

end Warrant
