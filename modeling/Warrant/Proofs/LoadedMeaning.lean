import Warrant.Proofs.Operations
import Warrant.Proofs.Saving
import Warrant.Proofs.Translation

namespace Warrant

variable {scheme : Scheme}

/-- Whether a loaded token says in a table what the token says in its own: the blocks are translated
    element by element, and so are the sets and the values of expressions. -/
structure LoadedToken.Translates (t : Token scheme) (final : SymbolTable) (loaded : LoadedToken) :
    Prop where
  shared : ∀ s ∈ t.positions, t.symbols.Shared final s
  blocks : loaded.authority :: loaded.blocks = t.allBlocks.map (Block.translated t.symbols final)
  revocationIds : loaded.revocationIds = t.revocationIds
  drafts : (loaded.authority :: loaded.blocks).map (Block.draft final) =
    t.allBlocks.map (Block.draft t.symbols)
  sets : ∀ elements, ∃ others, TermOf.translated t.symbols final (.set elements) = .set others ∧
    ∀ u, u ∈ others ↔ ∃ e ∈ elements, TermOf.translated t.symbols final e = u
  values : ∀ (bindings : Bindings) (e : Expression),
    (∀ binding ∈ bindings, t.symbols.Shared final binding.1.toUInt64 ∧
      (∀ s ∈ binding.2.positions, t.symbols.Shared final s) ∧ binding.2.Ordered) →
    (∀ op ∈ e, (∀ s ∈ op.positions, t.symbols.Shared final s) ∧ ∀ u ∈ op.term?, u.Ordered) →
    freshValue? final (bindings.translated t.symbols final)
        (Expression.translated t.symbols final e) =
      (freshValue? t.symbols bindings e).map (TermOf.translated t.symbols final)

theorem Renumbering.translates_of_execute {t : Token scheme} {table table' : SymbolTable}
    {loaded : LoadedToken} (h : execute (token t) table = (.ok loaded, table'))
    {final : SymbolTable} (hstart : table'.names <+: final.names)
    (hsize : final.size < UInt32.size) : loaded.Translates t final := by
  obtain ⟨names, hinterns⟩ := exists_interns_token t
  obtain ⟨-, -, hmade⟩ := hinterns table loaded table' h
  have hshared (s : UInt64) (hs : s ∈ t.positions) : t.symbols.Shared final s :=
    SymbolTable.Shared.of_prefix ((reports_token t).shared table loaded table' h s hs) hstart
  have hblocks : loaded.authority :: loaded.blocks =
      t.allBlocks.map (Block.translated t.symbols final) := by
    rw [hmade final hstart, placed, LoadedToken.numbered, Token.allBlocks, List.map_map]
    rfl
  refine ⟨hshared, hblocks, ?_, ?_, TermOf.exists_translated_set, ?_⟩
  · rw [hmade final hstart]
    rfl
  · rw [hblocks, List.map_map]
    refine List.map_congr_left fun b hb => Block.draft_translated hsize ?_
    exact Block.over_of_positions fun s hs => hshared s (List.mem_flatMap.2 ⟨b, hb, hs⟩)
  · intro bindings e hbindings he
    refine freshValue?_translated hsize (fun binding hbinding => ?_) fun op hop => ?_
    · obtain ⟨hvariable, hpositions, hordered⟩ := hbindings binding hbinding
      exact ⟨hvariable, binding.2.over_of_positions hpositions, hordered⟩
    · obtain ⟨hpositions, hordered⟩ := he op hop
      refine ⟨?_, hordered⟩
      cases op with
      | value u => exact u.over_of_positions hpositions
      | unary _ => trivial
      | binary _ => trivial

namespace Verifier

/-- Whether everything in a verifier that points to strings of the verifier says the same in another
    table. -/
structure KeepsMeaning (v : Verifier) (final : SymbolTable) : Prop where
  facts : ∀ fact ∈ v.world.facts, (∀ s ∈ fact.positions, s.toNat < v.symbols.size) →
    fact.resolve final = fact.resolve v.symbols
  rules : ∀ rule ∈ v.world.rules ++ v.rules ++
      (v.checks.flatMap CheckOf.queries ++ v.policies.flatMap PolicyOf.queries),
    (∀ s ∈ rule.positions, s.toNat < v.symbols.size) →
      rule.resolve final = rule.resolve v.symbols

theorem keepsMeaning_of_prefix {v : Verifier} {final : SymbolTable}
    (hstart : v.symbols.names <+: final.names) : v.KeepsMeaning final := by
  have hname (s : UInt64) (hs : s.toNat < v.symbols.size) : final.name s = v.symbols.name s :=
    SymbolTable.name_of_prefix hstart hs
  have hvariable (name : UInt32) (hs : name.toUInt64.toNat < v.symbols.size) :
      final.name name.toUInt64 = v.symbols.name name.toUInt64 := hname _ hs
  constructor
  · intro fact _ hpositions
    exact PredicateOf.traverse_congr hvariable hname hname
      (PredicateOf.over_of_positions hpositions)
  · intro rule _ hpositions
    exact RuleOf.traverse_congr hvariable hname hname hname (RuleOf.over_of_positions hpositions)

/-- A token is added exactly if its blocks point to its own strings. It then says in the verifier
    what it said in its own symbols, and what the verifier held says the same as before, as far as
    it pointed to strings of the verifier. A token that is refused leaves nothing but symbols at the
    end. -/
theorem addToken_translates {v : Verifier} {t : Token scheme} (hnone : v.token = none) :
    ((v.addToken t).2 = .ok () ↔ ∀ s ∈ t.positions, ∃ name, t.symbols.resolve? s = some name) ∧
    v.symbols.names <+: (v.addToken t).1.symbols.names ∧
    ((v.addToken t).2 = .ok () → ∃ loaded,
      (v.addToken t).1 =
        { v with symbols := (v.addToken t).1.symbols, token := some loaded } ∧
      ∀ final : SymbolTable, (v.addToken t).1.symbols.names <+: final.names →
        final.size < UInt32.size → loaded.Translates t final ∧ v.KeepsMeaning final) ∧
    ((v.addToken t).2 ≠ .ok () →
      (v.addToken t).1 = { v with symbols := (v.addToken t).1.symbols }) := by
  have hok : (v.addToken t).2 = .ok () ↔
      ∀ s ∈ t.positions, ∃ name, t.symbols.resolve? s = some name := by
    rw [addToken_eq_ok_iff hnone]
    refine forall₂_congr fun s _ => ?_
    rw [← Option.ne_none_iff_exists', ne_eq, SymbolTable.resolve?_eq_none_iff, Nat.not_le]
  have hstart := (Renumbering.reports_token t).start v.symbols
  rcases hrun : execute (Renumbering.token t) v.symbols with ⟨_ | loaded, symbols⟩
  case error e =>
    rw [hrun] at hstart
    refine ⟨hok, ?_⟩
    rw [addToken_of_execute_error hnone hrun]
    exact ⟨hstart, nofun, fun _ => rfl⟩
  case ok =>
    rw [hrun] at hstart
    refine ⟨hok, ?_⟩
    rw [addToken_of_execute hnone hrun]
    refine ⟨hstart, fun _ => ⟨loaded, rfl, fun final hmore hsize => ⟨?_, ?_⟩⟩, absurd rfl⟩
    · exact Renumbering.translates_of_execute hrun hmore hsize
    · exact keepsMeaning_of_prefix (hstart.trans hmore)

/-- Whether a file is one of two. -/
def choice : Expression := [.value (.set [.str 8, .str 10]), .value (.var 9), .binary .contains]

/-- A token with a file, and a check that it is one of two. -/
def choosingToken : Token Signature.Ed25519.scheme :=
  let authority : Block :=
    { symbols := .ofList ["file", "notes", "f", "letter"]
      facts := [⟨7, [.str 8]⟩]
      rules := []
      checks := [⟨[⟨⟨7, []⟩, [⟨7, [.var 9]⟩], [choice]⟩]⟩]
      context := none
      version := Block.currentVersion }
  { authority := authority
    blocks := []
    symbols := .ofList (SymbolTable.standard.names ++ ["file", "notes", "f", "letter"])
    chain := Chain.create none authority.toBytes Chain.sampleRoot Chain.sampleFirst.key }

/-- A verifier that has the second of the two files before the first. -/
def letterVerifier : Verifier :=
  { empty with symbols := .ofList (SymbolTable.standard.names ++ ["letter"]) }

theorem letterVerifier_addToken_translates :
    (letterVerifier.addToken choosingToken).2 = .ok () ∧
      freshValue? choosingToken.symbols [(9, .str 8)] choice = some (.bool true) ∧
      freshValue? (letterVerifier.addToken choosingToken).1.symbols [(10, .str 9)]
        [.value (.set [.str 7, .str 9]), .value (.var 10), .binary .contains] =
          some (.bool true) := by
  obtain ⟨-, -, hloads, -⟩ := addToken_translates (v := letterVerifier) (t := choosingToken) rfl
  have hok : (letterVerifier.addToken choosingToken).2 = .ok () := rfl
  obtain ⟨loaded, -, hfinal⟩ := hloads hok
  obtain ⟨htranslates, -⟩ := hfinal _ List.prefix_rfl (by decide +kernel)
  have hbound : ∀ binding ∈ [((9 : UInt32), (TermOf.str 8 : Term))],
      choosingToken.symbols.Shared _ binding.1.toUInt64 ∧
        (∀ s ∈ binding.2.positions, choosingToken.symbols.Shared _ s) ∧ binding.2.Ordered :=
    List.forall_mem_singleton.2 ⟨htranslates.shared 9 (by decide +kernel),
      List.forall_mem_singleton.2 (htranslates.shared 8 (by decide +kernel)), trivial⟩
  have hall : (choice.flatMap OpOf.positions).all choosingToken.positions.contains := by
    decide +kernel
  have hpoints (op) (hop : op ∈ choice) (s) (hs : s ∈ op.positions) :
      s ∈ choosingToken.positions :=
    List.contains_iff_mem.1 (List.all_eq_true.1 hall s (List.mem_flatMap.2 ⟨op, hop, hs⟩))
  have hordered : ∀ op ∈ choice, ∀ u ∈ op.term?, u.Ordered := by
    simp [choice, OpOf.term?, TermOf.Ordered, TermOf.AllOrdered]
    decide
  have hvalue := htranslates.values _ choice hbound fun op hop =>
    ⟨fun s hs => htranslates.shared s (hpoints op hop s hs), hordered op hop⟩
  have hbefore : freshValue? choosingToken.symbols [(9, .str 8)] choice = some (.bool true) := by
    decide +kernel
  have hbindings : Bindings.translated choosingToken.symbols
      (letterVerifier.addToken choosingToken).1.symbols [(9, .str 8)] = [(10, .str 9)] := by
    decide +kernel
  have hchoice : Expression.translated choosingToken.symbols
        (letterVerifier.addToken choosingToken).1.symbols choice =
      [.value (.set [.str 7, .str 9]), .value (.var 10), .binary .contains] := by
    decide +kernel
  rw [hbindings, hchoice, hbefore] at hvalue
  exact ⟨hok, hbefore, hvalue⟩

/-- A verifier with a fact that it has no name for. -/
def danglingVerifier : Verifier :=
  { empty with world := ⟨.ofList [⟨1, []⟩], []⟩, symbols := .ofList ["ready"] }

/-- A verifier that is read from its bytes can have a fact without a name, to which a token gives
    one. -/
theorem danglingVerifier_named_by_addToken :
    let token := choosingToken
    let added := danglingVerifier.addToken token
    Token.create none Chain.sampleRoot Chain.sampleFirst.key .standard token.authority = .ok token ∧
      ofBytes danglingVerifier.save = .ok danglingVerifier ∧ danglingVerifier.token = none ∧
      added.2 = .ok () ∧ added.1.symbols.size < UInt32.size ∧
      ∃ fact ∈ danglingVerifier.world.facts,
        fact.resolve added.1.symbols ≠ fact.resolve danglingVerifier.symbols := by
  have hsymbols : Token.extendSymbols .standard choosingToken.authority =
      .ok choosingToken.symbols := by
    rw [Token.extendSymbols, if_pos (by decide +kernel)]
    exact congrArg Except.ok (by decide +kernel)
  have hnames : danglingVerifier.saved.symbols.names = ["ready"] := by decide +kernel
  have hlength : danglingVerifier.saved.toBytes.length < Wire.maxLength := by
    rw [SavedVerifier.toBytes, Wire.encodeSaved, hnames]
    decide +kernel
  have hterms (t : Term) : t ∉ danglingVerifier.saved.terms := List.not_mem_nil
  have hread : SavedVerifier.ofBytes danglingVerifier.saved.toBytes = .ok danglingVerifier.saved :=
    SavedVerifier.ofBytes_toBytes (fun t ht => absurd ht (hterms t)) (by decide +kernel)
      (fun t ht => absurd ht (hterms t)) hlength
  refine ⟨bind_eq_ok_iff.2 ⟨_, hsymbols, rfl⟩, bind_eq_ok_iff.2 ⟨_, hread, rfl⟩, rfl, rfl,
    by decide +kernel, ⟨1, []⟩, ?_, ?_⟩
  · exact List.mem_singleton_self _
  · decide +kernel

end Verifier

end Warrant
