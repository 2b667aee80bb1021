import Mathlib.Data.Finset.Card
import Warrant.Proofs.Interning
import Warrant.Proofs.Meaning
import Warrant.Proofs.Restating

namespace Warrant

namespace TermOf

mutual

/-- The names and strings in a term, from left to right. -/
def strings : Source.Term → List String
  | .var v => [v]
  | .str s => [s]
  | .set elements => stringsOfAll elements
  | _ => []

def stringsOfAll : List Source.Term → List String
  | [] => []
  | t :: ts => strings t ++ stringsOfAll ts

end

theorem stringsOfAll_eq_flatMap (ts : List Source.Term) : stringsOfAll ts = ts.flatMap strings := by
  induction ts with
  | nil => rfl
  | cons t ts ih => rw [stringsOfAll, ih, List.flatMap_cons]

end TermOf

/-- The names and strings in a predicate, of which its own name is the first. -/
def PredicateOf.strings (p : Source.Predicate) : List String :=
  p.name :: p.terms.flatMap TermOf.strings

def OpOf.strings : Source.Op → List String
  | .value t => t.strings
  | _ => []

def RuleOf.strings (r : Source.Rule) : List String :=
  r.head.strings ++ (r.body.flatMap PredicateOf.strings ++
    r.expressions.flatMap fun e => e.flatMap OpOf.strings)

def CheckOf.strings (c : Source.Check) : List String := c.queries.flatMap RuleOf.strings

namespace BlockDraft

/-- The names and strings that a draft uses, from the first fact to the last check. -/
def strings (draft : BlockDraft) : List String :=
  draft.facts.flatMap PredicateOf.strings ++ (draft.rules.flatMap RuleOf.strings ++
    draft.checks.flatMap CheckOf.strings)

/-- The terms that a draft contains, each as a whole. -/
def terms (draft : BlockDraft) : List Source.Term :=
  draft.facts.flatMap PredicateOf.terms ++
    (draft.rules ++ draft.checks.flatMap CheckOf.queries).flatMap RuleOf.terms

/-- The facts, rules and checks of a draft with their strings replaced by positions. -/
def intern (draft : BlockDraft) : StateM SymbolTable (List Fact × List Rule × List Check) := do
  let facts ← draft.facts.mapM PredicateOf.intern
  let rules ← draft.rules.mapM RuleOf.intern
  let checks ← draft.checks.mapM CheckOf.intern
  return (facts, rules, checks)

theorem build_eq (draft : BlockDraft) (symbols : SymbolTable) : draft.build symbols =
    { symbols := (draft.intern.run symbols).2.drop symbols.size
      facts := (draft.intern.run symbols).1.1
      rules := (draft.intern.run symbols).1.2.1
      checks := (draft.intern.run symbols).1.2.2
      context := draft.context
      version := Block.currentVersion } := rfl

end BlockDraft

namespace SymbolTable

/-- Strings that are inserted come after those that there are, each where it is first inserted. -/
theorem names_foldl_insert_eq (table : SymbolTable) (names : List String) :
    (names.foldl insert table).names =
      table.names ++ (names.filter (· ∉ table.names)).eraseDups := by
  induction names generalizing table with
  | nil => exact (List.append_nil _).symm
  | cons name names ih =>
    rw [List.foldl_cons, ih]
    by_cases hname : name ∈ table.names
    · rw [insert_of_mem hname, List.filter_cons_of_neg (by simpa using hname)]
    · have hfilter : (names.filter (· ∉ table.names)).filter (fun other => !other == name) =
          names.filter (· ∉ (table.insert name).names) := by
        rw [List.filter_filter]
        refine List.filter_congr fun other _ => ?_
        rw [Bool.eq_iff_iff]
        simp [names_insert_of_not_mem hname, and_comm]
      rw [List.filter_cons_of_pos (by simpa using hname), List.eraseDups_cons, hfilter,
        names_insert_of_not_mem hname, List.append_assoc, List.singleton_append]

end SymbolTable

variable {α β : Type}

/-- Whether a computation inserts some strings in order, and no others. -/
def Introduces (x : StateM SymbolTable α) (names : List String) : Prop :=
  ∀ table, (x.run table).2 = names.foldl SymbolTable.insert table

theorem introduces_pure (a : α) : Introduces (pure a) [] := fun _ => rfl

theorem Introduces.bind {x : StateM SymbolTable α} {f : α → StateM SymbolTable β}
    {names names' : List String} (hx : Introduces x names) (hf : ∀ a, Introduces (f a) names') :
    Introduces (x >>= f) (names ++ names') := by
  intro table
  rw [List.foldl_append, ← hx table]
  exact hf _ _

theorem Introduces.map {x : StateM SymbolTable α} {names : List String} (hx : Introduces x names)
    (f : α → β) : Introduces (x >>= fun a => pure (f a)) names := by
  have hbind := hx.bind fun a => introduces_pure (f a)
  rwa [List.append_nil] at hbind

theorem introduces_mapM {f : α → StateM SymbolTable β} {names : α → List String} {xs : List α}
    (h : ∀ x ∈ xs, Introduces (f x) (names x)) : Introduces (xs.mapM f) (xs.flatMap names) := by
  induction xs with
  | nil => exact introduces_pure []
  | cons x xs ih =>
    obtain ⟨hx, hxs⟩ := List.forall_mem_cons.1 h
    rw [List.mapM_cons, List.flatMap_cons]
    exact hx.bind fun y => (ih hxs).map _

theorem Introduces.mem_names_run {x : StateM SymbolTable α} {names : List String}
    (hx : Introduces x names) {name : String} (h : name ∈ names) (table : SymbolTable) :
    name ∈ (x.run table).2.names := by
  rw [hx, SymbolTable.names_foldl_insert_eq, List.mem_append, List.mem_eraseDups, List.mem_filter,
    decide_eq_true_iff]
  tauto

/-- A table that has all strings already is left as it is. -/
theorem Introduces.snd_run_eq_self {x : StateM SymbolTable α} {names : List String}
    (hx : Introduces x names) {table : SymbolTable} (h : ∀ name ∈ names, name ∈ table.names) :
    (x.run table).2 = table := by
  have hnone : names.filter (· ∉ table.names) = [] :=
    List.filter_eq_nil_iff.2 fun name hname => by simpa using h name hname
  apply SymbolTable.ext_names
  rw [hx, SymbolTable.names_foldl_insert_eq, hnone]
  exact List.append_nil _

/-! What is interned introduces its strings. -/

theorem SymbolTable.introduces_intern (name : String) : Introduces (intern name) [name] :=
  fun table => snd_run_intern table name

theorem SymbolTable.introduces_internVariable (name : String) :
    Introduces (internVariable name) [name] :=
  (introduces_intern name).map UInt64.toUInt32

theorem TermOf.introduces_intern (t : Source.Term) : Introduces (TermOf.intern t) t.strings := by
  induction t using TermOf.induction with
  | var v => exact (SymbolTable.introduces_internVariable v).map var
  | str s => exact (SymbolTable.introduces_intern s).map str
  | set elements ih =>
    rw [intern, traverse, traverseList_intern, strings, stringsOfAll_eq_flatMap]
    exact (introduces_mapM ih).map ofElements
  | _ => exact introduces_pure _

theorem PredicateOf.introduces_intern (p : Source.Predicate) :
    Introduces (PredicateOf.intern p) p.strings :=
  (SymbolTable.introduces_intern p.name).bind fun name =>
    (introduces_mapM fun t _ => TermOf.introduces_intern t).map (PredicateOf.mk name)

theorem OpOf.introduces_intern (op : Source.Op) : Introduces (OpOf.intern op) op.strings := by
  cases op with
  | value t => exact (TermOf.introduces_intern t).map OpOf.value
  | unary which => exact introduces_pure _
  | binary which => exact introduces_pure _

theorem RuleOf.introduces_intern (r : Source.Rule) : Introduces (RuleOf.intern r) r.strings :=
  (PredicateOf.introduces_intern r.head).bind fun head =>
    (introduces_mapM fun p _ => PredicateOf.introduces_intern p).bind fun body =>
      (introduces_mapM fun _ _ => introduces_mapM fun op _ => OpOf.introduces_intern op).map
        (RuleOf.mk head body)

theorem CheckOf.introduces_intern (c : Source.Check) : Introduces (CheckOf.intern c) c.strings :=
  (introduces_mapM fun query _ => RuleOf.introduces_intern query).map CheckOf.mk

theorem BlockDraft.introduces_intern (draft : BlockDraft) :
    Introduces draft.intern draft.strings :=
  (introduces_mapM fun fact _ => PredicateOf.introduces_intern fact).bind fun facts =>
    (introduces_mapM fun rule _ => RuleOf.introduces_intern rule).bind fun rules =>
      (introduces_mapM fun check _ => CheckOf.introduces_intern check).map fun checks =>
        (facts, rules, checks)

/-! What is numbered points to the positions of its strings. -/

section

variable {f : String → UInt32} {g : String → UInt64} {inside : UInt64 → Prop}

/-- Whether strings are numbered inside of some positions, as names of variables also. -/
def NumberedInside (f : String → UInt32) (g : String → UInt64) (inside : UInt64 → Prop)
    (names : List String) : Prop :=
  ∀ name ∈ names, inside (f name).toUInt64 ∧ inside (g name)

theorem TermOf.mem_positionsOfAll {s : UInt64} {ts : List Term} :
    s ∈ positionsOfAll ts ↔ ∃ t ∈ ts, s ∈ t.positions := by
  induction ts with
  | nil => simp [positionsOfAll]
  | cons t ts ih => simp [positionsOfAll, ih]

theorem TermOf.inside_of_numbered {t : Source.Term} (h : NumberedInside f g inside t.strings) :
    ∀ s ∈ (t.numbered f g).positions, inside s := by
  induction t using TermOf.induction with
  | var v =>
    intro s hs
    obtain rfl := List.mem_singleton.1 hs
    exact (h v List.mem_cons_self).1
  | str name =>
    intro s hs
    obtain rfl := List.mem_singleton.1 hs
    exact (h name List.mem_cons_self).2
  | set elements ih =>
    intro s hs
    rw [numbered_set, ofElements, positions, mem_positionsOfAll] at hs
    obtain ⟨t, ht, hs⟩ := hs
    obtain ⟨e, he, rfl⟩ := List.mem_map.1 (SortedList.mem_ofList.1 ht)
    refine ih e he (fun name hname => h name ?_) s hs
    rw [strings, stringsOfAll_eq_flatMap]
    exact List.mem_flatMap.2 ⟨e, he, hname⟩
  | _ =>
    intro s hs
    cases hs

theorem PredicateOf.inside_of_numbered {p : Source.Predicate}
    (h : NumberedInside f g inside p.strings) : ∀ s ∈ (p.numbered f g).positions, inside s := by
  obtain ⟨hname, hterms⟩ := List.forall_mem_cons.1 h
  rw [numbered, positions, List.forall_mem_cons, List.forall_mem_flatMap, List.forall_mem_map]
  exact ⟨hname.2, fun t ht => TermOf.inside_of_numbered (List.forall_mem_flatMap.1 hterms t ht)⟩

theorem OpOf.inside_of_numbered {op : Source.Op} (h : NumberedInside f g inside op.strings) :
    ∀ s ∈ (op.numbered f g).positions, inside s := by
  cases op with
  | value t => exact TermOf.inside_of_numbered h
  | unary which | binary which =>
    intro s hs
    cases hs

theorem RuleOf.inside_of_numbered {r : Source.Rule} (h : NumberedInside f g inside r.strings) :
    ∀ s ∈ (r.numbered f g).positions, inside s := by
  rw [NumberedInside, strings, List.forall_mem_append, List.forall_mem_append,
    List.forall_mem_flatMap, List.forall_mem_flatMap] at h
  obtain ⟨hhead, hbody, hexpressions⟩ := h
  rw [numbered, positions, List.forall_mem_append, List.forall_mem_append,
    List.forall_mem_flatMap, List.forall_mem_map, List.forall_mem_flatMap, List.forall_mem_map]
  refine ⟨PredicateOf.inside_of_numbered hhead,
    fun p hp => PredicateOf.inside_of_numbered (hbody p hp), fun e he => ?_⟩
  rw [List.forall_mem_flatMap, List.forall_mem_map]
  exact fun op hop =>
    OpOf.inside_of_numbered (List.forall_mem_flatMap.1 (hexpressions e he) op hop)

theorem CheckOf.inside_of_numbered {c : Source.Check} (h : NumberedInside f g inside c.strings) :
    ∀ s ∈ (c.numbered f g).positions, inside s := by
  rw [numbered, positions, List.forall_mem_flatMap, List.forall_mem_map]
  exact fun query hquery =>
    RuleOf.inside_of_numbered (List.forall_mem_flatMap.1 h query hquery)

end

/-- Strings of a table are numbered inside of it by their positions, where these have 32 bits. -/
theorem numberedInside_of_mem {table : SymbolTable} (hsize : table.size ≤ UInt32.size)
    {names : List String} (h : ∀ name ∈ names, name ∈ table.names) :
    NumberedInside table.variablePosition table.position (fun s => s.toNat < table.size)
      names := by
  intro name hname
  have hlt := SymbolTable.position_lt (hsize.trans (by decide)) (h name hname)
  refine ⟨?_, hlt⟩
  rw [SymbolTable.variablePosition, SymbolTable.toUInt64_toUInt32 (hlt.trans_le hsize)]
  exact hlt

/-! What is numbered by the positions of its strings reads back as it was. Only the positions of
    variables would have to have 32 bits. -/

section

variable {table : SymbolTable} (hsize : table.size ≤ UInt64.size)
include hsize

theorem SymbolTable.name_position {name : String} (hname : name ∈ table.names) :
    table.name (table.position name) = name :=
  name_of_resolve? (resolve?_of_find? hsize (find?_eq_position hname))

theorem TermOf.resolve_numbered {t : Source.Term} (hground : t.isGround = true)
    (hordered : t.Ordered) (hstrings : ∀ name ∈ t.strings, name ∈ table.names) :
    (t.numbered table.variablePosition table.position).resolve table = t := by
  induction t using TermOf.induction with
  | var v => cases hground
  | str s =>
    have hname := SymbolTable.name_position hsize (hstrings s List.mem_cons_self)
    exact congrArg TermOf.str hname
  | set elements ih =>
    rw [isGround, areGround_iff] at hground
    rw [strings, stringsOfAll_eq_flatMap, List.forall_mem_flatMap] at hstrings
    have helements : (elements.map (numbered table.variablePosition table.position)).map
        (TermOf.resolve table) = elements := by
      rw [List.map_map, map_eq_self_iff]
      exact fun e he => ih e he (hground e he) (allOrdered_iff.1 hordered.2 e he) (hstrings e he)
    rw [numbered_set, resolve_ofElements, helements, ofElements_of_ordered hordered]
  | _ => rfl

theorem PredicateOf.resolve_numbered {p : Source.Predicate}
    (hterms : ∀ t ∈ p.terms, t.isGround = true ∧ t.Ordered)
    (hstrings : ∀ name ∈ p.strings, name ∈ table.names) :
    (p.numbered table.variablePosition table.position).resolve table = p := by
  rw [strings, List.forall_mem_cons, List.forall_mem_flatMap] at hstrings
  obtain ⟨hname, hstrings⟩ := hstrings
  have hterms' : (p.terms.map (TermOf.numbered table.variablePosition table.position)).map
      (TermOf.resolve table) = p.terms := by
    rw [List.map_map, map_eq_self_iff]
    exact fun t ht => TermOf.resolve_numbered hsize (hterms t ht).1 (hterms t ht).2 (hstrings t ht)
  rw [resolve_eq, numbered, SymbolTable.name_position hsize hname, hterms']

end

/-- What is interned of a predicate without variables reads back as it was. -/
theorem PredicateOf.resolve_intern {p : Source.Predicate} {table : SymbolTable}
    (hsize : ((PredicateOf.intern p).run table).2.size ≤ UInt64.size)
    (hterms : ∀ t ∈ p.terms, t.isGround = true ∧ t.Ordered) :
    (((PredicateOf.intern p).run table).1).resolve ((PredicateOf.intern p).run table).2 = p := by
  obtain ⟨names, h⟩ := PredicateOf.exists_interns_intern p
  rw [h.fst_run]
  exact PredicateOf.resolve_numbered hsize hterms fun name hname =>
    (PredicateOf.introduces_intern p).mem_names_run hname table

namespace BlockDraft

variable (draft : BlockDraft) (symbols : SymbolTable)

/-- What is interned of a draft is numbered in the table that has all its strings. -/
theorem fst_run_intern : (draft.intern.run symbols).1 =
    (draft.facts.map (PredicateOf.numbered (draft.intern.run symbols).2.variablePosition
        (draft.intern.run symbols).2.position),
      draft.rules.map (RuleOf.numbered (draft.intern.run symbols).2.variablePosition
        (draft.intern.run symbols).2.position),
      draft.checks.map (CheckOf.numbered (draft.intern.run symbols).2.variablePosition
        (draft.intern.run symbols).2.position)) := by
  obtain ⟨_, hfacts⟩ := exists_interns_mapM fun p (_ : p ∈ draft.facts) =>
    PredicateOf.exists_interns_intern p
  obtain ⟨_, hrules⟩ := exists_interns_mapM fun r (_ : r ∈ draft.rules) =>
    RuleOf.exists_interns_intern r
  obtain ⟨_, hchecks⟩ := exists_interns_mapM fun c (_ : c ∈ draft.checks) =>
    CheckOf.exists_interns_intern c
  have hall := hfacts.bind fun facts => hrules.bind fun rules => hchecks.map fun checks =>
    (facts, rules, checks)
  exact hall.fst_run symbols

/-- The strings of the table come first, then those of the draft that it does not have. -/
theorem names_snd_run_intern : (draft.intern.run symbols).2.names =
    symbols.names ++ (draft.strings.filter (· ∉ symbols.names)).eraseDups := by
  rw [draft.introduces_intern symbols, SymbolTable.names_foldl_insert_eq]

theorem names_symbols_build : (draft.build symbols).symbols.names =
    (draft.strings.filter (· ∉ symbols.names)).eraseDups := by
  change (draft.intern.run symbols).2.names.drop symbols.names.length = _
  rw [names_snd_run_intern, List.drop_left]

theorem isDisjoint_build : symbols.isDisjoint (draft.build symbols).symbols = true := by
  rw [SymbolTable.isDisjoint_iff, names_symbols_build, List.disjoint_right]
  intro name hname
  simpa using (List.mem_filter.1 (List.mem_eraseDups.1 hname)).2

/-- The table of the token with the symbols of the block is the one that the draft was interned
    in. -/
theorem extend_build : symbols.extend (draft.build symbols).symbols =
    (draft.intern.run symbols).2 := by
  apply SymbolTable.ext_names
  rw [SymbolTable.names_extend (isDisjoint_build draft symbols), names_symbols_build,
    names_snd_run_intern]

theorem mem_names_extend_build {name : String} :
    name ∈ (symbols.extend (draft.build symbols).symbols).names ↔
      name ∈ symbols.names ++ draft.strings := by
  rw [extend_build, names_snd_run_intern, List.mem_append, List.mem_append, List.mem_eraseDups,
    List.mem_filter, decide_eq_true_iff]
  tauto

theorem size_extend_build : (symbols.extend (draft.build symbols).symbols).size =
    (symbols.names ++ draft.strings).toFinset.card := by
  rw [SymbolTable.size, ← List.toFinset_card_of_nodup (SymbolTable.nodup _)]
  refine congrArg Finset.card (Finset.ext fun name => ?_)
  rw [List.mem_toFinset, List.mem_toFinset, mem_names_extend_build]

variable {draft symbols}

/-- The strings of a draft are numbered by the positions that they have in the table of the
    token. -/
theorem numberedInside_of_build
    (hsize : (symbols.names ++ draft.strings).toFinset.card ≤ UInt32.size) :
    NumberedInside (draft.intern.run symbols).2.variablePosition
      (draft.intern.run symbols).2.position
      (fun s => s.toNat < (draft.intern.run symbols).2.size) draft.strings := by
  rw [← size_extend_build, extend_build] at hsize
  refine numberedInside_of_mem hsize fun name hname => ?_
  rw [← extend_build, mem_names_extend_build]
  exact List.mem_append_right _ hname

theorem pointsInto_build
    (hsize : (symbols.names ++ draft.strings).toFinset.card ≤ UInt32.size) :
    (draft.build symbols).PointsInto (symbols.extend (draft.build symbols).symbols) := by
  have hinside := numberedInside_of_build hsize
  rw [NumberedInside, strings, List.forall_mem_append, List.forall_mem_append,
    List.forall_mem_flatMap, List.forall_mem_flatMap, List.forall_mem_flatMap] at hinside
  obtain ⟨hfacts, hrules, hchecks⟩ := hinside
  rw [extend_build, build_eq, Block.PointsInto, Block.positions]
  dsimp only
  rw [fst_run_intern]
  simp only [List.forall_mem_append, List.forall_mem_flatMap, List.forall_mem_map]
  exact ⟨fun fact hfact => PredicateOf.inside_of_numbered (hfacts fact hfact),
    fun rule hrule => RuleOf.inside_of_numbered (hrules rule hrule),
    fun check hcheck => CheckOf.inside_of_numbered (hchecks check hcheck)⟩

/-- What is interned of a draft whose sets are in order reads back as the draft. -/
theorem leaves_intern (hordered : ∀ t ∈ draft.terms, t.Ordered) :
    Leaves draft.intern fun final content =>
      content.1.map (PredicateOf.resolve final) = draft.facts ∧
      content.2.1.map (RuleOf.resolve final) = draft.rules ∧
      content.2.2.map (fun check => (⟨check.queries.map (RuleOf.resolve final)⟩ : Source.Check)) =
        draft.checks := by
  rw [terms, List.forall_mem_append, List.flatMap_append, List.forall_mem_append,
    List.forall_mem_flatMap, List.forall_mem_flatMap, List.forall_mem_flatMap] at hordered
  obtain ⟨hfacts, hrules, hchecks⟩ := hordered
  have hcheck (check : Source.Check) (hcheck : check ∈ draft.checks) :
      Leaves (CheckOf.intern check) fun final c =>
        (⟨c.queries.map (RuleOf.resolve final)⟩ : Source.Check) = check := by
    have hleaves := CheckOf.leaves_intern fun query hquery =>
      hchecks query (List.mem_flatMap.2 ⟨check, hcheck, hquery⟩)
    exact fun table => ⟨(hleaves table).1, fun final hfinal hsize =>
      congrArg CheckOf.mk ((hleaves table).2 final hfinal hsize)⟩
  refine (leaves_mapM fun fact hfact => PredicateOf.leaves_intern (hfacts fact hfact)).bind
    fun facts => ?_
  refine (leaves_mapM fun rule hrule => RuleOf.leaves_intern (hrules rule hrule)).bind
    fun rules => ?_
  exact (leaves_mapM hcheck).map fun final checks hchecks hrules hfacts =>
    ⟨hfacts, hrules, hchecks⟩

theorem draft_build (hordered : ∀ t ∈ draft.terms, t.Ordered)
    (hsize : (symbols.names ++ draft.strings).toFinset.card ≤ UInt32.size) :
    (draft.build symbols).draft (symbols.extend (draft.build symbols).symbols) = draft := by
  rw [← size_extend_build, extend_build] at hsize
  obtain ⟨hfacts, hrules, hchecks⟩ := (leaves_intern hordered).run hsize
  rw [extend_build, build_eq, Block.draft]
  dsimp only
  rw [hfacts, hrules, hchecks]

/-- A block introduces just the strings of its draft that a table has not, each once and in the order
    in which they are first used. Where 32 bits number all strings, the block points to strings of
    the table with them only, and a draft whose sets are in order is read back from it. So a token
    that is not sealed takes the block, and what its positions stand for stays. -/
theorem build_introduces_missing (draft : BlockDraft) (symbols : SymbolTable) :
    (draft.build symbols).symbols.names =
        (draft.strings.filter (· ∉ symbols.names)).eraseDups ∧
      symbols.isDisjoint (draft.build symbols).symbols = true ∧
      ((symbols.names ++ draft.strings).toFinset.card ≤ UInt32.size →
        (draft.build symbols).PointsInto (symbols.extend (draft.build symbols).symbols) ∧
        ((∀ t ∈ draft.terms, t.Ordered) →
          (draft.build symbols).draft (symbols.extend (draft.build symbols).symbols) = draft)) ∧
      ∀ (scheme : Scheme) (token : Token scheme) (next : PrivateKey), token.isSealed = false →
        token.symbols = symbols →
          ∃ longer, token.append next (draft.build symbols) = .ok longer ∧
            longer.symbols = symbols.extend (draft.build symbols).symbols ∧
            ∀ s name, token.symbols.resolve? s = some name →
              longer.symbols.resolve? s = some name := by
  refine ⟨names_symbols_build draft symbols, isDisjoint_build draft symbols,
    fun hsize => ⟨pointsInto_build hsize, fun hordered => draft_build hordered hsize⟩, ?_⟩
  rintro scheme token next hopen rfl
  obtain ⟨key, htail⟩ : ∃ key, token.chain.tail = .growing key := by
    rw [Token.isSealed, Chain.isSealed] at hopen
    split at hopen
    case h_1 key htail => exact ⟨key, htail⟩
    case h_2 => cases hopen
  refine ⟨_, Token.append_of_isDisjoint htail (isDisjoint_build draft token.symbols) next, rfl,
    fun s name hs => ?_⟩
  exact SymbolTable.getElem?_of_prefix (SymbolTable.prefix_extend _ _) hs

/-- A draft that grants a right to read one of some files, and admits only that operation. -/
def grantDraft : BlockDraft :=
  (empty.addFact ⟨"right", [.set [.str "a", .str "file"], .str "read"]⟩).checkOperation "read"

theorem grantDraft_build_introduces_missing :
    let token := Verifier.pointingToken (.ofList ["file"])
    let block := grantDraft.build token.symbols
    block.symbols.names = ["a", "read", "check_operation"] ∧
      block.facts = [⟨4, [.set [.str 7, .str 8], .str 9]⟩] ∧
      block.PointsInto (token.symbols.extend block.symbols) ∧
      block.draft (token.symbols.extend block.symbols) = grantDraft ∧
      ∃ longer, token.append Chain.sampleSecond.key block = .ok longer ∧
        longer.symbols.resolve? 7 = some "file" := by
  intro token block
  obtain ⟨hnames, -, hread, happend⟩ := build_introduces_missing grantDraft token.symbols
  have hordered : ∀ t ∈ grantDraft.terms, t.Ordered := by
    have hterms : grantDraft.terms =
        [.set [.str "a", .str "file"], .str "read", .str "ambient", .str "read"] := rfl
    rw [hterms]
    refine List.forall_mem_cons.2 ⟨⟨by decide, trivial, trivial, trivial⟩, ?_⟩
    simp [TermOf.Ordered]
  have hsize : (token.symbols.names ++ grantDraft.strings).toFinset.card ≤ UInt32.size :=
    (List.toFinset_card_le _).trans (by decide +kernel)
  obtain ⟨hpoints, hdraft⟩ := hread hsize
  obtain ⟨longer, hlonger, -, hkept⟩ := happend _ token Chain.sampleSecond.key rfl rfl
  exact ⟨hnames.trans (by decide +kernel), by decide +kernel, hpoints, hdraft hordered, longer,
    hlonger, hkept 7 "file" (by decide +kernel)⟩

end BlockDraft

end Warrant
