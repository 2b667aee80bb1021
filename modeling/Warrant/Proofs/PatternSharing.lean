import Warrant.Proofs.Answers

namespace Warrant

/-- Whether a test of a string that there is against a pattern is reached where operations are
    worked on one after another from a stack. -/
inductive Tries (symbols : SymbolTable) (σ : Valuation) : Expression → List Term → UInt64 → Prop
  | here {s p : UInt64} {ops : Expression} {stack : List Term}
      (hs : (symbols.resolve? s).isSome) :
      Tries symbols σ (.binary .matchesPattern :: ops) (.str p :: .str s :: stack) p
  | later {op : Op} {ops : Expression} {stack next : List Term} {p : UInt64}
      (hnext : runPostfix none (TermOf.under σ) (fun which operand => which.evaluate symbols operand)
        (Binary.value symbols) [op] stack = some next)
      (h : Tries symbols σ ops next p) : Tries symbols σ (op :: ops) stack p

/-- The values of expressions, one after another, where all share the patterns that are compiled. -/
def evaluateAll (symbols : SymbolTable) (calls : List (Bindings × Expression)) :
    StateM PatternCache (List (Option Term)) :=
  calls.mapM fun call => (evaluate symbols call.1 call.2).run

namespace PatternCache

/-- The symbols of the patterns that are kept. -/
def keys (cache : PatternCache) : List UInt64 := cache.map Prod.fst

theorem mem_keys_iff {cache : PatternCache} {p : UInt64} :
    p ∈ cache.keys ↔ (cache.lookup p).isSome := by
  rw [List.lookup_isSome_iff, keys]
  simp

/-- A pattern that is kept once is found. -/
theorem lookup_of_mem {cache : PatternCache} (hnodup : cache.keys.Nodup) {p : UInt64}
    {found : Option Pattern} (h : (p, found) ∈ cache) : cache.lookup p = some found := by
  induction cache with
  | nil => cases h
  | cons entry cache ih =>
    obtain ⟨hentry, hnodup⟩ := List.nodup_cons.1 hnodup
    rcases List.mem_cons.1 h with rfl | h
    · exact List.lookup_cons_self
    · have hne : (p == entry.1) = false := by
        refine beq_false_of_ne ?_
        rintro rfl
        exact hentry (List.mem_map.2 ⟨_, h, rfl⟩)
      rw [List.lookup_cons, hne]
      exact ih hnodup h

end PatternCache

namespace Evaluation

variable {α β : Type} {symbols : SymbolTable}

/-- An evaluation that asks for some patterns: it keeps those and the ones that were kept, each
    once. -/
def Asks (symbols : SymbolTable) (x : Evaluation α) (asked : UInt64 → Prop) : Prop :=
  ∀ cache : PatternCache, cache.Sound symbols → cache.keys.Nodup →
    (x.run.run cache).2.keys.Nodup ∧
      ∀ p, p ∈ (x.run.run cache).2.keys ↔ p ∈ cache.keys ∨ asked p

theorem asks_nothing {x : Evaluation α} {asked : UInt64 → Prop}
    (hx : ∀ cache, (x.run.run cache).2 = cache) (hasked : ∀ p, ¬asked p) :
    Asks symbols x asked := by
  intro cache _ hnodup
  rw [hx]
  exact ⟨hnodup, fun p => by simp [hasked p]⟩

theorem Asks.congr {x : Evaluation α} {asked asked' : UInt64 → Prop} (h : Asks symbols x asked)
    (hasked : ∀ p, asked' p ↔ asked p) : Asks symbols x asked' := by
  obtain rfl : asked' = asked := funext fun p => propext (hasked p)
  exact h

/-- What follows asks for its patterns where there is a value to go on with. -/
theorem Asks.bind {x : Evaluation α} {a : Option α} {f : α → Evaluation β}
    {asked : UInt64 → Prop} {then_ : α → UInt64 → Prop} (hx : Asks symbols x asked)
    (hvalue : Gives symbols x a) (hf : ∀ v, Asks symbols (f v) (then_ v)) :
    Asks symbols (x >>= f) fun p => asked p ∨ ∃ v, a = some v ∧ then_ v p := by
  intro cache hcache hnodup
  obtain ⟨hkeptNodup, hkeptMem⟩ := hx cache hcache hnodup
  obtain ⟨kept, hrun, hkept⟩ := hvalue cache hcache
  rw [hrun] at hkeptNodup hkeptMem
  rw [run_bind, hrun]
  cases a with
  | none => exact ⟨hkeptNodup, fun p => by simpa using hkeptMem p⟩
  | some v =>
    obtain ⟨hfinalNodup, hfinalMem⟩ := hf v kept hkept hkeptNodup
    refine ⟨hfinalNodup, fun p => ?_⟩
    rw [hfinalMem, hkeptMem, or_assoc]
    simp

theorem asks_cachedPattern (p : UInt64) : Asks symbols (cachedPattern symbols p) (· = p) := by
  intro cache _ hnodup
  cases hlookup : cache.lookup p with
  | none =>
    have hrun : ((cachedPattern symbols p).run.run cache).2 =
        (p, (symbols.resolve? p).bind Pattern.compile) :: cache := by
      simp [cachedPattern, OptionT.run, StateT.run, hlookup]
    have hnew : p ∉ cache.keys := by simp [PatternCache.mem_keys_iff, hlookup]
    rw [hrun]
    exact ⟨List.nodup_cons.2 ⟨hnew, hnodup⟩, fun q => List.mem_cons.trans or_comm⟩
  | some found =>
    have hrun : ((cachedPattern symbols p).run.run cache).2 = cache := by
      simp [cachedPattern, OptionT.run, StateT.run, hlookup]
    have hmem : p ∈ cache.keys := by simp [PatternCache.mem_keys_iff, hlookup]
    rw [hrun]
    exact ⟨hnodup, fun q => ⟨.inl, fun h => h.elim id fun heq => heq ▸ hmem⟩⟩

/-- A binary operation asks for a pattern where it tests a string that there is. -/
theorem asks_binary (which : Binary) (left right : Term) :
    Asks symbols (which.evaluate symbols left right) fun p => which = .matchesPattern ∧
      right = .str p ∧ ∃ s, left = .str s ∧ (symbols.resolve? s).isSome := by
  unfold Binary.evaluate
  split
  case h_1 s p =>
    refine ((asks_nothing (fun _ => rfl) fun _ => id).bind (gives_ofOption _) fun text =>
      (asks_cachedPattern p).bind (gives_cachedPattern p) fun pattern =>
        asks_nothing (fun _ => rfl) fun _ => id).congr fun q => ?_
    simp only [true_and, TermOf.str.injEq, exists_eq_left', false_or, and_false, exists_false,
      or_false, exists_and_right, ← Option.isSome_iff_exists]
    exact and_comm.trans (and_congr_right fun _ => eq_comm)
  case h_2 hother =>
    refine asks_nothing (fun _ => rfl) ?_
    rintro p ⟨rfl, rfl, s, rfl, _⟩
    exact hother s p rfl rfl rfl

variable {σ : Valuation}

theorem tries_value_iff {t : Term} {ops : Expression} {stack : List Term} {p : UInt64} :
    Tries symbols σ (.value t :: ops) stack p ↔
      ∃ a, t.under σ = some a ∧ Tries symbols σ ops (a :: stack) p := by
  constructor
  · rintro (_ | ⟨hnext, h⟩)
    obtain ⟨a, ha, hnext⟩ := Option.bind_eq_some_iff.1 hnext
    cases hnext
    exact ⟨a, ha, h⟩
  · rintro ⟨a, ha, h⟩
    exact .later (Option.bind_eq_some_iff.2 ⟨a, ha, rfl⟩) h

theorem tries_unary_iff {which : Unary} {operand : Term} {ops : Expression} {stack : List Term}
    {p : UInt64} : Tries symbols σ (.unary which :: ops) (operand :: stack) p ↔
      ∃ a, which.evaluate symbols operand = some a ∧ Tries symbols σ ops (a :: stack) p := by
  constructor
  · rintro (_ | ⟨hnext, h⟩)
    obtain ⟨a, ha, hnext⟩ := Option.bind_eq_some_iff.1 hnext
    cases hnext
    exact ⟨a, ha, h⟩
  · rintro ⟨a, ha, h⟩
    exact .later (Option.bind_eq_some_iff.2 ⟨a, ha, rfl⟩) h

theorem tries_binary_iff {which : Binary} {left right : Term} {ops : Expression}
    {stack : List Term} {p : UInt64} :
    Tries symbols σ (.binary which :: ops) (right :: left :: stack) p ↔
      (which = .matchesPattern ∧ right = .str p ∧
          ∃ s, left = .str s ∧ (symbols.resolve? s).isSome) ∨
        ∃ a, which.value symbols left right = some a ∧ Tries symbols σ ops (a :: stack) p := by
  constructor
  · rintro (⟨hs⟩ | ⟨hnext, h⟩)
    · exact .inl ⟨rfl, rfl, _, rfl, hs⟩
    · obtain ⟨a, ha, hnext⟩ := Option.bind_eq_some_iff.1 hnext
      cases hnext
      exact .inr ⟨a, ha, h⟩
  · rintro (⟨rfl, rfl, s, rfl, hs⟩ | ⟨a, ha, h⟩)
    · exact .here hs
    · exact .later (Option.bind_eq_some_iff.2 ⟨a, ha, rfl⟩) h

/-- Operations ask for the patterns that they reach. -/
theorem asks_runPostfix (bindings : Bindings) (ops : Expression) (stack : List Term) :
    Asks symbols
      (runPostfix failure (fun t => Evaluation.ofOption (t.lookup bindings))
        (fun which operand => Evaluation.ofOption (which.evaluate symbols operand))
        (Binary.evaluate symbols) ops stack)
      (Tries symbols bindings.valuation ops stack) := by
  have hoption {γ : Type} (value : Option γ) :
      Asks symbols (Evaluation.ofOption value) fun _ => False :=
    asks_nothing (fun _ => rfl) fun _ => id
  induction ops generalizing stack with
  | nil => exact asks_nothing (fun _ => rfl) nofun
  | cons op ops ih =>
    match op, stack with
    | .value t, stack =>
      refine ((hoption (t.lookup bindings)).bind (gives_ofOption _) fun a =>
        ih (a :: stack)).congr fun p => ?_
      rw [tries_value_iff, TermOf.lookup_eq_under, false_or]
    | .unary which, operand :: stack =>
      refine ((hoption (which.evaluate symbols operand)).bind (gives_ofOption _) fun a =>
        ih (a :: stack)).congr fun p => ?_
      rw [tries_unary_iff, false_or]
    | .binary which, right :: left :: stack =>
      exact ((asks_binary which left right).bind (gives_binary which left right) fun a =>
        ih (a :: stack)).congr fun p => tries_binary_iff
    | .unary _, [] =>
      refine asks_nothing (fun _ => rfl) ?_
      rintro p (_ | ⟨⟨⟩, _⟩)
    | .binary _, [] =>
      refine asks_nothing (fun _ => rfl) ?_
      rintro p (_ | ⟨⟨⟩, _⟩)
    | .binary _, [_] =>
      refine asks_nothing (fun _ => rfl) ?_
      rintro p (_ | ⟨⟨⟩, _⟩)

theorem asks_evaluate (bindings : Bindings) (e : Expression) :
    Asks symbols (evaluate symbols bindings e) (Tries symbols bindings.valuation e []) := by
  unfold evaluate
  refine ((asks_runPostfix bindings e []).bind (gives_stack bindings e [])
    fun stack => (?_ : Asks symbols _ fun _ => False)).congr fun p => by simp
  refine asks_nothing (fun cache => ?_) fun _ => id
  split <;> rfl

end Evaluation

/-- Expressions that share patterns have the values that they have alone, and leave the patterns
    that one of them reached, with those that were kept. -/
theorem run_evaluateAll {symbols : SymbolTable} (calls : List (Bindings × Expression))
    (cache : PatternCache) (hcache : cache.Sound symbols) (hnodup : cache.keys.Nodup) :
    ∃ kept : PatternCache, (evaluateAll symbols calls).run cache =
        (calls.map fun call => freshValue? symbols call.1 call.2, kept) ∧
      kept.Sound symbols ∧ kept.keys.Nodup ∧
      ∀ p, p ∈ kept.keys ↔
        p ∈ cache.keys ∨ ∃ call ∈ calls, Tries symbols call.1.valuation call.2 [] p := by
  induction calls generalizing cache with
  | nil => exact ⟨cache, rfl, hcache, hnodup, fun p => by simp⟩
  | cons call calls ih =>
    obtain ⟨bindings, e⟩ := call
    obtain ⟨first, hfirst, hsound⟩ := Evaluation.gives_evaluate bindings e cache hcache
    obtain ⟨hfirstNodup, hfirstMem⟩ := Evaluation.asks_evaluate bindings e cache hcache hnodup
    rw [hfirst] at hfirstNodup hfirstMem
    obtain ⟨kept, hrun, hkept, hkeptNodup, hkeptMem⟩ := ih first hsound hfirstNodup
    refine ⟨kept, ?_, hkept, hkeptNodup, fun p => ?_⟩
    · rw [evaluateAll, List.mapM_cons, StateT.run_bind, hfirst, List.map_cons,
        freshValue?_eq_value]
      exact congrArg
        (fun rest => (value symbols bindings.valuation e :: Prod.fst rest, Prod.snd rest)) hrun
    · rw [hkeptMem, hfirstMem, or_assoc]
      simp

/-- Patterns that are compiled once and shared change no value. Expressions that are worked on one
    after another have the values that each has alone; of the patterns that a test reached, however
    the expression went on, each is kept once, with what compiling its symbol comes to, also where
    the symbol is unknown or the pattern cannot be used. So a join finds the matches under which
    every constraint is true alone. -/
theorem pattern_sharing (symbols : SymbolTable) :
    (∀ calls : List (Bindings × Expression),
      ((evaluateAll symbols calls).run []).1 =
        calls.map (fun call => freshValue? symbols call.1 call.2) ∧
      (((evaluateAll symbols calls).run []).2.map Prod.fst).Nodup ∧
      (∀ p, p ∈ ((evaluateAll symbols calls).run []).2.map Prod.fst ↔
        ∃ call ∈ calls, Tries symbols call.1.valuation call.2 [] p) ∧
      ∀ p found, (p, found) ∈ ((evaluateAll symbols calls).run []).2 →
        found = (symbols.resolve? p).bind Pattern.compile) ∧
    ∀ facts body expressions start,
      allBindings symbols facts body expressions start =
        (allMatches facts body start).filterMap fun slots =>
          slots.complete?.filter fun bindings =>
            expressions.all fun e => freshValue? symbols bindings e == some (.bool true) := by
  refine ⟨fun calls => ?_, fun facts body expressions start => ?_⟩
  · obtain ⟨kept, hrun, hsound, hnodup, hmem⟩ :=
      run_evaluateAll calls [] (PatternCache.sound_nil symbols) List.nodup_nil
    rw [hrun]
    refine ⟨rfl, hnodup, fun p => (hmem p).trans (or_iff_right List.not_mem_nil), ?_⟩
    exact fun p found h => hsound p found (PatternCache.lookup_of_mem hnodup h)
  · rw [allBindings_eq_filterMap]
    refine List.filterMap_congr fun slots _ => ?_
    simp only [accepted, holdAll, freshValue?_eq_value]

end Warrant
