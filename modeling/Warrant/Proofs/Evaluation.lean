import Warrant.Evaluate

namespace Warrant

/-- The terms that variables stand for; a variable may stand for none. -/
abbrev Valuation := UInt32 → Option Term

def Bindings.valuation (bindings : Bindings) : Valuation := fun v => bindings.lookup v

/-- The term that a term stands for under a valuation. -/
def TermOf.under (σ : Valuation) : Term → Option Term
  | .var v => σ v
  | t => some t

theorem TermOf.lookup_eq_under (bindings : Bindings) (t : Term) :
    t.lookup bindings = t.under bindings.valuation := by
  cases t <;> rfl

/-- The pattern that a symbol writes, if it is one. -/
def SymbolTable.pattern? (symbols : SymbolTable) (symbol : UInt64) : Option Pattern :=
  (symbols.resolve? symbol).bind Pattern.compile

/-- The value of a binary operation where every pattern is compiled anew. -/
def Binary.value (symbols : SymbolTable) (which : Binary) (left right : Term) : Option Term :=
  match which, left, right with
  | matchesPattern, .str s, .str p => do
    let text ← symbols.resolve? s
    let pattern ← symbols.pattern? p
    return .bool (pattern.isMatch text)
  | _, _, _ => which.evaluatePlain symbols left right

/-- The value of an expression where every pattern is compiled anew. -/
def value (symbols : SymbolTable) (σ : Valuation) (e : Expression) : Option Term := do
  let stack ← runPostfix none (TermOf.under σ) (fun which operand => which.evaluate symbols operand)
    (Binary.value symbols) e []
  match stack with
  | [result] => some result
  | _ => none

/-- Every pattern that is kept is the one that its symbol writes. -/
def PatternCache.Sound (symbols : SymbolTable) (cache : PatternCache) : Prop :=
  ∀ symbol found, cache.lookup symbol = some found → found = symbols.pattern? symbol

theorem PatternCache.sound_nil (symbols : SymbolTable) : PatternCache.Sound symbols [] := by
  intro symbol found h
  cases h

theorem PatternCache.Sound.cons {symbols : SymbolTable} {cache : PatternCache}
    (hcache : cache.Sound symbols) (symbol : UInt64) :
    PatternCache.Sound symbols ((symbol, symbols.pattern? symbol) :: cache) := by
  intro other found h
  rw [List.lookup_cons] at h
  by_cases heq : other = symbol
  · subst heq
    simpa using h.symm
  · have hne : (other == symbol) = false := by simpa using heq
    rw [hne] at h
    exact hcache other found h

namespace Evaluation

variable {α β : Type} {symbols : SymbolTable}

/-- An evaluation that has the same value whatever sound patterns are kept, and keeps sound ones
    only. -/
def Gives (symbols : SymbolTable) (x : Evaluation α) (value : Option α) : Prop :=
  ∀ cache : PatternCache, cache.Sound symbols →
    ∃ kept : PatternCache, x.run.run cache = (value, kept) ∧ kept.Sound symbols

theorem gives_ofOption (value : Option α) : Gives symbols (ofOption value) value :=
  fun cache hcache => ⟨cache, rfl, hcache⟩

theorem gives_pure (value : α) : Gives symbols (pure value) (some value) :=
  fun cache hcache => ⟨cache, rfl, hcache⟩

theorem gives_failure : Gives symbols (failure : Evaluation α) none :=
  fun cache hcache => ⟨cache, rfl, hcache⟩

/-- What follows goes on with the patterns that were kept. -/
theorem run_bind (x : Evaluation α) (f : α → Evaluation β) (cache : PatternCache) :
    (x >>= f).run.run cache = match x.run.run cache with
      | (none, kept) => (none, kept)
      | (some v, kept) => (f v).run.run kept := by
  rw [OptionT.run_bind, Option.elimM, StateT.run_bind]
  cases hrun : x.run.run cache with
  | mk found kept => cases found <;> rfl

theorem Gives.bind {x : Evaluation α} {a : Option α} {f : α → Evaluation β} {g : α → Option β}
    (hx : Gives symbols x a) (hf : ∀ v, Gives symbols (f v) (g v)) :
    Gives symbols (x >>= f) (a.bind g) := by
  intro cache hcache
  obtain ⟨kept, hrun, hkept⟩ := hx cache hcache
  cases a with
  | none => exact ⟨kept, by rw [run_bind, hrun]; rfl, hkept⟩
  | some v =>
    obtain ⟨final, hfinal, hsound⟩ := hf v kept hkept
    exact ⟨final, by rw [run_bind, hrun]; exact hfinal, hsound⟩

theorem gives_cachedPattern (symbol : UInt64) :
    Gives symbols (cachedPattern symbols symbol) (symbols.pattern? symbol) := by
  intro cache hcache
  cases hlookup : cache.lookup symbol with
  | none =>
    refine ⟨(symbol, symbols.pattern? symbol) :: cache, ?_, hcache.cons symbol⟩
    simp [cachedPattern, OptionT.run, StateT.run, hlookup, SymbolTable.pattern?]
  | some found =>
    refine ⟨cache, ?_, hcache⟩
    simp [cachedPattern, OptionT.run, StateT.run, hlookup, hcache symbol found hlookup]

theorem gives_binary (which : Binary) (left right : Term) :
    Gives symbols (which.evaluate symbols left right) (which.value symbols left right) := by
  unfold Binary.evaluate
  split
  case h_1 =>
    exact (gives_ofOption _).bind fun text =>
      (gives_cachedPattern _).bind fun pattern => gives_pure _
  case h_2 hother =>
    have hvalue : which.value symbols left right = which.evaluatePlain symbols left right := by
      rw [Binary.value]
      exact hother
    rw [hvalue]
    exact gives_ofOption _

/-- Running postfix operations gives what the operations give. -/
theorem gives_runPostfix {onValue : Term → Evaluation α} {onUnary : Unary → α → Evaluation α}
    {onBinary : Binary → α → α → Evaluation α} {value : Term → Option α}
    {unary : Unary → α → Option α} {binary : Binary → α → α → Option α}
    (hvalue : ∀ t, Gives symbols (onValue t) (value t))
    (hunary : ∀ which a, Gives symbols (onUnary which a) (unary which a))
    (hbinary : ∀ which a b, Gives symbols (onBinary which a b) (binary which a b))
    (ops : Expression) (stack : List α) :
    Gives symbols (runPostfix failure onValue onUnary onBinary ops stack)
      (runPostfix none value unary binary ops stack) := by
  induction ops generalizing stack with
  | nil => exact gives_pure stack
  | cons op ops ih =>
    match op, stack with
    | .value t, stack => exact (hvalue t).bind fun a => ih (a :: stack)
    | .unary which, operand :: stack => exact (hunary which operand).bind fun a => ih (a :: stack)
    | .binary which, right :: left :: stack =>
      exact (hbinary which left right).bind fun a => ih (a :: stack)
    | .unary _, [] => exact gives_failure
    | .binary _, [] => exact gives_failure
    | .binary _, [_] => exact gives_failure

/-- The stack that an expression leaves, whatever sound patterns are kept. -/
theorem gives_stack (bindings : Bindings) (e : Expression) (stack : List Term) :
    Gives symbols
      (runPostfix failure (fun t => Evaluation.ofOption (t.lookup bindings))
        (fun which operand => Evaluation.ofOption (which.evaluate symbols operand))
        (Binary.evaluate symbols) e stack)
      (runPostfix none (TermOf.under bindings.valuation)
        (fun which operand => which.evaluate symbols operand) (Binary.value symbols) e stack) := by
  apply gives_runPostfix
  · intro t
    rw [TermOf.lookup_eq_under]
    exact gives_ofOption _
  · exact fun which operand => gives_ofOption _
  · exact fun which left right => gives_binary which left right

theorem gives_evaluate (bindings : Bindings) (e : Expression) :
    Gives symbols (evaluate symbols bindings e) (value symbols bindings.valuation e) := by
  unfold evaluate value
  refine (gives_stack bindings e []).bind fun stack => ?_
  match stack with
  | [] => exact gives_failure
  | [result] => exact gives_pure result
  | _ :: _ :: _ => exact gives_failure

end Evaluation

/-- Whether every constraint has the value true. -/
def holdAll (symbols : SymbolTable) (σ : Valuation) (es : List Expression) : Bool :=
  es.all fun e => value symbols σ e == some (.bool true)

/-- The patterns that are kept do not change whether constraints hold. -/
theorem run_allHold {symbols : SymbolTable} (bindings : Bindings) (es : List Expression)
    (cache : PatternCache) (hcache : cache.Sound symbols) :
    ∃ kept : PatternCache, (allHold symbols bindings es).run cache =
      (holdAll symbols bindings.valuation es, kept) ∧ kept.Sound symbols := by
  induction es generalizing cache with
  | nil => exact ⟨cache, rfl, hcache⟩
  | cons e es ih =>
    obtain ⟨kept, hrun, hkept⟩ := Evaluation.gives_evaluate bindings e cache hcache
    have hstep : (allHold symbols bindings (e :: es)).run cache =
        if value symbols bindings.valuation e = some (.bool true)
        then (allHold symbols bindings es).run kept else (false, kept) := by
      rw [allHold, StateT.run_bind, hrun]
      cases value symbols bindings.valuation e with
      | none => rfl
      | some t =>
        cases t with
        | bool b => cases b <;> simp <;> rfl
        | _ => simp; rfl
    rw [hstep]
    by_cases htrue : value symbols bindings.valuation e = some (.bool true)
    · obtain ⟨final, hfinal, hsound⟩ := ih kept hkept
      exact ⟨final, by simpa [holdAll, htrue] using hfinal, hsound⟩
    · have hfalse : holdAll symbols bindings.valuation (e :: es) = false := by
        simp [holdAll, htrue]
      rw [if_neg htrue, hfalse]
      exact ⟨kept, rfl, hkept⟩

end Warrant
