import Warrant.Proofs.Content
import Warrant.Render

namespace Warrant

/-- What operations leave on a stack depends on what becomes of their terms. -/
theorem runPostfix_congr {V S α : Type} {m : Type → Type} [Monad m] {stuck : m (List α)}
    {onValue onValue' : TermOf V S → m α} {onUnary : Unary → α → m α}
    {onBinary : Binary → α → α → m α} {ops : ExpressionOf V S}
    (h : ∀ t, .value t ∈ ops → onValue t = onValue' t) (stack : List α) :
    runPostfix stuck onValue onUnary onBinary ops stack =
      runPostfix stuck onValue' onUnary onBinary ops stack := by
  induction ops generalizing stack with
  | nil => rfl
  | cons op ops ih =>
    have ih := ih fun t ht => h t (List.mem_cons_of_mem op ht)
    match op, stack with
    | .value t, stack =>
      simp only [runPostfix, h t List.mem_cons_self, ih]
    | .unary _, operand :: stack => simp only [runPostfix, ih]
    | .binary _, right :: left :: stack => simp only [runPostfix, ih]
    | .unary _, [] => rfl
    | .binary _, [] => rfl
    | .binary _, [_] => rfl

variable {inside : UInt64 → Prop} {symbols symbols' : SymbolTable}

mutual

/-- What is printed depends on the strings at the positions that are printed. -/
theorem TermOf.render_congr (hname : ∀ s, inside s → symbols.name s = symbols'.name s) :
    (t : Term) → t.Over (fun v => inside v.toUInt64) inside → t.render symbols = t.render symbols'
  | .var v, h => by rw [render, render, hname v.toUInt64 h]
  | .str s, h => by rw [render, render, hname s h]
  | .set elements, h => by rw [render, render, renderAll_congr hname elements h]
  | .integer _, _ => by rw [render, render]
  | .date _, _ => by rw [render, render]
  | .bytes _, _ => by rw [render, render]
  | .bool _, _ => by rw [render, render]

theorem TermOf.renderAll_congr (hname : ∀ s, inside s → symbols.name s = symbols'.name s) :
    (ts : List Term) → AllOver (fun v => inside v.toUInt64) inside ts →
      TermOf.renderAll symbols ts = TermOf.renderAll symbols' ts
  | [], _ => by rw [renderAll, renderAll]
  | t :: ts, h => by
    rw [renderAll, renderAll, render_congr hname t h.1, renderAll_congr hname ts h.2]

end

section

variable (hname : ∀ s, inside s → symbols.name s = symbols'.name s)
include hname

theorem renderExpression_congr {e : Expression}
    (h : ∀ op ∈ e, op.Over (fun v => inside v.toUInt64) inside) :
    renderExpression symbols e = renderExpression symbols' e := by
  have hinfix : renderInfix? (TermOf.render symbols) e = renderInfix? (TermOf.render symbols') e := by
    rw [renderInfix?, renderInfix?]
    refine congrArg (· >>= _) (runPostfix_congr (fun t ht => congrArg some ?_) [])
    exact t.render_congr hname (h _ ht)
  rw [renderExpression, renderExpression, hinfix]

theorem PredicateOf.render_congr {p : Predicate}
    (h : p.Over (fun v => inside v.toUInt64) inside inside) :
    p.render symbols = p.render symbols' := by
  have hterms : p.terms.map (TermOf.render symbols) = p.terms.map (TermOf.render symbols') :=
    List.map_congr_left fun t ht => t.render_congr hname (h.2 t ht)
  rw [render, render, hname p.name h.1, hterms]

variable {r : Rule} (hrule : r.Over (fun v => inside v.toUInt64) inside inside inside)
include hrule

theorem RuleOf.renderBody_congr : r.renderBody symbols = r.renderBody symbols' := by
  have hbody : r.body.map (PredicateOf.render symbols) =
      r.body.map (PredicateOf.render symbols') :=
    List.map_congr_left fun p hp => PredicateOf.render_congr hname (hrule.body p hp)
  have hexpressions : r.expressions.map (renderExpression symbols) =
      r.expressions.map (renderExpression symbols') :=
    List.map_congr_left fun e he => renderExpression_congr hname (hrule.expressions e he)
  rw [renderBody, renderBody, hbody, hexpressions]

theorem RuleOf.render_congr : r.render symbols = r.render symbols' := by
  rw [render, render, PredicateOf.render_congr hname hrule.head,
    RuleOf.renderBody_congr hname hrule]

omit hrule in
theorem CheckOf.render_congr {check : Check} (h : ∀ query ∈ check.queries,
      query.Over (fun v => inside v.toUInt64) inside inside inside) :
    check.render symbols = check.render symbols' := by
  have hqueries : check.queries.map (RuleOf.renderBody symbols) =
      check.queries.map (RuleOf.renderBody symbols') :=
    List.map_congr_left fun query hquery => RuleOf.renderBody_congr hname (h query hquery)
  rw [render, render, renderQueries, renderQueries, hqueries]

end

end Warrant
