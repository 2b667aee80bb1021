import Warrant.Proofs.Reading
import Warrant.Proofs.SetForming

namespace Warrant.Grammar

variable {α β : Type}

/-- Whether everything that a parser reads is as it should be. -/
def Parses (p : Parser α) (good : α → Prop) : Prop :=
  ∀ text value rest, p text = .ok value rest → good value

theorem parses_pure {good : α → Prop} {value : α} (h : good value) :
    Parses (pure value : Parser α) good := by
  intro text value rest hread
  cases hread
  exact h

theorem parses_true (p : Parser α) : Parses p fun _ => True := fun _ _ _ _ => trivial

namespace Parses

variable {p q : Parser α} {good : α → Prop}

theorem bind {next : α → Parser β} {good' : β → Prop} (hp : Parses p good)
    (hnext : ∀ value, good value → Parses (next value) good') : Parses (p >>= next) good' := by
  intro text value rest hread
  dsimp only [Bind.bind] at hread
  split at hread
  case h_1 first between hfirst => exact hnext first (hp _ _ _ hfirst) _ _ _ hread
  case h_2 => cases hread
  case h_3 => cases hread

/-- Where a first part is passed over, what counts is the rest. -/
theorem after {next : α → Parser β} {good' : β → Prop} (h : ∀ value, Parses (next value) good') :
    Parses (p >>= next) good' := (parses_true p).bind fun value _ => h value

theorem map {good' : β → Prop} (hp : Parses p good) {f : α → β}
    (hf : ∀ value, good value → good' (f value)) :
    Parses (p >>= fun value => pure (f value)) good' :=
  hp.bind fun value h => parses_pure (hf value h)

theorem orElse (hp : Parses p good) (hq : Parses q good) : Parses (p.orElse q) good := by
  intro text value rest hread
  rw [Parser.orElse] at hread
  split at hread
  case h_1 => exact hq _ _ _ hread
  case h_2 => exact hp _ _ _ hread

theorem separatedTail (separator : Parser Unit) (hp : Parses p good) (count : Nat) :
    Parses (Parser.separatedTail separator p count) fun values => ∀ value ∈ values, good value := by
  induction count with
  | zero => exact parses_pure nofun
  | succ count ih =>
    intro text values rest hread
    rw [Parser.separatedTail] at hread
    split at hread
    case h_1 =>
      cases hread
      exact nofun
    case h_2 => cases hread
    case h_3 =>
      split at hread
      case h_1 =>
        cases hread
        exact nofun
      case h_2 => cases hread
      case h_3 hitem =>
        split at hread
        case h_1 hvalues =>
          cases hread
          exact List.forall_mem_cons.2 ⟨hp _ _ _ hitem, ih _ _ _ hvalues⟩
        case h_2 => exact ih _ _ _ hread

theorem separated1 (separator : Parser Unit) (hp : Parses p good) :
    Parses (Parser.separated1 separator p) fun values => ∀ value ∈ values, good value := by
  intro text values rest hread
  rw [Parser.separated1] at hread
  split at hread
  case h_1 hitem =>
    split at hread
    case h_1 hvalues =>
      cases hread
      exact List.forall_mem_cons.2 ⟨hp _ _ _ hitem, hp.separatedTail separator _ _ _ _ hvalues⟩
    case h_2 => exact hp.separatedTail separator _ _ _ _ hread
  case h_2 => cases hread
  case h_3 => cases hread

theorem separated0 (separator : Parser Unit) (hp : Parses p good) :
    Parses (Parser.separated0 separator p) fun values => ∀ value ∈ values, good value := by
  intro text values rest hread
  rw [Parser.separated0] at hread
  split at hread
  case h_1 =>
    cases hread
    exact List.forall_mem_nil _
  case h_2 => exact hp.separated1 separator _ _ _ hread

end Parses

theorem parses_run1 (allowed : Char → Bool) :
    Parses (Parser.run1 allowed) fun cs => cs ≠ [] ∧ ∀ c ∈ cs, allowed c = true := by
  intro text value rest hread
  rw [Parser.run1] at hread
  split at hread
  case isTrue => cases hread
  case isFalse hsome =>
    cases hread
    exact ⟨fun h => hsome (List.isEmpty_iff.2 h), List.all_eq_true.1 List.all_takeWhile⟩

section

variable {good : Source.Term → Prop}

theorem parses_date (h : ∀ d, good (.date d)) : Parses date good := by
  intro text value rest hread
  rw [date] at hread
  split at hread
  case h_1 => cases hread
  case h_2 =>
    split at hread
    case h_1 =>
      cases hread
      exact h _
    case h_2 => cases hread

theorem parses_bytes (h : ∀ b, good (.bytes b)) : Parses bytes good := by
  intro text value rest hread
  rw [bytes] at hread
  split at hread
  case h_1 =>
    split at hread
    case h_1 =>
      cases hread
      exact h _
    case h_2 => cases hread
  case h_2 => cases hread
  case h_3 => cases hread

theorem parses_boolean (h : ∀ b, good (.bool b)) : Parses boolean good := by
  intro text value rest hread
  rw [boolean] at hread
  split at hread
  case h_1 =>
    cases hread
    exact h _
  case h_2 =>
    cases hread
    exact h _
  case h_3 => cases hread

theorem parses_integer (h : ∀ i, good (.integer i)) : Parses integer good := by
  intro text value rest hread
  rw [integer] at hread
  generalize (if text.head? = some '-' then ['-'] else []) = minus at hread
  split at hread
  case isTrue => cases hread
  case isFalse =>
    split at hread
    case h_1 =>
      cases hread
      exact h _
    case h_2 => cases hread

/-- Scalars are anything but sets; variables have names. -/
theorem parses_scalar
    (hvariable : ∀ v, v ≠ "" → (∀ c ∈ v.toList, isVariableChar c = true) → good (.var v))
    (hscalar : ∀ t, t.kind ≠ .var → t.kind ≠ .set → good t) : Parses scalar good := by
  have hname : Parses variableName good := by
    refine .after fun _ => (parses_run1 isVariableChar).map fun cs hcs => hvariable _ ?_ ?_
    · exact fun h => hcs.1 (String.ofList_injective h)
    · rw [String.toList_ofList]
      exact hcs.2
  have hsymbol : Parses symbol good :=
    .after fun _ => .after fun _ => parses_pure (hscalar _ nofun nofun)
  have hliteral : Parses stringLiteral good :=
    .after fun _ => .after fun _ => .after fun _ => parses_pure (hscalar _ nofun nofun)
  exact hname.orElse (hsymbol.orElse (hliteral.orElse
    ((parses_date fun _ => hscalar _ nofun nofun).orElse
      ((parses_bytes fun _ => hscalar _ nofun nofun).orElse
        ((parses_boolean fun _ => hscalar _ nofun nofun).orElse
          (parses_integer fun _ => hscalar _ nofun nofun))))))

/-- Sets are read only if they may be formed, and are put in order. -/
theorem parses_set (hset : ∀ elements, (TermOf.set elements).MayBeRead →
    (TermOf.set elements).Ordered → good (.set elements)) : Parses set good := by
  intro text value rest hread
  rw [set] at hread
  split at hread
  case h_1 items _ _ =>
    rw [Source.setOf_eq, TermOf.setOf] at hread
    cases hvalidate : (TermOf.ofElements items).validate with
    | error fault =>
      rw [hvalidate] at hread
      cases hread
    | ok =>
      rw [hvalidate] at hread
      cases hread
      have hmay := TermOf.validate_eq_ok_iff.1 hvalidate
      exact hset _ hmay hmay.ordered_ofElements
  case h_2 => cases hread
  case h_3 => cases hread

theorem parses_term_of
    (hvariable : ∀ v, v ≠ "" → (∀ c ∈ v.toList, isVariableChar c = true) → good (.var v))
    (hscalar : ∀ t, t.kind ≠ .var → t.kind ≠ .set → good t)
    (hset : ∀ elements, (TermOf.set elements).MayBeRead → (TermOf.set elements).Ordered →
      good (.set elements)) : Parses term good :=
  .after fun _ => (parses_scalar hvariable hscalar).orElse (parses_set hset)

end

theorem parses_term : Parses term TermOf.MayBeRead := by
  refine parses_term_of (fun _ _ _ => nofun) (fun t _ hset => ?_) fun _ h _ => h
  rintro elements rfl
  exact absurd rfl hset

theorem parses_predicate_of {good : Source.Term → Prop} (hterm : Parses term good) :
    Parses predicate fun p => ∀ t ∈ p.terms, good t := by
  refine .after fun _ => .after fun head => .after fun _ => ?_
  refine (hterm.separated0 (Parser.sign ",")).bind fun terms hterms => ?_
  exact .after fun _ => parses_pure hterms

theorem parses_predicate : Parses predicate fun p => ∀ t ∈ p.terms, t.MayBeRead :=
  parses_predicate_of parses_term

theorem parses_fact_of {good : Source.Term → Prop} (hterm : Parses term good) :
    Parses fact fun p => ∀ t ∈ p.terms, good t :=
  fun _ _ _ hread => parses_predicate_of hterm _ _ _ (fact_eq_ok_iff.1 hread).1

theorem parses_fact : Parses fact fun p => ∀ t ∈ p.terms, t.MayBeRead :=
  parses_fact_of parses_term

/-- Whether the terms in an expression may be read. -/
def OperandsMayBeRead (ops : Source.Expression) : Prop :=
  ∀ op ∈ ops, ∀ t, op.term? = some t → t.MayBeRead

theorem OperandsMayBeRead.append {ops ops' : Source.Expression} (h : OperandsMayBeRead ops)
    (h' : OperandsMayBeRead ops') : OperandsMayBeRead (ops ++ ops') :=
  List.forall_mem_append.2 ⟨h, h'⟩

theorem operandsMayBeRead_unary (which : Unary) : OperandsMayBeRead [.unary which] := by
  simp [OperandsMayBeRead, OpOf.term?]

theorem operandsMayBeRead_binary (which : Binary) : OperandsMayBeRead [.binary which] := by
  simp [OperandsMayBeRead, OpOf.term?]

section

variable {inner operand : Parser Source.Expression}

theorem parses_chainTail {operator : Parser Binary} (hoperand : Parses operand OperandsMayBeRead)
    (count : Nat) {ops : Source.Expression} (hops : OperandsMayBeRead ops) :
    Parses (chainTail operand operator count ops) OperandsMayBeRead := by
  induction count generalizing ops with
  | zero => exact parses_pure hops
  | succ count ih =>
    intro text value rest hread
    rw [chainTail] at hread
    split at hread
    case h_1 =>
      cases hread
      exact hops
    case h_2 => cases hread
    case h_3 which _ _ =>
      split at hread
      case h_1 hright =>
        have hboth := hops.append (hoperand _ _ _ hright)
        exact ih (hboth.append (operandsMayBeRead_binary which)) _ _ _ hread
      case h_2 => exact hoperand _ _ _ hread

theorem parses_chain (operator : Parser Binary) (hoperand : Parses operand OperandsMayBeRead) :
    Parses (chain operand operator) OperandsMayBeRead := by
  intro text value rest hread
  rw [chain] at hread
  split at hread
  case h_1 hfirst => exact parses_chainTail hoperand _ (hoperand _ _ _ hfirst) _ _ _ hread
  case h_2 => exact hoperand _ _ _ hread

variable (hinner : Parses inner OperandsMayBeRead)
include hinner

theorem parses_primary : Parses (primary inner) OperandsMayBeRead := by
  refine .after fun _ => .orElse (.after fun _ => ?_) ?_
  · refine hinner.bind fun ops hops => ?_
    exact .after fun _ => parses_pure (hops.append (operandsMayBeRead_unary _))
  · refine parses_term.map fun t ht => ?_
    rintro op hop other hother
    cases List.mem_singleton.1 hop
    cases hother
    exact ht

theorem parses_methodCall : Parses (methodCall inner) OperandsMayBeRead := by
  refine .after fun _ => .after fun method => .after fun _ => ?_
  split
  case isTrue => exact .after fun _ => parses_pure (operandsMayBeRead_unary _)
  case isFalse =>
    split
    case h_1 => exact fun _ _ _ hread => nomatch hread
    case h_2 which _ =>
      refine hinner.bind fun argument hargument => ?_
      exact .after fun _ => parses_pure (hargument.append (operandsMayBeRead_binary which))

theorem parses_methodTail (count : Nat) {ops : Source.Expression} (hops : OperandsMayBeRead ops) :
    Parses (methodTail inner count ops) OperandsMayBeRead := by
  induction count generalizing ops with
  | zero => exact parses_pure hops
  | succ count ih =>
    intro text value rest hread
    rw [methodTail] at hread
    split at hread
    case h_1 hcall => exact ih (hops.append (parses_methodCall hinner _ _ _ hcall)) _ _ _ hread
    case h_2 =>
      cases hread
      exact hops
    case h_3 => cases hread

theorem parses_methods : Parses (methods inner) OperandsMayBeRead := by
  intro text value rest hread
  rw [methods] at hread
  split at hread
  case h_1 hfirst =>
    exact parses_methodTail hinner _ (parses_primary hinner _ _ _ hfirst) _ _ _ hread
  case h_2 => exact parses_primary hinner _ _ _ hread

theorem parses_negations (count : Nat) : Parses (negations inner count) OperandsMayBeRead := by
  induction count with
  | zero => exact parses_methods hinner
  | succ count ih =>
    intro text value rest hread
    rw [negations] at hread
    dsimp only at hread
    split at hread
    case h_1 =>
      split at hread
      case h_1 hnegated =>
        cases hread
        exact (ih _ _ _ hnegated).append (operandsMayBeRead_unary _)
      case h_2 => exact ih _ _ _ hread
    case h_2 => exact parses_methods hinner _ _ _ hread

theorem parses_disjunction : Parses (disjunction inner) OperandsMayBeRead := by
  have hnegation : Parses (negation inner) OperandsMayBeRead :=
    fun text => parses_negations hinner text.length text
  exact parses_chain _ (parses_chain _ (parses_chain _ (parses_chain _ (parses_chain _ hnegation))))

end

/-- Terms of expressions may be read, however deep they are nested. -/
theorem parses_expression : Parses expression OperandsMayBeRead := by
  have hnested (depth : Nat) : Parses (nestedExpression depth) OperandsMayBeRead := by
    induction depth with
    | zero => exact fun _ _ _ hread => nomatch hread
    | succ depth ih => exact parses_disjunction ih
  exact fun text => hnested (text.length + 1) text

theorem parses_body : Parses body fun parts =>
    (∀ p ∈ parts.1, ∀ t ∈ p.terms, t.MayBeRead) ∧ ∀ e ∈ parts.2, OperandsMayBeRead e := by
  have helement : Parses (Parser.orElse (do return .inl (← predicate))
      (do return .inr (← expression)) : Parser (Source.Predicate ⊕ Source.Expression))
      (Sum.elim (fun p => ∀ t ∈ p.terms, t.MayBeRead) OperandsMayBeRead) :=
    (parses_predicate.map fun _ h => h).orElse (parses_expression.map fun _ h => h)
  refine (helement.separated1 (Parser.sign ",")).map fun elements h => ⟨?_, ?_⟩
  · intro p hp
    obtain ⟨element, helement, hleft⟩ := List.mem_filterMap.1 hp
    cases element with
    | inl p' =>
      cases hleft
      exact h _ helement
    | inr e => cases hleft
  · intro e he
    obtain ⟨element, helement, hright⟩ := List.mem_filterMap.1 he
    cases element with
    | inl p => cases hright
    | inr e' =>
      cases hright
      exact h _ helement

theorem forall_mem_terms {head : Source.Predicate} {predicates : List Source.Predicate}
    {expressions : List Source.Expression} (hhead : ∀ t ∈ head.terms, t.MayBeRead)
    (hbody : ∀ p ∈ predicates, ∀ t ∈ p.terms, t.MayBeRead)
    (hexpressions : ∀ e ∈ expressions, OperandsMayBeRead e) :
    ∀ t ∈ (RuleOf.mk head predicates expressions).terms, t.MayBeRead := by
  intro t ht
  rcases List.mem_append.1 ht with ht | ht
  · obtain ⟨p, hp, ht⟩ := List.mem_flatMap.1 ht
    exact (List.forall_mem_cons.2 ⟨hhead, hbody⟩ : _) p hp t ht
  · obtain ⟨e, he, ht⟩ := List.mem_flatMap.1 ht
    obtain ⟨op, hop, hterm⟩ := List.mem_filterMap.1 ht
    exact hexpressions e he op hop t hterm

theorem parses_rule : Parses rule fun r => ∀ t ∈ r.terms, t.MayBeRead := by
  refine parses_predicate.bind fun head hhead => .after fun _ => ?_
  exact parses_body.map fun parts h => forall_mem_terms hhead h.1 h.2

theorem parses_queries : Parses queries fun queries =>
    ∀ query ∈ queries, ∀ t ∈ query.terms, t.MayBeRead :=
  (parses_body.map fun _ h => forall_mem_terms (List.forall_mem_nil _) h.1 h.2).separated1 _

theorem parses_query : Parses query fun r => ∀ t ∈ r.terms, t.MayBeRead := by
  refine .after fun _ => parses_body.map fun parts h => forall_mem_terms ?_ h.1 h.2
  intro t ht
  obtain ⟨v, -, rfl⟩ := List.mem_map.1 ht
  exact nofun

/-- Whether the terms in a statement may be read, each as a whole. -/
def StatementMayBeRead : Source.Statement → Prop
  | .fact fact => ∀ t ∈ fact.terms, t.MayBeRead
  | .rule rule => ∀ t ∈ rule.terms, t.MayBeRead
  | .check check => ∀ query ∈ check.queries, ∀ t ∈ query.terms, t.MayBeRead
  | .policy policy => ∀ query ∈ policy.queries, ∀ t ∈ query.terms, t.MayBeRead
  | .query rule => ∀ t ∈ rule.terms, t.MayBeRead

theorem parses_check : Parses check fun c => StatementMayBeRead (.check c) :=
  .after fun _ => .after fun _ => parses_queries.map fun _ h => h

theorem parses_policy : Parses policy fun p => StatementMayBeRead (.policy p) :=
  .after fun _ => .after fun _ => parses_queries.map fun _ h => h

theorem parses_statement : Parses statement StatementMayBeRead :=
  (parses_check.map fun _ h => h).orElse <| (parses_policy.map fun _ h => h).orElse <|
    (parses_query.map fun _ h => h).orElse <|
      (parses_rule.map fun _ h => h).orElse (parses_fact.map fun _ h => h)

theorem Parses.readWhole {p : Parser α} {good : α → Prop} (hp : Parses p good) {text : String}
    {value : α} (hread : Grammar.readWhole p text = .ok value) : good value := by
  rw [Grammar.readWhole] at hread
  split at hread
  case h_1 hvalue =>
    split at hread
    case isTrue =>
      cases hread
      exact hp _ _ _ hvalue
    case isFalse => cases hread
  case h_2 => cases hread
  case h_3 => cases hread

/-- What some text states, or what it states where it is known what kind of thing that is. -/
inductive Stated : Source.Statement → Prop
  | statement {text : String} {statement : Source.Statement}
      (h : readStatement text = .ok statement) : Stated statement
  | fact {text : String} {fact : Source.Fact} (h : readFact text = .ok fact) : Stated (.fact fact)
  | rule {text : String} {rule : Source.Rule} (h : readRule text = .ok rule) : Stated (.rule rule)
  | check {text : String} {check : Source.Check} (h : readCheck text = .ok check) :
      Stated (.check check)
  | policy {text : String} {policy : Source.Policy} (h : readPolicy text = .ok policy) :
      Stated (.policy policy)

theorem Stated.mayBeRead {statement : Source.Statement} (h : Stated statement) :
    StatementMayBeRead statement := by
  cases h with
  | statement h => exact parses_statement.readWhole h
  | fact h => exact parses_fact.readWhole h
  | rule h => exact parses_rule.readWhole h
  | check h => exact parses_check.readWhole h
  | policy h => exact parses_policy.readWhole h

end Warrant.Grammar
