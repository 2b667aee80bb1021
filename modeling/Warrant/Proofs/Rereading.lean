import Warrant.Proofs.Expressions
import Warrant.Proofs.Heads

namespace Warrant

/-- Whether a predicate is read from what is written of it. -/
structure PredicateOf.Writable (p : Source.Predicate) : Prop where
  name : Grammar.IsName p.name
  terms : ∀ t ∈ p.terms, t.Writable

/-- Whether the body of a rule is read from what is written of it: it is not empty, and its
    constraints are operations of trees. -/
structure RuleOf.BodyWritable (r : Source.Rule) : Prop where
  body : ∀ p ∈ r.body, p.Writable
  expressions : ∀ e ∈ r.expressions,
    ∃ tree : Tree Source.Term, tree.Fits TermOf.Writable 6 ∧ tree.operations = e
  some : r.body ≠ [] ∨ r.expressions ≠ []

/-- Whether some queries are read from what is written of them: there is one, and their heads are
    those that queries get. -/
structure QueriesWritable (queries : List Source.Rule) : Prop where
  some : queries ≠ []
  head : ∀ query ∈ queries, query.head = ⟨"query", []⟩
  body : ∀ query ∈ queries, query.BodyWritable

namespace Grammar

open Warrant.Grammar.Parser

variable {symbols : SymbolTable}

theorem toList_render_predicate (p : Predicate) : (p.render symbols).toList =
    (symbols.name p.name).toList ++
      '(' :: (", ".toList.intercalate (p.terms.map fun t => (t.render symbols).toList) ++
        [')']) := by
  rw [PredicateOf.render, commaSeparated]
  simp only [String.toList_append, String.toList_intercalate, List.map_map, List.append_assoc]
  rfl

/-- A predicate is read whatever comes after it. -/
theorem predicate_render {p : Predicate} (h : (p.resolve symbols).Writable) :
    predicate.Reads (fun _ => True) (p.render symbols).toList (p.resolve symbols) := by
  intro pad rest hpad _
  obtain ⟨hname, hterms⟩ := h
  rw [PredicateOf.resolve_eq] at hname hterms ⊢
  have htext : (p.render symbols).toList ++ rest = (symbols.name p.name).toList ++
      '(' :: (", ".toList.intercalate (p.terms.map fun t => (t.render symbols).toList) ++
        ')' :: rest) := by
    rw [toList_render_predicate]
    simp
  have hitems : separated0 (sign ",") term
      (", ".toList.intercalate (p.terms.map fun t => (t.render symbols).toList) ++ ')' :: rest) =
        .ok (p.terms.map (TermOf.resolve symbols)) (')' :: rest) := by
    have hterm (t : Term) (ht : t ∈ p.terms) := term_render (hterms _ (List.mem_map_of_mem ht))
    refine separated0_append (fun rest => ?_) (fun rest => rfl) hterm (by decide) ?_ ⟨_, _, rfl⟩
      (term_mismatches (by decide) rest)
    · simp [Ends, isSpacing]
    · simp [Ends, isSpacing]
  have hargs : Arguments ('(' :: (", ".toList.intercalate (p.terms.map fun t =>
      (t.render symbols).toList) ++ ')' :: rest)) (p.terms.map (TermOf.resolve symbols)) rest :=
    ⟨_, _, rfl, hitems, rfl⟩
  rw [htext]
  exact predicate_eq_ok_iff.2 ⟨_, dropWhile_append (hname.head_eq_false _) hpad, hname, hargs⟩

/-- No printed expression is read as a predicate. -/
theorem predicate_mismatches_text {α : Type} {print : α → String} {tree : Tree α} {level : Nat}
    {good : α → Prop} (hgood : ∀ a, good a → Opens (print a).toList) (h : tree.Fits good level)
    {pad rest : List Char} (hpad : ∀ c ∈ pad, isSpacing c = true) (hrest : Ends rest) :
    predicate.Mismatches (pad ++ ((tree.text print).toList ++ rest)) := by
  induction h generalizing rest with
  | value h => exact (hgood _ h).predicate_mismatches hpad hrest
  | parens _ _ =>
    rw [Tree.toList_text_parens]
    exact predicate_mismatches_of_head (by decide) (by decide) _ hpad
  | negate _ _ =>
    rw [Tree.toList_text_negate]
    exact predicate_mismatches_of_head (by decide) (by decide) _ hpad
  | length _ ih =>
    rw [Tree.toList_text_length, List.append_assoc]
    exact ih (by simp [Ends, isSpacing])
  | method hmethod _ _ ih _ =>
    obtain ⟨name, -, -, -, hrender⟩ := Binary.exists_method hmethod
    rw [Tree.toList_text_method hrender, List.append_assoc]
    exact ih (by simp [Ends, isSpacing])
  | operator hlevel _ _ ih _ =>
    obtain ⟨mark, hmark, hmem, -⟩ := exists_sign hlevel
    rw [Tree.toList_text_operator hmark, List.append_assoc, List.cons_append, List.append_assoc]
    exact ih (stops_operator hmem _).1
  | tighter _ ih => exact ih hrest

theorem stops_comma (rest : List Char) : Stops 6 (", ".toList ++ rest) := by
  simp [Stops, Ends, Halts, isSpacing, opener?]

theorem stops_or (rest : List Char) : Stops 6 (" or ".toList ++ rest) := by
  simp [Stops, Ends, Halts, isSpacing, opener?]

/-- The predicates and then the constraints of a body. -/
def elements {V S : Type} (r : RuleOf V S) : List (PredicateOf V S ⊕ ExpressionOf V S) :=
  r.body.map .inl ++ r.expressions.map .inr

theorem toList_renderBody (r : Rule) : (r.renderBody symbols).toList =
    ", ".toList.intercalate ((elements r).map (String.toList ∘
      Sum.elim (PredicateOf.render symbols) (renderExpression symbols))) := by
  rw [RuleOf.renderBody, commaSeparated, String.toList_intercalate, elements]
  simp [Function.comp_def]

/-- A constraint is read as a constraint, since it could not be a predicate. -/
theorem constraint_render {tree : Tree Source.Term} (h : tree.Fits TermOf.Writable 6)
    {e : Expression} (he : e.map (OpOf.resolve symbols) = tree.operations) {pad rest : List Char}
    (hpad : ∀ c ∈ pad, isSpacing c = true) (hrest : Stops 6 rest) :
    predicate.Mismatches (pad ++ ((renderExpression symbols e).toList ++ rest)) ∧
      expression (pad ++ ((renderExpression symbols e).toList ++ rest)) =
        .ok (e.map (OpOf.resolve symbols)) rest := by
  obtain ⟨t, rfl, rfl⟩ := Tree.exists_of_map_eq_operations he
  have hfits := h.of_map
  rw [he, renderExpression, Tree.renderInfix?_operations]
  refine ⟨?_, reads_expression reads_render hfits pad rest hpad hrest⟩
  exact predicate_mismatches_text (fun a ha => (reads_render a ha).1) hfits hpad hrest.1

/-- A body is read from what is written of it. -/
theorem body_render {r : Rule} (h : (r.resolve symbols).BodyWritable) :
    body.Reads (fun rest => Stops 6 rest ∧ (sign ",").Mismatches rest) (r.renderBody symbols).toList
      ((r.resolve symbols).body, (r.resolve symbols).expressions) := by
  obtain ⟨hbody, hexpressions, hsome⟩ := h
  rw [RuleOf.resolve_eq] at hbody hexpressions hsome ⊢
  have helement : ∀ x ∈ elements r, Parser.Reads
      (Parser.orElse (do return .inl (← predicate)) (do return .inr (← expression))) (Stops 6)
      ((String.toList ∘ Sum.elim (PredicateOf.render symbols) (renderExpression symbols)) x)
      (Sum.map (PredicateOf.resolve symbols) (List.map (OpOf.resolve symbols)) x) := by
    intro x hx pad rest hpad hrest
    rcases List.mem_append.1 hx with hx | hx
    · obtain ⟨p, hp, rfl⟩ := List.mem_map.1 hx
      have hread := predicate_render (hbody _ (List.mem_map_of_mem hp)) pad rest hpad trivial
      exact orElse_of_ok (bind_of_ok hread)
    · obtain ⟨e, he, rfl⟩ := List.mem_map.1 hx
      obtain ⟨tree, hfits, htree⟩ := hexpressions _ (List.mem_map_of_mem he)
      obtain ⟨hmismatch, hread⟩ := constraint_render hfits htree.symm hpad hrest
      exact hmismatch.bind.orElse_eq.trans (bind_of_ok hread)
  have hne : elements r ≠ [] := by
    simpa [elements, or_iff_not_imp_left] using hsome
  have hleft : ((elements r).map (Sum.map (PredicateOf.resolve symbols)
      (List.map (OpOf.resolve symbols)))).filterMap Sum.getLeft? =
        r.body.map (PredicateOf.resolve symbols) := by
    simp [elements, Function.comp_def]
  have hright : ((elements r).map (Sum.map (PredicateOf.resolve symbols)
      (List.map (OpOf.resolve symbols)))).filterMap Sum.getRight? =
        r.expressions.map (List.map (OpOf.resolve symbols)) := by
    simp [elements, Function.comp_def]
  intro pad rest hpad hrest
  have hread := Reads.separated1 stops_comma (fun rest => rfl) helement hne (by decide) pad rest
    hpad hrest
  rw [toList_renderBody, body]
  refine (bind_of_ok hread).trans ?_
  rw [hleft, hright]
  rfl

theorem rule_render {r : Rule} (hhead : (r.resolve symbols).head.Writable)
    (hbody : (r.resolve symbols).BodyWritable) :
    rule (r.render symbols).toList = .ok (r.resolve symbols) [] := by
  have hread := body_render hbody [' '] [] (by simp [isSpacing]) ⟨stops_nil 6, _, _, rfl⟩
  rw [RuleOf.resolve_eq] at hhead hread ⊢
  have htext : (r.render symbols).toList = [] ++ ((r.head.render symbols).toList ++
      ' ' :: '<' :: '-' :: ([' '] ++ ((r.renderBody symbols).toList ++ []))) := by
    simp [RuleOf.render]
  rw [htext, rule]
  refine (bind_of_ok (predicate_render hhead [] _ (List.forall_mem_nil _) trivial)).trans ?_
  refine (bind_of_ok (rfl : sign "<-" _ = .ok () _)).trans ?_
  exact bind_of_ok hread

theorem queries_render {rs : List Rule} (h : QueriesWritable (rs.map (RuleOf.resolve symbols))) :
    queries (' ' :: (renderQueries symbols rs).toList) =
      .ok (rs.map (RuleOf.resolve symbols)) [] := by
  obtain ⟨hsome, hheads, hbodies⟩ := h
  have hquery : ∀ r ∈ rs, Parser.Reads (do
      let parts ← body
      return (⟨⟨"query", []⟩, parts.1, parts.2⟩ : Source.Rule))
      (fun rest => Stops 6 rest ∧ (sign ",").Mismatches rest)
      (r.renderBody symbols).toList (r.resolve symbols) := by
    intro r hr pad rest hpad hrest
    have hmem := List.mem_map_of_mem (f := RuleOf.resolve symbols) hr
    have hread := body_render (hbodies _ hmem) pad rest hpad hrest
    refine (bind_of_ok hread).trans ?_
    rw [← hheads _ hmem]
    rfl
  have hafter (rest : List Char) : Stops 6 (" or ".toList ++ rest) ∧
      (sign ",").Mismatches (" or ".toList ++ rest) := ⟨stops_or rest, _, _, rfl⟩
  have hglue (rest : List Char) : sign "or" (" or ".toList ++ rest) = .ok () (' ' :: rest) := rfl
  have hne : rs ≠ [] := fun h => hsome (by rw [h, List.map_nil])
  have hread := Reads.separated1 hafter hglue hquery hne (by decide) [' '] [] (by simp [isSpacing])
    ⟨⟨stops_nil 6, _, _, rfl⟩, _, _, rfl⟩
  rw [renderQueries, String.toList_intercalate, List.map_map]
  rw [List.append_nil] at hread
  exact hread

theorem check_render {c : Check} (h : QueriesWritable (c.queries.map (RuleOf.resolve symbols))) :
    check (c.render symbols).toList = .ok ⟨c.queries.map (RuleOf.resolve symbols)⟩ [] := by
  have htext : (c.render symbols).toList = "check".toList ++
      ' ' :: ("if".toList ++ ' ' :: (renderQueries symbols c.queries).toList) := by
    simp [CheckOf.render]
  rw [htext, check]
  refine (bind_of_ok (rfl : sign "check" _ = .ok () _)).trans ?_
  refine (bind_of_ok (rfl : sign "if" _ = .ok () _)).trans ?_
  exact bind_of_ok (queries_render h)

theorem policy_render {p : Policy} (h : QueriesWritable (p.queries.map (RuleOf.resolve symbols))) :
    policy (p.render symbols).toList = .ok ⟨p.queries.map (RuleOf.resolve symbols), p.kind⟩ [] := by
  have htext : (p.render symbols).toList = p.kind.word.toList ++
      ' ' :: ("if".toList ++ ' ' :: (renderQueries symbols p.queries).toList) := by
    simp [PolicyOf.render]
  have hkind (rest : List Char) : Parser.orElse (do sign "allow"; return PolicyKind.allow)
      (do sign "deny"; return PolicyKind.deny) (p.kind.word.toList ++ ' ' :: rest) =
        .ok p.kind (' ' :: rest) := by
    cases p.kind <;> rfl
  rw [htext, policy]
  refine (bind_of_ok (hkind _)).trans ?_
  refine (bind_of_ok (rfl : sign "if" _ = .ok () _)).trans ?_
  exact bind_of_ok (queries_render h)

end Grammar

/-- What is written of a rule is all of it. -/
theorem RuleOf.BodyWritable.of_mem_terms {r : Source.Rule} (hhead : r.head.Writable)
    (h : r.BodyWritable) {t : Source.Term} (ht : t ∈ r.terms) : t.Writable := by
  rcases List.mem_append.1 ht with ht | ht
  · obtain ⟨p, hp, ht⟩ := List.mem_flatMap.1 ht
    rcases List.mem_cons.1 hp with rfl | hp
    · exact hhead.terms t ht
    · exact (h.body p hp).terms t ht
  · obtain ⟨e, he, ht⟩ := List.mem_flatMap.1 ht
    obtain ⟨op, hop, hterm⟩ := List.mem_filterMap.1 ht
    obtain ⟨tree, hfits, rfl⟩ := h.expressions e he
    exact hfits.of_mem_operations hop hterm

theorem QueriesWritable.ordered {queries : List Source.Rule} (h : QueriesWritable queries) :
    ∀ query ∈ queries, ∀ t ∈ query.terms, t.Ordered := by
  intro query hquery t ht
  have hhead : query.head.Writable := by
    rw [h.head query hquery]
    exact ⟨⟨'q', "uery".toList, rfl, by decide, by decide⟩, nofun⟩
  exact ((h.body query hquery).of_mem_terms hhead ht).ordered

namespace Grammar

/-- Rules, checks and policies that are interned in any table and printed are read as what they
    were, as long as the positions of their variables have 32 bits. -/
theorem statements_reread (symbols : SymbolTable) :
    (∀ r : Source.Rule, r.head.Writable → r.BodyWritable →
      ((RuleOf.intern r).run symbols).2.size ≤ UInt32.size →
        readRule (RuleOf.render ((RuleOf.intern r).run symbols).2
          ((RuleOf.intern r).run symbols).1) = .ok r) ∧
    (∀ c : Source.Check, QueriesWritable c.queries →
      ((CheckOf.intern c).run symbols).2.size ≤ UInt32.size →
        readCheck (CheckOf.render ((CheckOf.intern c).run symbols).2
          ((CheckOf.intern c).run symbols).1) = .ok c) ∧
    ∀ p : Source.Policy, QueriesWritable p.queries →
      ((PolicyOf.intern p).run symbols).2.size ≤ UInt32.size →
        readPolicy (PolicyOf.render ((PolicyOf.intern p).run symbols).2
          ((PolicyOf.intern p).run symbols).1) = .ok p := by
  refine ⟨fun r hhead hbody hsize => ?_, fun c hqueries hsize => ?_, fun p hqueries hsize => ?_⟩
  · have hordered : ∀ t ∈ r.terms, t.Ordered := fun t ht => (hbody.of_mem_terms hhead ht).ordered
    have hresolve := (RuleOf.leaves_intern hordered).run hsize
    rw [← hresolve] at hhead hbody
    have hread := rule_render hhead hbody
    rw [hresolve] at hread
    exact readWhole_eq_ok_iff.2 ⟨[], hread, rfl⟩
  · have hresolve := (CheckOf.leaves_intern hqueries.ordered).run hsize
    rw [← hresolve] at hqueries
    have hread := check_render hqueries
    rw [hresolve] at hread
    exact readWhole_eq_ok_iff.2 ⟨[], hread, rfl⟩
  · obtain ⟨hresolve, hkind⟩ := (PolicyOf.leaves_intern hqueries.ordered).run hsize
    rw [← hresolve] at hqueries
    have hread := policy_render hqueries
    rw [hresolve, hkind] at hread
    exact readWhole_eq_ok_iff.2 ⟨[], hread, rfl⟩

/-- The query `owner($x), ![1].contains($x) || -1 < (2 + 3) * "a".length()`. -/
def mixedQuery : Source.Rule :=
  ⟨⟨"query", []⟩, [⟨"owner", [.var "x"]⟩], [mixedTree.operations]⟩

/-- The rule that concludes from the query what its variable may do. -/
def mixedRule : Source.Rule := { mixedQuery with head := ⟨"allowed", [.var "x"]⟩ }

theorem writable_variable : (TermOf.var "x" : Source.Term).Writable := by
  refine ⟨?_, trivial, nofun, trivial, nofun⟩
  rintro _ ⟨⟩
  decide

theorem bodyWritable_mixedQuery : mixedQuery.BodyWritable := by
  refine ⟨fun p hp => ?_, fun e he => ?_, .inl (by simp [mixedQuery])⟩
  · obtain rfl := List.mem_singleton.1 hp
    refine ⟨⟨'o', "wner".toList, rfl, by decide, by decide⟩, fun t ht => ?_⟩
    obtain rfl := List.mem_singleton.1 ht
    exact writable_variable
  · obtain rfl := List.mem_singleton.1 he
    exact ⟨mixedTree, fits_mixedTree.imp fun _ ht => ht.writable, rfl⟩

theorem queriesWritable_mixedQuery : QueriesWritable [mixedQuery, mixedQuery] where
  some := by simp
  head := by simp [mixedQuery]
  body := by simp [bodyWritable_mixedQuery]

theorem mixedQuery_statements_reread :
    readRule (RuleOf.render ((RuleOf.intern mixedRule).run .standard).2
      ((RuleOf.intern mixedRule).run .standard).1) = .ok mixedRule ∧
    readCheck (CheckOf.render ((CheckOf.intern ⟨[mixedQuery, mixedQuery]⟩).run .standard).2
      ((CheckOf.intern ⟨[mixedQuery, mixedQuery]⟩).run .standard).1) =
        .ok ⟨[mixedQuery, mixedQuery]⟩ ∧
    readPolicy (PolicyOf.render
      ((PolicyOf.intern ⟨[mixedQuery, mixedQuery], .deny⟩).run .standard).2
      ((PolicyOf.intern ⟨[mixedQuery, mixedQuery], .deny⟩).run .standard).1) =
        .ok ⟨[mixedQuery, mixedQuery], .deny⟩ := by
  obtain ⟨hrule, hcheck, hpolicy⟩ := statements_reread .standard
  have hhead : mixedRule.head.Writable := by
    refine ⟨⟨'a', "llowed".toList, rfl, by decide, by decide⟩, fun t ht => ?_⟩
    obtain rfl := List.mem_singleton.1 ht
    exact writable_variable
  have hbody : mixedRule.BodyWritable := by
    obtain ⟨hpredicates, hexpressions, hsome⟩ := bodyWritable_mixedQuery
    exact ⟨hpredicates, hexpressions, hsome⟩
  exact ⟨hrule mixedRule hhead hbody (by decide), hcheck _ queriesWritable_mixedQuery (by decide),
    hpolicy _ queriesWritable_mixedQuery (by decide)⟩

end Grammar

end Warrant
