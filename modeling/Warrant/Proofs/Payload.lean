import Warrant.Proofs.Codec
import Warrant.Validity

namespace Warrant

variable {V S : Type}

/-- The terms of a rule in the order in which they are looked at. -/
def RuleOf.terms (rule : RuleOf V S) : List (TermOf V S) := rule.arguments ++ rule.operands

namespace Block

/-- The rules of a block and the queries of its checks. -/
def queries (block : Block) : List Rule := block.rules ++ block.checks.flatMap CheckOf.queries

/-- The terms that a block contains, each as a whole. -/
def terms (block : Block) : List Term :=
  block.facts.flatMap PredicateOf.terms ++ block.queries.flatMap RuleOf.terms

end Block

namespace Wire

variable {α : Type}

theorem encodeTerms_eq (ts : List Term) : encodeTerms ts = ts.flatMap encodeTerm := by
  induction ts with
  | nil => rfl
  | cons t ts ih => rw [encodeTerms, ih, List.flatMap_cons]

theorem encodeTerm_set (elements : List Term) :
    encodeTerm (.set elements) = encodeVariant 6 ++ encodeList encodeTerm elements := by
  rw [encodeTerm, encodeTerms_eq, List.append_assoc, encodeList]

theorem length_encodeTerm_lt {t : Term} {elements : List Term} (h : t ∈ elements) :
    (encodeTerm t).length < (encodeTerm (.set elements)).length := by
  have hle : (encodeTerm t).length ≤ (elements.flatMap encodeTerm).length :=
    length_le_length_flatMap h
  rw [encodeTerm_set, encodeList, List.length_append, List.length_append, length_encodeVariant]
  omega

/-- A depth is enough for a term that takes no more bytes. -/
theorem reads_termWithin {depth : Nat} {t : Term} (hordered : t.Ordered)
    (hdepth : (encodeTerm t).length ≤ depth) : Reads (termWithin depth) (encodeTerm t) t := by
  induction depth generalizing t with
  | zero => cases t <;> simp [encodeTerm, encodeVariant] at hdepth
  | succ depth ih =>
    have hvariant {n : Nat} (h : n < 7) : Reads (variant 7) (encodeVariant n) n :=
      reads_variant h (by decide)
    cases t with
    | var v => exact (hvariant (by decide)).bind (reads_word32 v).map
    | integer i =>
      have hread := (reads_word64 i.toUInt64).map (f := fun n => (.integer n.toInt64 : Term))
      exact (hvariant (by decide)).bind hread
    | str s => exact (hvariant (by decide)).bind (reads_word64 s).map
    | date d => exact (hvariant (by decide)).bind (reads_word64 d).map
    | bytes b => exact (hvariant (by decide)).bind (reads_bytes b).map
    | bool b => exact (hvariant (by decide)).bind (reads_bool b).map
    | set elements =>
      have helements (e : Term) (he : e ∈ elements) :
          Reads (termWithin depth) (encodeTerm e) e := by
        have hlength := length_encodeTerm_lt he
        exact ih (TermOf.allOrdered_iff.1 hordered.2 e he) (by omega)
      have hread := (reads_list helements).map (f := TermOf.ofElements)
      rw [TermOf.ofElements_of_ordered hordered] at hread
      rw [encodeTerm_set]
      exact (hvariant (by decide)).bind hread

theorem reads_term {t : Term} (h : t.Ordered) : Reads term (encodeTerm t) t := by
  refine ⟨(reads_termWithin h (Nat.le_refl _)).1, fun hlength rest => ?_⟩
  have hdepth : (encodeTerm t).length ≤ (encodeTerm t ++ rest).length + 1 := by
    rw [List.length_append]
    omega
  exact (reads_termWithin h hdepth).2 hlength rest

theorem reads_choice [DecidableEq α] {choices : List α} {x : α} (h : x ∈ choices)
    (hcount : choices.length ≤ 256) :
    Reads (choice choices) (encodeVariant (choices.idxOf x)) x := by
  have hlt := List.idxOf_lt_length_of_mem h
  refine (reads_variant hlt hcount).andThen fun rest => ?_
  rw [List.getElem?_eq_getElem hlt, List.getElem_idxOf]
  rfl

theorem mem_unaryCodes (which : Unary) : which ∈ unaryCodes := by
  cases which <;> decide

theorem mem_binaryCodes (which : Binary) : which ∈ binaryCodes := by
  cases which <;> decide

theorem reads_op {op : Op} (h : ∀ t, op.term? = some t → t.Ordered) :
    Reads Wire.op (encodeOp op) op := by
  have hvariant {n : Nat} (h : n < 3) : Reads (variant 3) (encodeVariant n) n :=
    reads_variant h (by decide)
  cases op with
  | value t => exact (hvariant (by decide)).bind (reads_term (h t rfl)).map
  | unary which =>
    exact (hvariant (by decide)).bind (reads_choice (mem_unaryCodes which) (by decide)).map
  | binary which =>
    exact (hvariant (by decide)).bind (reads_choice (mem_binaryCodes which) (by decide)).map

theorem reads_predicate {p : Predicate} (h : ∀ t ∈ p.terms, t.Ordered) :
    Reads predicate (encodePredicate p) p :=
  (reads_word64 p.name).bind (reads_list fun t ht => reads_term (h t ht)).map

theorem reads_rule {r : Rule} (h : ∀ t ∈ r.terms, t.Ordered) : Reads rule (encodeRule r) r := by
  have harguments (p : Predicate) (hp : p ∈ r.head :: r.body) :
      Reads predicate (encodePredicate p) p :=
    reads_predicate fun t ht =>
      h t (List.mem_append_left _ (List.mem_flatMap.2 ⟨p, hp, ht⟩))
  have hexpression (e : Expression) (he : e ∈ r.expressions) :
      Reads expression (encodeExpression e) e :=
    reads_list fun op hop => reads_op fun t ht =>
      h t (List.mem_append_right _ (List.mem_flatMap.2 ⟨e, he, List.mem_filterMap.2 ⟨op, hop, ht⟩⟩))
  rw [encodeRule, List.append_assoc]
  refine (harguments r.head List.mem_cons_self).bind (Reads.bind ?_ (reads_list hexpression).map)
  exact reads_list fun p hp => harguments p (List.mem_cons_of_mem _ hp)

theorem reads_check {c : Check} (h : ∀ query ∈ c.queries, ∀ t ∈ query.terms, t.Ordered) :
    Reads check (encodeCheck c) c :=
  (reads_list fun query hquery => reads_rule (h query hquery)).map

/-- A block is read from its bytes where the elements of its sets are in order. -/
theorem reads_block {b : Block} (h : ∀ t ∈ b.terms, t.Ordered) :
    Reads block (encodeBlock b) b := by
  have hfact (fact : Fact) (hmem : fact ∈ b.facts) : Reads predicate (encodePredicate fact) fact :=
    reads_predicate fun t ht =>
      h t (List.mem_append_left _ (List.mem_flatMap.2 ⟨fact, hmem, ht⟩))
  have hqueries (query : Rule) (hmem : query ∈ b.queries) (t : Term) (ht : t ∈ query.terms) :
      t.Ordered :=
    h t (List.mem_append_right _ (List.mem_flatMap.2 ⟨query, hmem, ht⟩))
  have hrule (r : Rule) (hmem : r ∈ b.rules) : Reads rule (encodeRule r) r :=
    reads_rule (hqueries r (List.mem_append_left _ hmem))
  have hcheck (c : Check) (hmem : c ∈ b.checks) : Reads check (encodeCheck c) c :=
    reads_check fun query hquery =>
      hqueries query (List.mem_append_right _ (List.mem_flatMap.2 ⟨c, hmem, hquery⟩))
  have hcontext : Reads (option string) (encodeOption encodeString b.context) b.context :=
    reads_option fun text _ => reads_string text
  have hread : Reads (do return ⟨.ofList b.symbols.names, b.facts, b.rules, b.checks,
      ← option string, b.version⟩) (encodeOption encodeString b.context) b := by
    rw [SymbolTable.ofList_names]
    exact hcontext.map
  simp only [encodeBlock, List.append_assoc, block]
  refine (reads_word32 b.version).bind (Reads.bind (reads_list fun s _ => reads_string s) ?_)
  exact (reads_list hfact).bind ((reads_list hrule).bind ((reads_list hcheck).bind hread))

end Wire

end Warrant
