import Warrant.Proofs.Readable

namespace Warrant

variable {V S : Type}

namespace TermOf

/-- What is wrong with an element of a set whose first element is of a given kind. -/
inductive ElementFault (first : Kind) : TermOf V S → TermError → Prop where
  | variable {t : TermOf V S} (h : t.kind = .var) : ElementFault first t .variableInSet
  | nested {t : TermOf V S} (h : t.kind = .set) : ElementFault first t .nestedSet
  | mixed {t : TermOf V S} (hvar : t.kind ≠ .var) (hset : t.kind ≠ .set) (h : t.kind ≠ first) :
    ElementFault first t .mixedSet

/-- What is wrong with a term: with the first element of a set that may not stand in it. -/
def HasFault (t : TermOf V S) (e : TermError) : Prop :=
  ∃ first rest, t = set (first :: rest) ∧ FirstFault (ElementFault first.kind) (first :: rest) e

/-- An element has one fault at most. -/
theorem ElementFault.eq {first : Kind} {t : TermOf V S} {e e' : TermError}
    (h : ElementFault first t e) (h' : ElementFault first t e') : e = e' := by
  cases h <;> cases h' <;> first | rfl | simp_all

theorem elementFault_some_eq_some_iff {first : Kind} {elements : List (TermOf V S)}
    {e : TermError} :
    elementFault (some first) elements = some e ↔
      FirstFault (ElementFault first) elements e := by
  induction elements with
  | nil => exact iff_of_false nofun not_firstFault_nil
  | cons t rest ih =>
    have hfound {e' : TermError} (h : ElementFault first t e') :
        some e' = some e ↔ FirstFault (ElementFault first) (t :: rest) e := by
      rw [firstFault_cons_iff, Option.some.injEq]
      constructor
      · rintro rfl
        exact .inl h
      · exact fun hfirst => hfirst.elim h.eq fun hnone => absurd h (hnone.1 e')
    rw [elementFault]
    split
    case h_1 hvar => exact hfound (.variable hvar)
    case h_2 hset => exact hfound (.nested hset)
    case h_3 hvar hset =>
      split
      case isTrue hkind =>
        obtain rfl : first = t.kind := hkind
        have hnone (e' : TermError) : ¬ElementFault t.kind t e' := by
          rintro (h | h | ⟨-, -, h⟩)
          · exact hvar h
          · exact hset h
          · exact h rfl
        rw [ih, firstFault_cons_iff]
        exact ⟨fun h => .inr ⟨hnone, h⟩, fun h => h.elim (fun h => absurd h (hnone e)) And.right⟩
      case isFalse hkind => exact hfound (.mixed hvar hset (Ne.symm hkind))

theorem validate_eq_error_iff {t : TermOf V S} {e : TermError} :
    t.validate = .error e ↔ t.HasFault e := by
  cases t with
  | set elements =>
    have hfault : (set elements).validate = .error e ↔ elementFault none elements = some e := by
      rw [validate]
      cases elementFault none elements <;> simp
    rw [hfault]
    cases elements with
    | nil =>
      constructor
      · intro h
        cases h
      · rintro ⟨_, _, h, _⟩
        cases h
    | cons first rest =>
      -- the first element sets the kind of the others and is of that kind itself
      have hfirst : elementFault none (first :: rest) =
          elementFault (some first.kind) (first :: rest) := by
        rw [elementFault, elementFault]
        cases first.kind <;> rfl
      rw [hfirst, elementFault_some_eq_some_iff]
      constructor
      · exact fun h => ⟨first, rest, rfl, h⟩
      · rintro ⟨_, _, ⟨⟩, h⟩
        exact h
  | _ =>
    constructor
    · intro h
      cases h
    · rintro ⟨_, _, h, _⟩
      cases h

end TermOf

theorem validateTerms_eq_error_iff {terms : List (TermOf V S)} {e : TermError} :
    validateTerms terms = .error e ↔ FirstFault TermOf.HasFault terms e :=
  forM_eq_error_iff fun _ _ => TermOf.validate_eq_error_iff

/-- What is wrong with a fact: that it has variables, or else its first set that may not be
    formed. -/
inductive PredicateOf.FactFault (fact : PredicateOf V S) : TermError → Prop where
  | variable (h : fact.isGround = false) : FactFault fact .variableInFact
  | term {e : TermError} (h : fact.isGround = true)
    (hterm : FirstFault TermOf.HasFault fact.terms e) : FactFault fact e

theorem PredicateOf.validateFact_eq_error_iff {fact : PredicateOf V S} {e : TermError} :
    fact.validateFact = .error e ↔ fact.FactFault e := by
  rw [validateFact]
  split
  case isTrue hground =>
    rw [validateTerms_eq_error_iff]
    refine ⟨.term hground, ?_⟩
    rintro (hopen | ⟨-, h⟩)
    · rw [hground] at hopen
      cases hopen
    · exact h
  case isFalse hground =>
    have hopen : fact.isGround = false := Bool.eq_false_iff.2 hground
    constructor
    · rintro ⟨⟩
      exact .variable hopen
    · rintro (- | ⟨h, -⟩)
      · rfl
      · exact absurd h hground

/-- What is wrong with a rule: its first set that may not be formed. -/
def RuleOf.HasFault (rule : RuleOf V S) (e : TermError) : Prop :=
  FirstFault TermOf.HasFault rule.terms e

theorem RuleOf.validate_eq_error_iff {rule : RuleOf V S} {e : TermError} :
    rule.validate = .error e ↔ rule.HasFault e := by
  have hloop : rule.validate = validateTerms rule.terms :=
    (List.forM_append).symm
  rw [hloop, validateTerms_eq_error_iff]
  rfl

namespace Block

/-- What is wrong with a block: its first fact that has a fault or, where no fact has one, its
    first rule or query that does. -/
def HasFault (block : Block) (e : TermError) : Prop :=
  FirstFault PredicateOf.FactFault block.facts e ∨
    (∀ e', ¬FirstFault PredicateOf.FactFault block.facts e') ∧
      FirstFault RuleOf.HasFault block.queries e

theorem validate_eq_error_iff {block : Block} {e : TermError} :
    block.validate = .error e ↔ block.HasFault e := by
  have hqueries : block.queries.forM RuleOf.validate =
      block.rules.forM RuleOf.validate >>= fun _ => block.checks.forM CheckOf.validate :=
    List.forM_append.trans (congrArg _ (funext fun _ => forM_flatMap _ _ _))
  have hloops : block.validate = block.facts.forM PredicateOf.validateFact >>=
      fun _ => block.queries.forM RuleOf.validate := by
    rw [hqueries]
    rfl
  have hfacts {e : TermError} : block.facts.forM PredicateOf.validateFact = .error e ↔
      FirstFault PredicateOf.FactFault block.facts e :=
    forM_eq_error_iff fun _ _ => PredicateOf.validateFact_eq_error_iff
  have hrules : block.queries.forM RuleOf.validate = .error e ↔
      FirstFault RuleOf.HasFault block.queries e :=
    forM_eq_error_iff fun _ _ => RuleOf.validate_eq_error_iff
  rw [hloops, bind_eq_error_iff, eq_ok_iff_forall_ne_error, hrules]
  simp only [ne_eq, hfacts]
  rfl

end Block

end Warrant
