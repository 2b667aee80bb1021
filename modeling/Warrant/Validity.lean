import Warrant.Rule

namespace Warrant

variable {V S : Type}

/-- Every set among some terms is one that may be formed. -/
def validateTerms (terms : List (TermOf V S)) : Except TermError Unit :=
  terms.forM TermOf.validate

/-- A fact has no variables, and its sets may be formed. -/
def PredicateOf.validateFact (fact : PredicateOf V S) : Except TermError Unit :=
  if fact.isGround then validateTerms fact.terms else .error .variableInFact

/-- The term that an operation pushes, if it pushes one. -/
def OpOf.term? : OpOf V S → Option (TermOf V S)
  | .value term => some term
  | _ => none

namespace RuleOf

/-- The arguments in the head and in the body of a rule. -/
def arguments (rule : RuleOf V S) : List (TermOf V S) :=
  (rule.head :: rule.body).flatMap PredicateOf.terms

/-- The terms in the constraints of a rule. -/
def operands (rule : RuleOf V S) : List (TermOf V S) :=
  rule.expressions.flatMap fun e => e.filterMap OpOf.term?

/-- The sets of a rule may be formed. -/
def validate (rule : RuleOf V S) : Except TermError Unit := do
  validateTerms rule.arguments
  validateTerms rule.operands

end RuleOf

def CheckOf.validate (check : CheckOf V S) : Except TermError Unit :=
  check.queries.forM RuleOf.validate

def PolicyOf.validate (policy : PolicyOf V S) : Except TermError Unit :=
  policy.queries.forM RuleOf.validate

end Warrant
