import Warrant.Proofs.Decision
import Warrant.Proofs.Execution

namespace Warrant.Verification

/-- What becomes of a step that finds a value and changes nothing but the clock: the value, or
    the end of time. -/
inductive Observes {α : Type} (p : Progress) (value : α) : Except Error α × Progress → Prop where
  | found {clock : Clock} (hclock : p.clock.readings = none → clock = p.clock) :
      Observes p value (.ok value, { p with clock := clock })
  | late {clock : Clock} (hclock : p.clock.readings ≠ none) :
      Observes p value (.error (.runLimit .timeout), { p with clock := clock })

namespace Observes

variable {α β : Type} {p : Progress}

theorem of_pure (a : α) : Observes p a (execute (pure a) p) := .found fun _ => rfl

/-- What is found from an observed value is observed. -/
theorem bind {x : Verification α} {f : α → Verification β} {a : α} {b : β}
    (hx : Observes p a (execute x p))
    (hf : ∀ clock, Observes { p with clock := clock } b (execute (f a) { p with clock := clock })) :
    Observes p b (execute (x >>= f) p) := by
  rw [execute_bind]
  generalize execute x p = result at hx
  cases hx with
  | @late clock hclock => exact .late hclock
  | @found clock hclock =>
    have h := hf clock
    dsimp only
    generalize execute (f a) { p with clock := clock } = result at h
    cases h with
    | found hclock' =>
      refine .found fun hendless => ?_
      have hsame := hclock hendless
      rw [hclock' (by rw [hsame]; exact hendless)]
      exact hsame
    | late hclock' =>
      refine .late fun hendless => hclock' ?_
      rw [hclock hendless]
      exact hendless

/-- What holds of every end that a step can come to after an observation, and of the end of time,
    holds of the end it comes to. -/
theorem bind_cases {x : Verification α} {a : α} {f : α → Verification β}
    {motive : Except Error β × Progress → Prop} (hx : Observes p a (execute x p))
    (hfound : ∀ clock, motive (execute (f a) { p with clock := clock }))
    (hlate : ∀ clock, motive (.error (.runLimit .timeout), { p with clock := clock })) :
    motive (execute (x >>= f) p) := by
  rw [execute_bind]
  generalize execute x p = result at hx
  cases hx with
  | found _ => exact hfound _
  | late _ => exact hlate _

end Observes

theorem observes_readClock (p : Progress) : Observes p () (execute readClock p) := by
  cases hread : p.clock.read with
  | error cause =>
    have hrun : execute readClock p = (.error (.runLimit cause), p) := by
      rw [readClock, execute_bind_ok (execute_get p)]
      simp only [hread]
      rfl
    obtain ⟨rfl, hlate⟩ := Clock.read_eq_error hread
    rw [hrun]
    exact @Observes.late _ p () p.clock hlate
  | ok clock =>
    have hrun : execute readClock p = (.ok (), { p with clock := clock }) := by
      rw [readClock, execute_bind_ok (execute_get p)]
      simp only [hread]
      rfl
    rw [hrun]
    exact .found fun hendless => Clock.read_eq_ok hread hendless

open Classical

/-- The facts of the world as a set. -/
abbrev known (p : Progress) : Set Fact := p.world.facts.toSet

theorem observes_anyMatches (p : Progress) (queries : List Rule) :
    Observes p (decide (Passes p.symbols (known p) queries)) (execute (anyMatches queries) p) := by
  induction queries generalizing p with
  | nil =>
    have hpasses : ¬ Passes p.symbols (known p) [] := by simp [Passes]
    rw [decide_eq_false hpasses]
    exact .of_pure false
  | cons query rest ih =>
    rw [anyMatches, execute_bind_ok (execute_get p)]
    refine (observes_readClock p).bind fun clock => ?_
    have hmatch : p.world.queryMatch p.symbols query = true ↔
        query.Matches p.symbols (known p) := RuleOf.matches_list_iff.symm
    by_cases hquery : query.Matches p.symbols (known p)
    · have hpasses : Passes p.symbols (known p) (query :: rest) :=
        ⟨query, List.mem_cons_self, hquery⟩
      rw [if_pos (hmatch.2 hquery), decide_eq_true hpasses]
      exact .of_pure true
    · have hpasses : Passes p.symbols (known p) (query :: rest) ↔
          Passes p.symbols (known p) rest := by simp [Passes, hquery]
      rw [if_neg (fun h => hquery (hmatch.1 h)), decide_eq_decide.2 hpasses]
      exact ih { p with clock := clock }

theorem observes_failedChecks (p : Progress) (block : Option Nat) (index : Nat)
    (checks : List Check) :
    Observes p ((checks.zipIdx index).filterMap fun (check, index) =>
        if Passes p.symbols (known p) check.queries then none
        else some ⟨block, index, check.render p.symbols⟩)
      (execute (failedChecks block index checks) p) := by
  induction checks generalizing p index with
  | nil => exact .of_pure []
  | cons check rest ih =>
    rw [failedChecks]
    refine (observes_anyMatches p check.queries).bind fun clock => ?_
    rw [execute_bind_ok (execute_get _)]
    refine (ih { p with clock := clock } (index + 1)).bind fun clock' => ?_
    by_cases hpasses : Passes p.symbols (known p) check.queries
    · simpa [hpasses] using Observes.of_pure _
    · simpa [hpasses] using Observes.of_pure _

/-- The checks that fail are observed. -/
theorem observes_failing (p : Progress) (block : Option Nat) (checks : List Check) :
    Observes p (failing p.symbols (known p) block checks)
      (execute (failedChecks block 0 checks) p) :=
  observes_failedChecks p block 0 checks

theorem observes_decision (p : Progress) (index : Nat) (policies : List Policy) :
    Observes p (((policies.zipIdx index).find? fun (policy, _) =>
        Passes p.symbols (known p) policy.queries).map fun (policy, index) => (index, policy.kind))
      (execute (decision index policies) p) := by
  induction policies generalizing p index with
  | nil => exact .of_pure none
  | cons policy rest ih =>
    rw [decision]
    refine (observes_anyMatches p policy.queries).bind fun clock => ?_
    by_cases hpasses : Passes p.symbols (known p) policy.queries
    · simpa [hpasses] using Observes.of_pure _
    · simpa [hpasses] using ih { p with clock := clock } (index + 1)

/-- The first policy that matches is observed. -/
theorem observes_firstPolicy (p : Progress) (policies : List Policy) :
    Observes p (firstPolicy p.symbols (known p) policies) (execute (decision 0 policies) p) :=
  observes_decision p 0 policies

end Warrant.Verification
