import Warrant.Proofs.Stages

namespace Warrant

/-- Limits that admit no more facts and no more rounds than others. -/
structure Limits.Within (limits wider : Limits) : Prop where
  facts : limits.maxFacts ≤ wider.maxFacts
  iterations : limits.maxIterations ≤ wider.maxIterations

/-- How two runs may end, each under limits of its own: one of them is stopped, or both come to
    the same. Wider limits stop the second run only by its clock, and never if that is endless. -/
inductive Rivals (limits limits' : Limits) (endless : Prop) {α : Type} (same : α → α → Prop) :
    Except RunLimitError α → Except RunLimitError α → Prop where
  | left {cause : RunLimitError} {result : Except RunLimitError α} :
      Rivals limits limits' endless same (.error cause) result
  | right {cause : RunLimitError} {result : Except RunLimitError α}
      (hcause : limits.Within limits' → cause = .timeout ∧ ¬ endless) :
      Rivals limits limits' endless same result (.error cause)
  | both {a b : α} (hsame : same a b) : Rivals limits limits' endless same (.ok a) (.ok b)

variable {limits limits' : Limits} {endless : Prop}

theorem Rivals.bind {α β : Type} {same : α → α → Prop} {same' : β → β → Prop}
    {x y : Except RunLimitError α} {f g : α → Except RunLimitError β}
    (h : Rivals limits limits' endless same x y)
    (hbind : ∀ a b, same a b → Rivals limits limits' endless same' (f a) (g b)) :
    Rivals limits limits' endless same' (x >>= f) (y >>= g) := by
  cases h with
  | left => exact .left
  | right hcause => exact .right hcause
  | both hsame => exact hbind _ _ hsame

/-- Points of two runs with the same facts in the same order. The second clock is endless if it is
    said to be. -/
def Even (endless : Prop) (a b : FactSet × Clock) : Prop :=
  a.1 = b.1 ∧ (endless → b.2.readings = none)

theorem Clock.rivals_read {clock clock' : Clock} (hclock : endless → clock'.readings = none) :
    Rivals limits limits' endless (fun _ next => endless → next.readings = none)
      clock.read clock'.read := by
  cases hright : clock'.read with
  | error cause =>
    obtain ⟨rfl, hlate⟩ := read_eq_error hright
    exact .right fun _ => ⟨rfl, fun h => hlate (hclock h)⟩
  | ok next =>
    cases clock.read with
    | error cause => exact .left
    | ok _ =>
      apply Rivals.both
      intro h
      rw [read_eq_ok hright (hclock h)]
      exact hclock h

namespace Round

variable {known : FactSet}

theorem rivals_readClock (fresh : FactSet) (clock : Clock) {clock' : Clock}
    (hclock : endless → clock'.readings = none) :
    Rivals limits limits' endless (fun a b => Even endless a.2 b.2)
      (readClock.run (fresh, clock)) (readClock.run (fresh, clock')) := by
  rw [run_readClock, run_readClock]
  have hread : Rivals limits limits' endless
      (fun _ clock' => endless → clock'.readings = none) clock.read clock'.read :=
    Clock.rivals_read hclock
  generalize clock.read = left, clock'.read = right at hread
  cases hread with
  | left => exact .left
  | right hcause => exact .right hcause
  | both hnext => exact .both ⟨rfl, hnext⟩

theorem rivals_forM_add (facts : List Fact) (fresh : FactSet) (clock : Clock) {clock' : Clock}
    (hclock : endless → clock'.readings = none) :
    Rivals limits limits' endless (fun a b => Even endless a.2 b.2)
      ((facts.forM (add limits known)).run (fresh, clock))
      ((facts.forM (add limits' known)).run (fresh, clock')) := by
  induction facts generalizing fresh with
  | nil => exact .both ⟨rfl, hclock⟩
  | cons fact rest ih =>
    rw [run_forM_add_cons, run_forM_add_cons, run_add, run_add]
    by_cases hold : fact ∈ known ∨ fact ∈ fresh
    · rw [if_pos hold, if_pos hold]
      exact ih fresh
    rw [if_neg hold, if_neg hold]
    by_cases hfull : limits.maxFacts < known.size + (fresh.insert fact).size
    · rw [if_pos hfull]
      exact .left
    rw [if_neg hfull]
    by_cases hfull' : limits'.maxFacts < known.size + (fresh.insert fact).size
    · rw [if_pos hfull']
      apply Rivals.right
      intro hwithin
      have hle := hwithin.facts
      omega
    · rw [if_neg hfull']
      exact ih (fresh.insert fact)

theorem rivals_applyRules (symbols : SymbolTable) (rules : List Rule) (fresh : FactSet)
    (clock : Clock) {clock' : Clock} (hclock : endless → clock'.readings = none) :
    Rivals limits limits' endless (fun a b => Even endless a.2 b.2)
      ((applyRules symbols limits known rules).run (fresh, clock))
      ((applyRules symbols limits' known rules).run (fresh, clock')) := by
  induction rules generalizing fresh clock clock' with
  | nil => exact .both ⟨rfl, hclock⟩
  | cons rule rules ih =>
    rw [run_applyRules_cons, run_applyRules_cons]
    apply (rivals_forM_add _ fresh clock hclock).bind
    rintro ⟨_, found, read⟩ ⟨_, found', read'⟩ ⟨rfl, hread⟩
    apply (rivals_readClock found read hread).bind
    rintro ⟨_, found, next⟩ ⟨_, found', next'⟩ ⟨rfl, hnext⟩
    exact ih found next hnext

end Round

/-- What a run comes to, where no limit stops it. -/
def Run.result (run : Run) : Except RunLimitError (FactSet × Clock) :=
  run.outcome.map fun clock => (run.facts, clock)

/-- Limits decide whether a run ends by itself, and not with which facts. -/
theorem rivals_saturate (symbols : SymbolTable) (rules : List Rule) {rounds rounds' : Nat}
    (hrounds : limits.Within limits' → rounds ≤ rounds') (facts : FactSet) (clock : Clock)
    {clock' : Clock} (hclock : endless → clock'.readings = none) :
    Rivals limits limits' endless (Even endless)
      (saturate symbols limits rules rounds facts clock).result
      (saturate symbols limits' rules rounds' facts clock').result := by
  induction rounds generalizing rounds' facts clock clock' with
  | zero => exact .left
  | succ rounds ih =>
    cases rounds' with
    | zero =>
      apply Rivals.right
      intro hwithin
      exact absurd (hrounds hwithin) (Nat.not_succ_le_zero rounds)
    | succ rounds' =>
      have hround : Rivals limits limits' endless (fun a b => Even endless a.2 b.2)
          ((Round.applyRules symbols limits facts rules).run (.empty, clock))
          ((Round.applyRules symbols limits' facts rules).run (.empty, clock')) :=
        Round.rivals_applyRules symbols rules .empty clock hclock
      rw [saturate, saturate]
      generalize (Round.applyRules symbols limits facts rules).run (.empty, clock) = left,
        (Round.applyRules symbols limits' facts rules).run (.empty, clock') = right at hround
      cases hround with
      | left => exact .left
      | right hcause => exact .right hcause
      | @both a b hsame =>
        obtain ⟨_, fresh, read⟩ := a
        obtain ⟨_, fresh', read'⟩ := b
        obtain ⟨rfl, hread⟩ : fresh = fresh' ∧ (endless → read'.readings = none) := hsame
        dsimp only
        by_cases hempty : fresh.size = 0
        · rw [if_pos hempty, if_pos hempty]
          exact .both ⟨rfl, hread⟩
        rw [if_neg hempty, if_neg hempty]
        by_cases hlast : rounds = 0
        · rw [if_pos hlast]
          exact .left
        rw [if_neg hlast]
        by_cases hlast' : rounds' = 0
        · rw [if_pos hlast']
          apply Rivals.right
          intro hwithin
          have hle := hrounds hwithin
          omega
        rw [if_neg hlast']
        have hnext : Rivals limits limits' endless
            (fun _ clock' => endless → clock'.readings = none) read.read read'.read :=
          Clock.rivals_read hread
        generalize read.read = next, read'.read = next' at hnext
        cases hnext with
        | left => exact .left
        | right hcause => exact .right hcause
        | both hnext => exact ih (fun h => Nat.le_of_succ_le_succ (hrounds h)) _ _ hnext

namespace Verification

/-- The same point of two verifications. The second clock is endless if it is said to be. -/
structure Level (endless : Prop) (p p' : Progress) : Prop where
  world : p.world = p'.world
  symbols : p.symbols = p'.symbols
  clock : endless → p'.clock.readings = none

/-- How two verifications may end, each under limits of its own: as two runs may. -/
inductive Ends (limits limits' : Limits) (endless : Prop) {α : Type} :
    Except Error α × Progress → Except Error α × Progress → Prop where
  | left {cause : RunLimitError} {q : Progress} {result : Except Error α × Progress} :
      Ends limits limits' endless (.error (.runLimit cause), q) result
  | right {cause : RunLimitError} {q : Progress} {result : Except Error α × Progress}
      (hcause : limits.Within limits' → cause = .timeout ∧ ¬ endless) :
      Ends limits limits' endless result (.error (.runLimit cause), q)
  | both {result : Except Error α} {q q' : Progress} (hlevel : Level endless q q') :
      Ends limits limits' endless (result, q) (result, q')

namespace Ends

variable {α β : Type} {p p' : Progress}

theorem bind {x y : Verification α} {f g : α → Verification β}
    (h : Ends limits limits' endless (execute x p) (execute y p'))
    (hbind : ∀ a q q', Level endless q q' →
      Ends limits limits' endless (execute (f a) q) (execute (g a) q')) :
    Ends limits limits' endless (execute (x >>= f) p) (execute (y >>= g) p') := by
  rw [execute_bind, execute_bind]
  generalize execute x p = left, execute y p' = right at h
  cases h with
  | left => exact .left
  | right hcause => exact .right hcause
  | @both result q q' hlevel =>
    cases result with
    | error cause => exact .both hlevel
    | ok a => exact hbind a q q' hlevel

theorem of_observes {a : α} {left right : Except Error α × Progress} (hlevel : Level endless p p')
    (hleft : Observes p a left) (hright : Observes p' a right) :
    Ends limits limits' endless left right := by
  cases hright with
  | late hlate => exact .right fun _ => ⟨rfl, fun h => hlate (hlevel.clock h)⟩
  | found hfound =>
    cases hleft with
    | late _ => exact .left
    | found _ =>
      refine .both ⟨hlevel.world, hlevel.symbols, ?_⟩
      intro h
      rw [hfound (hlevel.clock h)]
      exact hlevel.clock h

end Ends

section

variable {p p' : Progress} (hlevel : Level endless p p')
include hlevel

theorem ends_failedChecks (block : Option Nat) (checks : List Check) :
    Ends limits limits' endless (execute (failedChecks block 0 checks) p)
      (execute (failedChecks block 0 checks) p') := by
  have hright := observes_failing p' block checks
  rw [known, ← hlevel.world, ← hlevel.symbols] at hright
  exact .of_observes hlevel (observes_failing p block checks) hright

theorem ends_decision (policies : List Policy) :
    Ends limits limits' endless (execute (decision 0 policies) p)
      (execute (decision 0 policies) p') := by
  have hright := observes_firstPolicy p' policies
  rw [known, ← hlevel.world, ← hlevel.symbols] at hright
  exact .of_observes hlevel (observes_firstPolicy p policies) hright

theorem ends_derive (rules : List Rule) :
    Ends limits limits' endless (execute (derive limits rules) p)
      (execute (derive limits' rules) p') := by
  have hrounds (h : limits.Within limits') :
      max 1 limits.maxIterations ≤ max 1 limits'.maxIterations := by
    have hle := h.iterations
    omega
  have hrun := rivals_saturate p.symbols (p.world.rules ++ rules) hrounds p.world.facts p.clock
    hlevel.clock
  rw [execute_derive, execute_derive, derivation, derivation, ← hlevel.world, ← hlevel.symbols]
  generalize saturate p.symbols limits (p.world.rules ++ rules) (max 1 limits.maxIterations)
    p.world.facts p.clock = left, saturate p.symbols limits' (p.world.rules ++ rules)
    (max 1 limits'.maxIterations) p.world.facts p'.clock = right at hrun
  obtain ⟨facts, _ | clock⟩ := left
  · exact .left
  obtain ⟨facts', cause | clock'⟩ := right
  · cases hrun with
    | right hcause => exact .right hcause
  · cases hrun with
    | both hsame =>
      obtain ⟨rfl, hclock⟩ : facts = facts' ∧ (endless → clock'.readings = none) := hsame
      exact .both ⟨rfl, rfl, hclock⟩

theorem ends_addFacts (facts : List Fact) :
    Ends limits limits' endless (execute (addFacts facts) p) (execute (addFacts facts) p') := by
  rw [execute_addFacts, execute_addFacts, hlevel.world]
  exact .both ⟨rfl, hlevel.symbols, hlevel.clock⟩

theorem ends_setWorld (world : World) :
    Ends limits limits' endless (execute (setWorld world) p) (execute (setWorld world) p') :=
  .both ⟨rfl, hlevel.symbols, hlevel.clock⟩

theorem ends_addAuthority (token : LoadedToken) :
    Ends limits limits' endless (execute (addAuthority token) p)
      (execute (addAuthority token) p') := by
  rw [execute_addAuthority, execute_addAuthority, hlevel.world, hlevel.symbols]
  cases token.authority.rules.find? fun rule => !rule.isRangeRestricted with
  | some rule => exact .both hlevel
  | none => exact .both ⟨rfl, rfl, hlevel.clock⟩

theorem ends_addBlock (tags : Tags) (number : Nat) (block : Block) :
    Ends limits limits' endless (execute (addBlock tags limits number block) p)
      (execute (addBlock tags limits' number block) p') := by
  rw [addBlock, addBlock, execute_bind_ok (execute_get p), execute_bind_ok (execute_get p')]
  dsimp only
  rw [hlevel.symbols]
  cases blockFault tags p'.symbols number block with
  | some fault => exact .both hlevel
  | none =>
    apply (ends_addFacts hlevel block.facts).bind
    intro _ q q' hlevel
    apply (ends_derive hlevel block.rules).bind
    intro world r r' hlevel
    cases taggingRule? tags p'.symbols world block.rules with
    | some rule => exact .both hlevel
    | none =>
      apply (ends_setWorld hlevel world).bind
      intro _ t t' hlevel
      exact ends_failedChecks hlevel (some number) block.checks

theorem ends_addBlocks (tags : Tags) (number : Nat) (blocks : List Block) :
    Ends limits limits' endless (execute (addBlocks tags limits number blocks) p)
      (execute (addBlocks tags limits' number blocks) p') := by
  induction blocks generalizing number p p' with
  | nil => exact .both hlevel
  | cons block rest ih =>
    rw [addBlocks, addBlocks]
    apply (ends_addBlock hlevel tags number block).bind
    intro failed q q' hlevel
    apply (ih hlevel (number + 1)).bind
    intro others r r' hlevel
    exact .both hlevel

theorem ends_ofVerifier (v : Verifier) :
    Ends limits limits' endless (execute (ofVerifier v limits) p)
      (execute (ofVerifier v limits') p') := by
  rw [ofVerifier, ofVerifier, execute_bind_ok (execute_get p), execute_bind_ok (execute_get p')]
  dsimp only
  rw [hlevel.symbols]
  cases Tags.ofSymbols p'.symbols with
  | none => exact .both hlevel
  | some tags =>
    dsimp only
    have hauthority : Ends limits limits' endless (execute (v.token.forM addAuthority) p)
        (execute (v.token.forM addAuthority) p') := by
      cases v.token with
      | none => exact .both hlevel
      | some token => exact ends_addAuthority hlevel token
    apply hauthority.bind
    intro _ q q' hlevel
    apply (ends_derive hlevel _).bind
    intro world r r' hlevel
    apply (ends_setWorld hlevel world).bind
    intro _ t t' hlevel
    apply (ends_failedChecks hlevel none v.checks).bind
    intro failedHere u u' hlevel
    apply (ends_failedChecks hlevel (some 0) _).bind
    intro failedThere w w' hlevel
    apply (ends_decision hlevel v.policies).bind
    intro decided x x' hlevel
    apply (ends_addBlocks hlevel tags 1 _).bind
    intro failedLater y y' hlevel
    cases outcome (failedHere ++ failedThere ++ failedLater) decided with
    | error cause => exact .both hlevel
    | ok policy => exact .both hlevel

end

end Verification

/-- Whether it was a limit that stopped a verification. -/
def BrokenOff {α : Type} (result : Except Error α) : Prop :=
  ∃ cause, result = .error (.runLimit cause)

/-- Limits decide whether a verification comes to an answer, and never to which, nor what the
    verifier knows afterwards. Where it comes to one, it does so under wider limits, unless a
    deadline is reached. -/
theorem answer_within_limits (v : Verifier) (limits limits' : Limits) (clock clock' : Clock) :
    (¬ BrokenOff (v.verifyUntil limits clock).2 → ¬ BrokenOff (v.verifyUntil limits' clock').2 →
      v.verifyUntil limits clock = v.verifyUntil limits' clock') ∧
    (limits.Within limits' →
      (clock'.readings = none ∨
        (v.verifyUntil limits' clock').2 ≠ .error (.runLimit .timeout)) →
      ¬ BrokenOff (v.verifyUntil limits clock).2 →
      ¬ BrokenOff (v.verifyUntil limits' clock').2) := by
  have hlevel : Verification.Level (clock'.readings = none) ⟨v.world, v.symbols, clock⟩
      ⟨v.world, v.symbols, clock'⟩ := ⟨rfl, rfl, id⟩
  have hends : Verification.Ends limits limits' (clock'.readings = none)
      (execute (Verification.ofVerifier v limits) ⟨v.world, v.symbols, clock⟩)
      (execute (Verification.ofVerifier v limits') ⟨v.world, v.symbols, clock'⟩) :=
    Verification.ends_ofVerifier hlevel v
  have hverify (limits : Limits) (clock : Clock) : v.verifyUntil limits clock =
      ({ v with
          world := (execute (Verification.ofVerifier v limits)
            ⟨v.world, v.symbols, clock⟩).2.world
          symbols := (execute (Verification.ofVerifier v limits)
            ⟨v.world, v.symbols, clock⟩).2.symbols },
        (execute (Verification.ofVerifier v limits) ⟨v.world, v.symbols, clock⟩).1) := rfl
  rw [hverify, hverify]
  generalize execute (Verification.ofVerifier v limits) ⟨v.world, v.symbols, clock⟩ = left,
    execute (Verification.ofVerifier v limits') ⟨v.world, v.symbols, clock'⟩ = right at hends
  cases hends with
  | left => exact ⟨fun h => absurd ⟨_, rfl⟩ h, fun _ _ h => absurd ⟨_, rfl⟩ h⟩
  | right hcause =>
    refine ⟨fun _ h => absurd ⟨_, rfl⟩ h, ?_⟩
    rintro hwithin hdeadline -
    obtain ⟨rfl, hlate⟩ := hcause hwithin
    rcases hdeadline with hendless | htimeout
    · exact absurd hendless hlate
    · exact absurd rfl htimeout
  | @both result q q' hlevel =>
    dsimp only
    rw [hlevel.world, hlevel.symbols]
    exact ⟨fun _ _ => rfl, fun _ _ h => h⟩

theorem readRequest_answer_within_limits :
    BrokenOff (Verifier.readRequest.verifyUntil ⟨5, 2, 5⟩ ⟨none⟩).2 ∧
      Verifier.readRequest.verifyUntil ⟨6, 2, 5⟩ ⟨some 10⟩ =
        Verifier.readRequest.verifyUntil {} ⟨none⟩ ∧
      ¬ BrokenOff (Verifier.readRequest.verifyUntil {} ⟨none⟩).2 := by
  have htight : (Verifier.readRequest.verifyUntil ⟨6, 2, 5⟩ ⟨some 10⟩).2 = .ok 0 := by decide
  have hwide : (Verifier.readRequest.verifyUntil {} ⟨none⟩).2 = .ok 0 := by decide
  have hreached : ¬ BrokenOff (Verifier.readRequest.verifyUntil ⟨6, 2, 5⟩ ⟨some 10⟩).2 := by
    rintro ⟨cause, hcause⟩
    cases htight.symm.trans hcause
  have hreached' : ¬ BrokenOff (Verifier.readRequest.verifyUntil {} ⟨none⟩).2 := by
    rintro ⟨cause, hcause⟩
    cases hwide.symm.trans hcause
  obtain ⟨hsame, hkept⟩ := answer_within_limits .readRequest ⟨6, 2, 5⟩ {} ⟨some 10⟩ ⟨none⟩
  exact ⟨⟨.tooManyFacts, by decide⟩, hsame hreached hreached',
    hkept ⟨by decide, by decide⟩ (.inl rfl) hreached⟩

end Warrant
