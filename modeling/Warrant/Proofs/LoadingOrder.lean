import Warrant.Proofs.Abreast
import Warrant.Proofs.Attenuation
import Warrant.Proofs.Interning

namespace Warrant

namespace Source.Statement

/-- The fact that a verifier takes in with a statement: one with variables is refused. -/
@[simp]
def fact? : Statement → Option Fact
  | fact f => if f.isGround then some f else none
  | _ => none

@[simp]
def rule? : Statement → Option Rule
  | rule r => some r
  | _ => none

@[simp]
def check? : Statement → Option Check
  | check c => some c
  | _ => none

@[simp]
def policy? : Statement → Option Policy
  | policy p => some p
  | _ => none

end Source.Statement

namespace Verifier

open Source (Statement)

/-- The verifier after it has been told some statements. What it refuses may leave symbols. -/
def pushAll (v : Verifier) (statements : List Statement) : Verifier :=
  statements.foldl (fun v statement => (v.push statement).1) v

/-- A new verifier that has been told some statements, has got a token and has been told more. -/
def prepared {scheme : Scheme} (before : List Statement) (token : Token scheme)
    (after : List Statement) : Verifier :=
  ((empty.pushAll before).addToken token).1.pushAll after

/-- Whether a verifier holds what has been stated, and a token, all with the positions of a
    table. -/
structure Holds (v : Verifier) (final : SymbolTable) (statements : List Statement)
    (token : Option LoadedToken) : Prop where
  facts : ∀ fact, fact ∈ v.world.facts ↔ fact ∈ (statements.filterMap Statement.fact?).map
    (PredicateOf.numbered final.variablePosition final.position)
  noRules : v.world.rules = []
  rules : v.rules = (statements.filterMap Statement.rule?).map
    (RuleOf.numbered final.variablePosition final.position)
  checks : v.checks = (statements.filterMap Statement.check?).map
    (CheckOf.numbered final.variablePosition final.position)
  policies : v.policies = (statements.filterMap Statement.policy?).map
    (PolicyOf.numbered final.variablePosition final.position)
  token : v.token = token

theorem Holds.toSet_eq {v : Verifier} {final : SymbolTable} {statements : List Statement}
    {token : Option LoadedToken} (h : v.Holds final statements token) :
    v.world.facts.toSet = {fact | fact ∈ (statements.filterMap Statement.fact?).map
      (PredicateOf.numbered final.variablePosition final.position)} := Set.ext h.facts

/-- Whether a verifier comes out of another one by being told some statements, which have some
    names. -/
structure Told (names : Set String) (statements : List Statement) (v v' : Verifier) : Prop where
  start : v.symbols.names <+: v'.symbols.names
  mem_names : ∀ name, name ∈ v'.symbols.names ↔ name ∈ v.symbols.names ∨ name ∈ names
  holds : ∀ final earlier token, v'.symbols.names <+: final.names →
    v.Holds final earlier token → v'.Holds final (earlier ++ statements) token

theorem Told.trans {names names' : Set String} {statements statements' : List Statement}
    {v v' v'' : Verifier} (h : Told names statements v v') (h' : Told names' statements' v' v'') :
    Told (names ∪ names') (statements ++ statements') v v'' where
  start := h.start.trans h'.start
  mem_names name := by rw [h'.mem_names, h.mem_names, or_assoc, Set.mem_union]
  holds final earlier token hfinal hholds := by
    have hmiddle := h.holds final earlier token (h'.start.trans hfinal) hholds
    rw [← List.append_assoc]
    exact h'.holds final _ token hfinal hmiddle

/-- A statement that brings no fact is held where it has been appended. -/
theorem Holds.append {v : Verifier} {final : SymbolTable} {statements : List Statement}
    {token : Option LoadedToken} (h : v.Holds final statements token) (statement : Statement)
    (hfact : statement.fact? = none) :
    Holds { v with
        rules := v.rules ++
          (statement.rule?.map (RuleOf.numbered final.variablePosition final.position)).toList
        checks := v.checks ++
          (statement.check?.map (CheckOf.numbered final.variablePosition final.position)).toList
        policies := v.policies ++
          (statement.policy?.map (PolicyOf.numbered final.variablePosition final.position)).toList }
      final (statements ++ [statement]) token := by
  have happend {α β : Type} (view : Statement → Option α) (make : α → β) :
      ((statements ++ [statement]).filterMap view).map make =
        (statements.filterMap view).map make ++ ((view statement).map make).toList := by
    rw [List.filterMap_append, List.map_append, List.filterMap_cons]
    cases view statement <;> rfl
  refine ⟨fun fact => ?_, h.noRules, ?_, ?_, ?_, h.token⟩
  · rw [happend, hfact, Option.map_none, Option.toList_none, List.append_nil, ← h.facts]
  · rw [happend, h.rules]
  · rw [happend, h.checks]
  · rw [happend, h.policies]

theorem Holds.withGround {v : Verifier} {final : SymbolTable} {statements : List Statement}
    {token : Option LoadedToken} (h : v.Holds final statements token) (fact : Source.Fact) :
    (v.withGround (fact.numbered final.variablePosition final.position)).Holds final
      (statements ++ [.fact fact]) token := by
  rw [Verifier.withGround, PredicateOf.isGround_numbered]
  cases hground : fact.isGround with
  | false => simpa using h.append (.fact fact) (by simp [hground])
  | true =>
    refine ⟨fun other => ?_, h.noRules, by simp [h.rules], by simp [h.checks],
      by simp [h.policies], h.token⟩
    rw [List.filterMap_append, List.map_append, List.mem_append, ← h.facts, or_comm]
    simp [hground, World.addFact]

/-- A statement whose strings are interned, and which is then put where it belongs, is told. -/
theorem told_of_interns {α : Type} {x : StateM SymbolTable α} {names : Set String}
    {made : SymbolTable → α} (hx : Interns x names made) {statement : Statement}
    (put : Verifier → α → Verifier)
    (hpush : ∀ v, (v.push statement).1 =
      { put v (x.run v.symbols).1 with symbols := (x.run v.symbols).2 })
    (hput : ∀ v final earlier token, v.Holds final earlier token →
      (put v (made final)).Holds final (earlier ++ [statement]) token) (v : Verifier) :
    Told names [statement] v (v.push statement).1 := by
  obtain ⟨hstart, hnames, hmade⟩ := hx v.symbols _ _ rfl
  rw [hpush]
  refine ⟨hstart, hnames, fun final earlier token hfinal hholds => ?_⟩
  have h := hput v final earlier token hholds
  rw [← hmade final hfinal] at h
  exact ⟨h.facts, h.noRules, h.rules, h.checks, h.policies, h.token⟩

/-- Each statement brings its own names, and is held from then on. -/
theorem exists_told (statement : Statement) :
    ∃ names, ∀ v, Told names [statement] v (v.push statement).1 := by
  cases statement with
  | fact fact =>
    obtain ⟨names, hinterns⟩ := fact.exists_interns_intern
    exact ⟨names, told_of_interns hinterns withGround (push_fact_fst fact)
      fun _ _ _ _ h => h.withGround fact⟩
  | rule rule =>
    obtain ⟨names, hinterns⟩ := rule.exists_interns_intern
    refine ⟨names, told_of_interns hinterns (fun v rule => { v with rules := v.rules ++ [rule] })
      (fun _ => rfl) fun v final earlier token h => ?_⟩
    simpa using h.append (.rule rule) rfl
  | check check =>
    obtain ⟨names, hinterns⟩ := check.exists_interns_intern
    refine ⟨names, told_of_interns hinterns
      (fun v check => { v with checks := v.checks ++ [check] }) (fun _ => rfl)
      fun v final earlier token h => ?_⟩
    simpa using h.append (.check check) rfl
  | policy policy =>
    obtain ⟨names, hinterns⟩ := policy.exists_interns_intern
    refine ⟨names, told_of_interns hinterns
      (fun v policy => { v with policies := v.policies ++ [policy] }) (fun _ => rfl)
      fun v final earlier token h => ?_⟩
    simpa using h.append (.policy policy) rfl
  | query rule =>
    refine ⟨∅, fun v => ⟨List.prefix_rfl, by simp [push], fun final earlier token _ h => ?_⟩⟩
    simpa [push] using h.append (.query rule) rfl

/-- Statements bring the names of each and are held in their order. -/
theorem exists_told_pushAll :
    ∃ names : Statement → Set String, ∀ (statements : List Statement) (v : Verifier),
      Told {name | ∃ statement ∈ statements, name ∈ names statement} statements v
        (v.pushAll statements) := by
  choose names hnames using exists_told
  refine ⟨names, fun statements => ?_⟩
  induction statements with
  | nil =>
    intro v
    refine ⟨List.prefix_rfl, by simp [pushAll], fun final earlier token _ hholds => ?_⟩
    rw [List.append_nil]
    exact hholds
  | cons statement statements ih =>
    intro v
    have htold := (hnames statement v).trans (ih (v.push statement).1)
    have hsame : names statement ∪ {name | ∃ other ∈ statements, name ∈ names other} =
        {name | ∃ other ∈ statement :: statements, name ∈ names other} := by
      ext name
      simp
    rwa [hsame] at htold

/-- A token brings its names, and is held from then on. -/
theorem exists_held_addToken {scheme : Scheme} (token : Token scheme) :
    ∃ names : Set String, ∀ v : Verifier, (v.addToken token).2 = .ok () →
      v.symbols.names <+: (v.addToken token).1.symbols.names ∧
      (∀ name, name ∈ (v.addToken token).1.symbols.names ↔ name ∈ v.symbols.names ∨ name ∈ names) ∧
      ∀ final statements, (v.addToken token).1.symbols.names <+: final.names →
        v.Holds final statements none →
          (v.addToken token).1.Holds final statements (some (Renumbering.placed token final)) := by
  obtain ⟨names, hinterns⟩ := Renumbering.exists_interns_token token
  refine ⟨names, fun v hload => ?_⟩
  obtain ⟨htoken, loaded, symbols, hrun⟩ := exists_of_addToken hload
  obtain ⟨hstart, hnames, hmade⟩ := hinterns _ _ _ hrun
  rw [addToken_of_execute htoken hrun]
  refine ⟨hstart, hnames, fun final statements hfinal h => ?_⟩
  exact ⟨h.facts, h.noRules, h.rules, h.checks, h.policies, congrArg some (hmade final hfinal)⟩

/-- A new verifier holds nothing. -/
theorem holds_empty (final : SymbolTable) : empty.Holds final [] none :=
  ⟨fun _ => by simp [empty, World.empty], rfl, rfl, rfl, rfl, rfl⟩

/-- Whenever it got the token, a verifier holds what it has been told and the token, and its names
    are those that the statements and the token bring. -/
theorem exists_prepared {scheme : Scheme} (token : Token scheme) :
    ∃ (names : Statement → Set String) (others : Set String), ∀ before after : List Statement,
      ((empty.pushAll before).addToken token).2 = .ok () →
        (∀ name, name ∈ (prepared before token after).symbols.names ↔
          name ∈ SymbolTable.standard.names ∨ name ∈ others ∨
            ∃ statement ∈ before ++ after, name ∈ names statement) ∧
        (prepared before token after).Holds (prepared before token after).symbols (before ++ after)
          (some (Renumbering.placed token (prepared before token after).symbols)) := by
  obtain ⟨names, htold⟩ := exists_told_pushAll
  obtain ⟨others, hadd⟩ := exists_held_addToken token
  refine ⟨names, others, fun before after hload => ?_⟩
  have hbefore := htold before empty
  obtain ⟨hstart, hothers, hholds⟩ := hadd _ hload
  have hafter := htold after ((empty.pushAll before).addToken token).1
  refine ⟨fun name => ?_, ?_⟩
  · have hempty : empty.symbols = SymbolTable.standard := rfl
    rw [prepared, hafter.mem_names, hothers, hbefore.mem_names, hempty]
    simp only [Set.mem_ofPred_eq, List.mem_append, or_and_right, exists_or]
    rw [or_assoc, or_assoc]
    exact or_congr_right or_left_comm
  · refine hafter.holds _ before _ List.prefix_rfl (hholds _ before hafter.start ?_)
    exact hbefore.holds _ [] none (hstart.trans hafter.start) (holds_empty _)

/-- Verifiers that hold the same in another order resemble each other. -/
theorem Holds.resembles {scheme : Scheme} {token : Token scheme} {v v' : Verifier}
    {statements statements' : List Statement}
    (h : v.Holds v.symbols statements (some (Renumbering.placed token v.symbols)))
    (h' : v'.Holds v'.symbols statements' (some (Renumbering.placed token v'.symbols)))
    (hperm : statements'.Perm statements)
    (hchecks : statements'.filterMap Statement.check? = statements.filterMap Statement.check?)
    (hpolicies : statements'.filterMap Statement.policy? = statements.filterMap Statement.policy?)
    {f : Equiv.Perm UInt32} {g : Equiv.Perm UInt64}
    (hmoved : SymbolTable.Moved g v.symbols v'.symbols)
    (hf : f ∘ v.symbols.variablePosition = v'.symbols.variablePosition)
    (hg : g ∘ v.symbols.position = v'.symbols.position)
    (hrevocation : "revocation_id" ∈ v.symbols.names) : v.Resembles f g v' := by
  have hf' : f.symm ∘ v'.symbols.variablePosition = v.symbols.variablePosition := by
    rw [← hf, ← Function.comp_assoc, Equiv.symm_comp_self, Function.id_comp]
  have hg' : g.symm ∘ v'.symbols.position = v.symbols.position := by
    rw [← hg, ← Function.comp_assoc, Equiv.symm_comp_self, Function.id_comp]
  refine ⟨hmoved, hrevocation, ?_, h.noRules, h'.noRules, ?_, ?_, ?_, ?_, ?_, ?_, ?_⟩
  · rw [h.toSet_eq, h'.toSet_eq]
    refine .of_made (fun fact => ?_) (fun fact => ?_) fun fact => (hperm.filterMap _).mem_iff.symm
    · rw [PredicateOf.numbered_numbered, hf, hg]
    · rw [PredicateOf.numbered_numbered, hf', hg']
  · rw [h.rules, h'.rules]
    refine .of_made (fun rule => ?_) (fun rule => ?_) fun rule => (hperm.filterMap _).mem_iff.symm
    · rw [RuleOf.numbered_numbered, hf, hg]
    · rw [RuleOf.numbered_numbered, hf', hg']
  · rw [h.checks, h'.checks, hchecks, List.map_map]
    refine List.map_congr_left fun check _ => ?_
    rw [Function.comp_apply, CheckOf.numbered_numbered, hf, hg]
  · rw [h.policies, h'.policies, hpolicies, List.map_map]
    refine List.map_congr_left fun policy _ => ?_
    rw [Function.comp_apply, PolicyOf.numbered_numbered, hf, hg]
  · rw [h.token, h'.token, Option.map_some, Renumbering.placed, Renumbering.placed,
      LoadedToken.numbered_numbered, ← hf, ← hg]
    rfl
  · rw [h.checks]
    simp only [List.forall_mem_map, CheckOf.numbered]
    exact fun check _ query _ => RuleOf.settled_numbered query
  · rw [h.policies]
    simp only [List.forall_mem_map, PolicyOf.numbered]
    exact fun policy _ query _ => RuleOf.settled_numbered query
  · rintro loaded hloaded block hblock
    rw [h.token] at hloaded
    cases hloaded
    exact LoadedToken.settled_numbered _ block hblock

/-- A verification depends neither on the order in which facts and rules have been stated, nor on
    when the token has been added, nor on the numbers that strings have got from it: only texts
    may differ. -/
theorem verifyUntil_prepared_eq {scheme : Scheme} (token : Token scheme)
    {before after before' after' : List Statement}
    (hperm : (before' ++ after').Perm (before ++ after))
    (hchecks : (before' ++ after').filterMap Statement.check? =
      (before ++ after).filterMap Statement.check?)
    (hpolicies : (before' ++ after').filterMap Statement.policy? =
      (before ++ after).filterMap Statement.policy?)
    (hload : ((empty.pushAll before).addToken token).2 = .ok ())
    (hload' : ((empty.pushAll before').addToken token).2 = .ok ())
    (hsize : (prepared before token after).symbols.size < UInt32.size) (limits : Limits) :
    ((prepared before token after).verifyUntil limits ⟨none⟩).2.mapError Error.withoutTexts =
      ((prepared before' token after').verifyUntil limits ⟨none⟩).2.mapError
        Error.withoutTexts := by
  obtain ⟨names, others, hprepared⟩ := exists_prepared token
  obtain ⟨hnames, hholds⟩ := hprepared before after hload
  obtain ⟨hnames', hholds'⟩ := hprepared before' after' hload'
  have hsame (name : String) : name ∈ (prepared before token after).symbols.names ↔
      name ∈ (prepared before' token after').symbols.names := by
    rw [hnames, hnames']
    simp only [hperm.mem_iff]
  obtain ⟨f, g, hmoved, hf, hg⟩ := SymbolTable.exists_moved hsame hsize
  have hrevocation : "revocation_id" ∈ (prepared before token after).symbols.names :=
    (hnames _).2 (.inl (by decide))
  have hresembles := hholds.resembles hholds' hperm hchecks hpolicies hmoved hf hg hrevocation
  exact hresembles.verifyUntil_eq limits

/-- What is stated about a request to read a file. -/
def readingStatements : List Statement :=
  [.fact (Source.predicate "resource" [.str "ambient", .str "file"]),
    .fact (Source.predicate "operation" [.str "ambient", .str "read"]),
    .check (.ofRule (Source.constrainedRule "check" []
      [Source.predicate "operation" [.str "ambient", .var "operation"]]
      [[.value (.set [.str "read", .str "write"]), .value (.var "operation"), .binary .contains]])),
    .policy ⟨[Source.rule "policy" [] [Source.predicate "readable" [.var "file"],
      Source.predicate "resource" [.str "ambient", .var "file"]]], .allow⟩]

theorem readingStatements_verifyUntil_prepared_eq :
    ((prepared [] readingToken readingStatements).verifyUntil {} ⟨none⟩).2 = .ok 0 ∧
      ((prepared readingStatements.reverse readingToken []).verifyUntil {} ⟨none⟩).2 = .ok 0 := by
  have hfirst : ((prepared [] readingToken readingStatements).verifyUntil {} ⟨none⟩).2 = .ok 0 :=
    rfl
  have hperm : (readingStatements.reverse ++ []).Perm ([] ++ readingStatements) := by decide
  have hsame := verifyUntil_prepared_eq readingToken hperm (by decide) (by decide) rfl rfl
    (by decide) {}
  rw [hfirst] at hsame
  generalize ((prepared readingStatements.reverse readingToken []).verifyUntil {} ⟨none⟩).2 = result
    at hsame ⊢
  cases result with
  | error cause => cases hsame
  | ok policy =>
    cases hsame
    exact ⟨hfirst, rfl⟩

end Verifier

end Warrant
