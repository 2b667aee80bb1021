import Warrant.Error

namespace Warrant

variable {σ α β : Type}

/-- What a step comes to from a state, and the state after it. -/
def execute (x : ExceptT Error (StateM σ) α) (p : σ) : Except Error α × σ := x.run.run p

theorem execute_pure (p : σ) (a : α) :
    execute (pure a : ExceptT Error (StateM σ) α) p = (.ok a, p) := rfl

theorem execute_get (p : σ) : execute (get : ExceptT Error (StateM σ) σ) p = (.ok p, p) := rfl

theorem execute_bind (x : ExceptT Error (StateM σ) α) (f : α → ExceptT Error (StateM σ) β) (p : σ) :
    execute (x >>= f) p = match execute x p with
      | (.ok a, q) => execute (f a) q
      | (.error e, q) => (.error e, q) := by
  unfold execute
  rw [ExceptT.run_bind, StateT.run_bind]
  cases x.run.run p with
  | mk result q => cases result <;> rfl

section

variable {x : ExceptT Error (StateM σ) α} {f : α → ExceptT Error (StateM σ) β} {p q : σ}

theorem execute_bind_ok {a : α} (h : execute x p = (.ok a, q)) :
    execute (x >>= f) p = execute (f a) q := by
  rw [execute_bind, h]

theorem execute_bind_error {e : Error} (h : execute x p = (.error e, q)) :
    execute (x >>= f) p = (.error e, q) := by
  rw [execute_bind, h]

/-- What comes to a value has come to one at its first step. -/
theorem exists_of_execute_bind {b : β} (h : execute (x >>= f) p = (.ok b, q)) :
    ∃ a r, execute x p = (.ok a, r) ∧ execute (f a) r = (.ok b, q) := by
  rw [execute_bind] at h
  generalize execute x p = result at h ⊢
  obtain ⟨_ | a, r⟩ := result
  · cases h
  · exact ⟨a, r, rfl, h⟩

end

end Warrant
