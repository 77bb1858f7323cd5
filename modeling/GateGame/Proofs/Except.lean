namespace GateGame

/-! How computations that may fail go on. -/

variable {ε α β σ : Type}

@[simp] theorem ok_bind (a : α) (next : α → Except ε β) :
    (Except.ok a >>= next) = next a := rfl

@[simp] theorem error_bind (error : ε) (next : α → Except ε β) :
    (Except.error error >>= next) = .error error := rfl

@[simp] theorem ok_map (f : α → β) (a : α) :
    f <$> (Except.ok a : Except ε α) = .ok (f a) := rfl

/-- What a computation with a state has done to it stays done when the computation
fails. -/
theorem run_bind (first : ExceptT ε (StateM σ) α) (next : α → ExceptT ε (StateM σ) β)
    (state : σ) :
    (first >>= next).run.run state =
      match first.run.run state with
      | (.ok value, state) => (next value).run.run state
      | (.error error, state) => (.error error, state) := by
  change (ExceptT.bind first next) state = _
  rcases h : first.run.run state with ⟨result, rest⟩
  have hfirst : first state = (result, rest) := h
  cases result with
  | ok value => simp only [ExceptT.bind, ExceptT.mk, bind, StateT.bind, hfirst]; rfl
  | error error => simp only [ExceptT.bind, ExceptT.mk, bind, StateT.bind, hfirst]; rfl

theorem run_lift_bind (action : StateM σ α) (next : α → ExceptT ε (StateM σ) β) (state : σ) :
    (ExceptT.lift action >>= next).run.run state =
      (next (action.run state).1).run.run (action.run state).2 := by
  rw [run_bind]
  rfl

/-- What an attempt to change a value in place leaves: the new value, or the error and
the value there was. -/
def inPlace (state : σ) : Except ε σ → σ × Option ε
  | .ok after => (after, none)
  | .error error => (state, some error)

theorem inPlace_of_refused {result : Except ε σ} (h : ¬ ∃ after, result = .ok after) (state : σ) :
    ∃ error, inPlace state result = (state, some error) := by
  cases result with
  | ok after => exact absurd ⟨after, rfl⟩ h
  | error error => exact ⟨error, rfl⟩

end GateGame
