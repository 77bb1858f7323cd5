import GateGame.Game.Play

namespace GateGame

/-! What playing does to a game and to the world outside, read off step by step. -/

abbrev Steps (ρ σ : Type) := ExceptT Error (StateT ρ (StateM σ))

namespace Steps

variable {ρ σ β γ : Type}

def result (steps : Steps ρ σ β) (state : ρ) (world : σ) : (Except Error β × ρ) × σ :=
  (steps.run.run state).run world

theorem result_bind (first : Steps ρ σ β) (next : β → Steps ρ σ γ) (state : ρ) (world : σ) :
    result (first >>= next) state world =
      match result first state world with
      | ((.ok value, state), world) => result (next value) state world
      | ((.error error, state), world) => ((.error error, state), world) := by
  change (ExceptT.bind first next) state world = _
  rcases h : result first state world with ⟨⟨value, after⟩, outside⟩
  have hfirst : first state world = ((value, after), outside) := h
  cases value with
  | ok value =>
      simp only [ExceptT.bind, ExceptT.mk, bind, StateT.bind, hfirst]
      rfl
  | error error =>
      simp only [ExceptT.bind, ExceptT.mk, bind, StateT.bind, hfirst]
      rfl

theorem result_pure (value : β) (state : ρ) (world : σ) :
    result (pure value) state world = ((.ok value, state), world) := rfl

theorem result_mk_pure (value : Except Error β) (state : ρ) (world : σ) :
    result (ExceptT.mk (pure value)) state world = ((value, state), world) := rfl

theorem result_mk_lift (action : StateM σ (Except Error β)) (state : ρ) (world : σ) :
    result (ExceptT.mk (StateT.lift action)) state world =
      (((action.run world).1, state), (action.run world).2) := rfl

theorem result_modifyGet (change : ρ → β × ρ) (state : ρ) (world : σ) :
    result (modifyGetThe ρ change) state world =
      ((.ok (change state).1, (change state).2), world) := rfl

theorem result_get (state : ρ) (world : σ) :
    result (getThe ρ) state world = ((.ok state, state), world) := rfl

end Steps

open Steps

/-- Playing on a backend: a seating is drawn, its circuit is built and executed, and
the outcomes are scored for that seating. -/
theorem result_playOn {ρ σ : Type} [RandomSource ρ] (backend : Backend σ) (shots : UInt32)
    (script : String) (players : Nat) (source : ρ) (world : σ) :
    result (playOn backend shots script players) source world =
      if Script.isPlayable script players then
        let drawn := (Seating.draw players).run source
        match Script.circuit script players drawn.1 with
        | .error error => ((.error error, drawn.2), world)
        | .ok circuit =>
            let executed := (backend.run circuit shots).run.run world
            ((executed.1.map fun histogram => Score.ofHistogram histogram players drawn.1,
              drawn.2), executed.2)
      else ((.ok Score.zero, source), world) := by
  rw [playOn]
  split
  · simp only [result_bind, result_modifyGet, result_mk_pure, result_mk_lift, result_pure]
    cases Script.circuit script players ((Seating.draw players).run source).1 with
    | error error => rfl
    | ok circuit =>
        dsimp only
        cases ((backend.run circuit shots).run.run world).1 <;> rfl
  · rfl

theorem result_playOn_of_ok {ρ σ : Type} [RandomSource ρ] {backend : Backend σ}
    {shots : UInt32} {script : String} {players : Nat} {source : ρ} {world world' : σ}
    {circuit : Circuit} {histogram : Histogram}
    (hplayable : Script.isPlayable script players = true)
    (hcircuit : Script.circuit script players ((Seating.draw players).run source).1 = .ok circuit)
    (hrun : (backend.run circuit shots).run.run world = (.ok histogram, world')) :
    result (playOn backend shots script players) source world =
      ((.ok (Score.ofHistogram histogram players ((Seating.draw players).run source).1),
        ((Seating.draw players).run source).2), world') := by
  rw [result_playOn, if_pos hplayable]
  simp only [hcircuit, hrun]
  rfl

namespace Game

variable {α σ : Type}

theorem result_takeSeed (game : Game α σ) (world : σ) :
    result takeSeed game world =
      ((.ok (RandomSource.word.run game.stream).1,
        { game with stream := (RandomSource.word.run game.stream).2 }), world) := rfl

variable [Scalar α]

theorem result_simulate (noise : Option (Noise α)) (source : KeyStream) (script : String)
    (players : Nat) (game : Game α σ) (world : σ) :
    result (simulate noise source script players) game world =
      let drawn := RandomSource.word.run source
      let simulator : Simulator α := ⟨some drawn.1, noise⟩
      let played := result (playOn (simulator.backend drawn.1) game.config.shots script players)
        drawn.2 world
      ((played.1.1, game), played.2) := rfl

/-- A game without noise takes one word from its stream and simulates. -/
theorem result_play_ideal {script : String} {players : Nat} {game : Game α σ}
    (hplayable : Script.isPlayable script players = true) (hmode : game.config.mode = .ideal)
    (world : σ) :
    result (play script players) game world =
      let taken := RandomSource.word.run game.stream
      result (simulate none (KeyStream.ofSeed taken.1) script players)
        { game with stream := taken.2 } world := by
  rw [play, if_pos hplayable, result_bind, result_takeSeed]
  dsimp only
  rw [result_bind, result_get]
  simp only [hmode]

end Game

end GateGame
