import GateGame.Proofs.Game.Execution

namespace GateGame

/-! The runs of a game. What is drawn for a run is a seating and a seed for the simulator;
both come from a stream of the run's own, which one word of the game's stream has
seeded. -/

open Steps

namespace Game

/-- The stream of the run that the next word of a stream seeds. -/
def runStream (stream : KeyStream) : KeyStream :=
  KeyStream.ofSeed (RandomSource.word.run stream).1

/-- The seed of the simulator in a run with the stream given. -/
def simulatorSeed (run : KeyStream) : UInt64 :=
  (RandomSource.word.run run).1

/-- The seating in a run with the stream given. A simulated run takes the seed of its
simulator first. -/
def seating (mode : Mode) (players : Nat) (run : KeyStream) : Seating :=
  match mode with
  | .ideal | .noisy => ((Seating.draw players).run (RandomSource.word.run run).2).1
  | .device => ((Seating.draw players).run run).1

theorem size_seating (mode : Mode) (players : Nat) (run : KeyStream) :
    (seating mode players run).size = players := by
  cases mode <;> exact Seating.size_draw ..

variable {α σ : Type}

/-- Executes a script for players who are seated, and scores it. -/
def execute (backend : Backend σ) (seating : Seating) (script : String) (players : Nat) :
    Playing α σ Score := do
  let circuit ← ofExcept (Script.circuit script players seating)
  let histogram ← outside (backend.run circuit (← getThe (Game α σ)).config.shots)
  pure (Score.ofHistogram histogram players seating)

theorem result_execute_of_ok {backend : Backend σ} {seating : Seating} {script : String}
    {players : Nat} {circuit : Circuit} (h : Script.circuit script players seating = .ok circuit)
    (game : Game α σ) (world : σ) :
    result (execute backend seating script players) game world =
      let executed := (backend.run circuit game.config.shots).run.run world
      ((executed.1.map fun histogram => Score.ofHistogram histogram players seating, game),
        executed.2) := by
  rw [execute, h, result_bind]
  change result (outside (backend.run circuit game.config.shots) >>= _) game world = _
  rw [result_bind, outside, result_mk_lift]
  dsimp only
  cases ((backend.run circuit game.config.shots).run.run world).1 <;> rfl

theorem result_playWith {script : String} {players : Nat}
    (hplayable : Script.isPlayable script players = true) (backend : Backend σ)
    (source : KeyStream) (game : Game α σ) (world : σ) :
    result (playWith backend source script players) game world =
      result (execute backend ((Seating.draw players).run source).1 script players) game
        world := by
  obtain ⟨circuit, hcircuit, hplayed⟩ := result_playOn_of_isPlayable hplayable source
  have hresult := hplayed backend game.config.shots world
  rw [result_execute_of_ok hcircuit]
  have hplay : result (playWith backend source script players) game world =
      let played := result (playOn backend game.config.shots script players) source world
      ((played.1.1, game), played.2) := rfl
  rw [hplay, hresult]

theorem result_device?_of_none {game : Game α σ} (h : game.session = none) (world : σ) :
    result device? game world = ((.ok none, game), world) := by
  rw [device?, result_bind, result_get]
  simp only [h]
  rfl

theorem result_device?_of_some {game : Game α σ} {session : Session α σ}
    (h : game.session = some session) (world : σ) :
    result device? game world =
      let ensured := session.ensure.run world
      ((ensured.1.1.map some, { game with session := some ensured.1.2 }), ensured.2) := by
  rw [device?, result_bind, result_get]
  simp only [h]
  rw [result_bind]
  change result (_ <$> ofExcept (session.ensure.run world).1.1) _ _ = _
  cases (session.ensure.run world).1.1 <;> rfl

variable [Scalar α]

/-- Plays a script for players who are seated, with a seed for the simulator. Nothing
more is drawn. -/
def playSeated (seating : Seating) (seed : UInt64) (script : String) (players : Nat) :
    Playing α σ Score := do
  match (← getThe (Game α σ)).config.mode with
  | .ideal =>
      execute ((⟨some seed, none⟩ : Simulator α).backend seed) seating script players
  | .noisy => do
      let noise ← noise
      execute ((⟨some seed, some noise⟩ : Simulator α).backend seed) seating script players
  | .device => do
      match ← device? with
      | some device => execute device.toBackend seating script players
      | none => throw (.deviceUnavailable .noSession)

theorem result_play_of_not_isPlayable {script : String} {players : Nat}
    (h : Script.isPlayable script players = false) (game : Game α σ) (world : σ) :
    result (play script players) game world = ((.ok Score.zero, game), world) := by
  rw [play, if_neg (by simp [h])]
  rfl

/-- A script that is played takes one word from the stream of the game, which seeds the
stream of the run. -/
theorem result_play {script : String} {players : Nat}
    (hplayable : Script.isPlayable script players = true) (game : Game α σ) (world : σ) :
    result (play script players) game world =
      result (playSeated (seating game.config.mode players (runStream game.stream))
          (simulatorSeed (runStream game.stream)) script players)
        { game with stream := (RandomSource.word.run game.stream).2 } world := by
  rw [play, if_pos hplayable, result_bind, result_takeSeed]
  dsimp only
  rw [result_bind, result_get, playSeated, result_bind, result_get]
  dsimp only
  cases game.config.mode with
  | ideal => exact result_playWith hplayable _ _ _ world
  | noisy =>
      dsimp only
      rw [result_bind, result_bind]
      rcases result noise _ world with ⟨⟨noise | noise, after⟩, outside⟩
      · rfl
      · exact result_playWith hplayable _ _ after outside
  | device =>
      dsimp only
      rw [result_bind, result_bind]
      rcases result device? _ world with ⟨⟨error | device, after⟩, outside⟩
      · rfl
      · cases device with
        | none => rfl
        | some device => exact result_playWith hplayable _ _ after outside

section Streamless

variable {β γ : Type}

/-- Neither reads nor changes the stream of the game: another stream passes through
unchanged, and everything else stays what it was. -/
def Streamless (steps : Playing α σ β) : Prop :=
  ∀ (game : Game α σ) (world : σ) (stream : KeyStream),
    result steps { game with stream } world =
      (((result steps game world).1.1, { (result steps game world).1.2 with stream }),
        (result steps game world).2)

omit [Scalar α]

theorem Streamless.bind {first : Playing α σ β} {next : β → Playing α σ γ}
    (hfirst : Streamless first) (hnext : ∀ value, Streamless (next value)) :
    Streamless (first >>= next) := by
  intro game world stream
  rw [result_bind, result_bind, hfirst]
  rcases result first game world with ⟨⟨error | value, after⟩, outside⟩
  · rfl
  · exact hnext value after outside stream

theorem streamless_ofExcept (value : Except Error β) :
    Streamless (ofExcept value : Playing α σ β) :=
  fun _ _ _ => rfl

theorem streamless_pure (value : β) : Streamless (pure value : Playing α σ β) :=
  fun _ _ _ => rfl

theorem streamless_outside (action : Outside σ β) : Streamless (outside action : Playing α σ β) :=
  fun _ _ _ => rfl

/-- Steps that look only at the settings and the session of a game. -/
theorem streamless_of_get {next : Game α σ → Playing α σ β} (hnext : ∀ game, Streamless (next game))
    (hread : ∀ game stream, next { game with stream } = next game) :
    Streamless (getThe (Game α σ) >>= next) := by
  intro game world stream
  rw [result_bind, result_get, result_bind, result_get]
  dsimp only
  rw [hread]
  exact hnext game game world stream

theorem streamless_device? : Streamless (device? : Playing α σ (Option (Device α σ))) := by
  intro game world stream
  rcases game with ⟨config, _ | session, old⟩
  · rfl
  · rw [result_device?_of_some rfl, result_device?_of_some rfl]

theorem streamless_execute (backend : Backend σ) (seating : Seating) (script : String)
    (players : Nat) : Streamless (execute backend seating script players : Playing α σ Score) := by
  refine (streamless_ofExcept _).bind fun circuit => ?_
  refine streamless_of_get (fun game => ?_) fun _ _ => rfl
  exact (streamless_outside _).bind fun histogram => streamless_pure _

end Streamless

theorem result_noise_of_some {game : Game α σ} {profile : Noise α}
    (h : game.config.noise = some profile) (world : σ) :
    result noise game world = ((.ok profile, game), world) := by
  rw [noise, result_bind, result_get]
  simp only [h]
  rfl

theorem streamless_noise : Streamless (noise : Playing α σ (Noise α)) := by
  refine streamless_of_get (fun game => ?_) fun _ _ => rfl
  cases game.config.noise with
  | some noise => exact streamless_pure noise
  | none =>
      refine streamless_device?.bind fun device => ?_
      cases device with
      | none => exact streamless_pure _
      | some device =>
          exact (streamless_outside _).bind fun calibration => streamless_ofExcept _

/-- With the seating and the seed given, the stream is left alone, whether playing
succeeds or fails. -/
theorem streamless_playSeated (seating : Seating) (seed : UInt64) (script : String)
    (players : Nat) : Streamless (playSeated seating seed script players : Playing α σ Score) := by
  refine streamless_of_get (fun game => ?_) fun _ _ => rfl
  cases game.config.mode with
  | ideal => exact streamless_execute _ seating script players
  | noisy => exact streamless_noise.bind fun noise => streamless_execute _ seating script players
  | device =>
      refine streamless_device?.bind fun device => ?_
      cases device with
      | none => exact streamless_ofExcept (.error _)
      | some device => exact streamless_execute _ seating script players

end Game

/-! Settings with which nothing outside has a say. -/

section SelfContained

variable {α σ : Type}

/-- The simulation needs no noise, or is told the noise. -/
def Config.IsSelfContained (config : Config α) : Prop :=
  config.mode = .ideal ∨ config.mode = .noisy ∧ config.noise.isSome = true

variable [Scalar α]

/-- The score of a run that is simulated with the settings given. -/
def Config.simulate (config : Config α) (seating : Seating) (seed : UInt64) (script : String)
    (players : Nat) : Except Error Score := do
  let simulator : Simulator α := ⟨some seed, if config.mode = .noisy then config.noise else none⟩
  let circuit ← Script.circuit script players seating
  let histogram ← simulator.run seed circuit config.shots
  pure (Score.ofHistogram histogram players seating)

theorem Game.result_execute_backend (simulator : Simulator α) (seed : UInt64) (seating : Seating)
    (script : String) (players : Nat) (game : Game α σ) (world : σ) :
    result (execute (simulator.backend seed) seating script players) game world =
      ((do
          let circuit ← Script.circuit script players seating
          let histogram ← simulator.run seed circuit game.config.shots
          pure (Score.ofHistogram histogram players seating), game), world) := by
  cases hcircuit : Script.circuit script players seating with
  | error error => rw [execute, hcircuit]; rfl
  | ok circuit =>
      rw [result_execute_of_ok hcircuit]
      change ((Except.map _ (simulator.run seed circuit game.config.shots), game), world) = _
      cases hrun : simulator.run seed circuit game.config.shots <;> simp only [ok_bind, hrun] <;> rfl

theorem Game.result_playSeated_of_isSelfContained {game : Game α σ}
    (h : game.config.IsSelfContained) (seating : Seating) (seed : UInt64) (script : String)
    (players : Nat) (world : σ) :
    result (playSeated seating seed script players) game world =
      ((game.config.simulate seating seed script players, game), world) := by
  rw [playSeated, result_bind, result_get]
  rcases h with hmode | ⟨hmode, hnoise⟩
  · simp only [hmode]
    rw [result_execute_backend, Config.simulate, hmode]
    rfl
  · obtain ⟨noise, hsome⟩ := Option.isSome_iff_exists.mp hnoise
    simp only [hmode]
    rw [result_bind, result_noise_of_some hsome]
    dsimp only
    rw [result_execute_backend, Config.simulate, hmode, hsome]
    rfl

theorem Game.result_play_of_isSelfContained {script : String} {players : Nat}
    (hplayable : Script.isPlayable script players = true) {game : Game α σ}
    (h : game.config.IsSelfContained) (world : σ) :
    result (play script players) game world =
      ((game.config.simulate (seating game.config.mode players (runStream game.stream))
          (simulatorSeed (runStream game.stream)) script players,
        { game with stream := (RandomSource.word.run game.stream).2 }), world) := by
  let after : Game α σ := { game with stream := (RandomSource.word.run game.stream).2 }
  have hafter : after.config.IsSelfContained := h
  rw [result_play hplayable]
  exact result_playSeated_of_isSelfContained hafter ..

end SelfContained

end GateGame
