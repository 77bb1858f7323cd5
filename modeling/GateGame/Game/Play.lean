import GateGame.Device.Session
import GateGame.Game.Config
import GateGame.Score.Aggregate
import GateGame.Script.Circuit
import GateGame.Seating.Shuffle
import GateGame.Simulator.Backend

namespace GateGame

/-! Playing a game: the players are seated at random, their script becomes a
circuit, a backend executes it, and the outcomes are scored by player. -/

section PlayOn

variable {ρ σ : Type} [RandomSource ρ]

/-- Plays a script on a backend. A script that is empty or not valid scores zero
and touches neither the backend nor the random source. -/
def playOn (backend : Backend σ) (shots : UInt32) (script : String) (players : Nat) :
    ExceptT Error (StateT ρ (StateM σ)) Score :=
  if Script.isPlayable script players then do
    let seating ← modifyGetThe ρ (Seating.draw players).run
    let circuit ← ExceptT.mk (pure (Script.circuit script players seating))
    let histogram ← ExceptT.mk (StateT.lift (backend.run circuit shots).run)
    pure (Score.ofHistogram histogram players seating)
  else pure Score.zero

end PlayOn

/-- A game: its settings, the session with a device if there is one, and the
random stream from which every run takes its seed. -/
structure Game (α σ : Type) where
  config : Config α
  session : Option (Session α σ)
  stream : KeyStream

namespace Game

variable {α σ : Type}

def ofConfig (config : Config α) (entropy : UInt64) : Game α σ where
  config := config
  session := none
  stream := KeyStream.ofSeed (config.seed.getD entropy)

def withSession (game : Game α σ) (session : Session α σ) : Game α σ :=
  { game with session := some session }

abbrev Playing (α σ : Type) := ExceptT Error (StateT (Game α σ) (StateM σ))

def ofExcept {β : Type} (result : Except Error β) : Playing α σ β :=
  ExceptT.mk (pure result)

def outside {β : Type} (action : Outside σ β) : Playing α σ β :=
  ExceptT.mk (StateT.lift action.run)

def takeSeed : Playing α σ UInt64 :=
  ExceptT.lift (modifyGet fun game =>
    let (seed, stream) := RandomSource.word.run game.stream
    (seed, { game with stream }))

def device? : Playing α σ (Option (Device α σ)) := do
  match (← getThe (Game α σ)).session with
  | none => pure none
  | some session =>
      let (result, session) ← ExceptT.lift (StateT.lift session.ensure)
      modifyThe (Game α σ) fun game => { game with session := some session }
      some <$> ofExcept result

variable [Scalar α]

/-- The noise of a noisy game: as configured, else as the device reports it, else
typical. -/
def noise : Playing α σ (Noise α) := do
  match (← getThe (Game α σ)).config.noise with
  | some noise => pure noise
  | none =>
      match ← device? with
      | some device => ofExcept (Noise.ofCalibration (← outside device.calibration))
      | none => pure Noise.typical

def playWith (backend : Backend σ) (source : KeyStream) (script : String) (players : Nat) :
    Playing α σ Score := do
  let shots := (← getThe (Game α σ)).config.shots
  outside (ExceptT.mk ((playOn backend shots script players).run.run' source))

def simulate (noise : Option (Noise α)) (source : KeyStream) (script : String)
    (players : Nat) : Playing α σ Score :=
  let (seed, source) := RandomSource.word.run source
  let simulator : Simulator α := ⟨some seed, noise⟩
  playWith (simulator.backend seed) source script players

/-- Plays a script. Each script that is executed takes one seed from the game's
stream, whether or not the execution succeeds. -/
def play (script : String) (players : Nat) : Playing α σ Score :=
  if Script.isPlayable script players then do
    let source := KeyStream.ofSeed (← takeSeed)
    match (← getThe (Game α σ)).config.mode with
    | .ideal => simulate none source script players
    | .noisy => do
        let noise ← noise
        simulate (some noise) source script players
    | .device => do
        match ← device? with
        | some device => playWith device.toBackend source script players
        | none => throw (.deviceUnavailable .noSession)
  else pure Score.zero

end Game

/-- The score of a single game without a device, in the mode that two switches
select. -/
def getScores (α : Type) [Scalar α] (entropy : UInt64) (script : String) (players : Nat)
    (simulate noisy : Bool) : Except Error Score :=
  let game : Game α Unit := Game.ofConfig (Config.ofFlags simulate noisy) entropy
  (((Game.play script players).run.run' game).run ()).1

end GateGame
