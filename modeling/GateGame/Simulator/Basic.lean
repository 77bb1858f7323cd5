import GateGame.Histogram.Basic
import GateGame.Noise.Basic
import GateGame.Random.KeyStream
import GateGame.Register.Gates
import GateGame.Register.Sampling
import GateGame.Simulator.Readout

namespace GateGame

/-! The simulator. Without noise the register evolves once and every shot is
drawn from its final state; with noise every shot has an evolution of its own. -/

structure Simulator (α : Type) where
  /-- The seed of every run; without one each run takes fresh entropy. -/
  seed : Option UInt64
  noise : Option (Noise α)

namespace Simulator

variable {α ρ : Type} [Scalar α] [RandomSource ρ]

/-- The random source as the state of a computation that may fail. What was drawn
before a failure stays drawn. -/
abbrev Sampling (ρ : Type) := ExceptT Error (StateM ρ)

def ofExcept {β : Type} (result : Except Error β) : Sampling ρ β :=
  ExceptT.mk (pure result)

def effectiveNoise (simulator : Simulator α) : Option (Noise α) :=
  simulator.noise.filter fun noise => !noise.isIdeal

def name (simulator : Simulator α) : String :=
  if simulator.effectiveNoise.isSome then "qcards-noisy-simulator" else "qcards-simulator"

def recordShots (shot : Sampling ρ String) : Nat → Histogram → Sampling ρ Histogram
  | 0, histogram => pure histogram
  | shots + 1, histogram => do
      let outcome ← shot
      recordShots shot shots (histogram.record outcome 1)

def finalState (circuit : Circuit) : Except Error (Register α circuit.wires) := do
  let register ← (← Register.init circuit.wires).applyAll circuit.operations
  register.checkNormalization Register.defaultTolerance
  pure register

def idealShot (circuit : Circuit) (probabilities : List α) : StateM ρ String := do
  Readout.read circuit (0 : α) (← drawIndex probabilities)

def runIdeal (α : Type) [Scalar α] (circuit : Circuit) (shots : Nat) : Sampling ρ Histogram := do
  let register : Register α circuit.wires ← ofExcept (finalState circuit)
  let probabilities := register.probabilities
  recordShots (ExceptT.lift (idealShot circuit probabilities)) shots Histogram.empty

def pauliOf (draw : α) : SingleGate :=
  let position := draw * ((3 : Nat) : α)
  if position < 1 then .pauliX
  else if position < ((2 : Nat) : α) then .pauliY
  else .pauliZ

def disturb {wires : Nat} (p : α) :
    List Nat → Register α wires → Sampling ρ (Register α wires)
  | [], register => pure register
  | wire :: rest, register => do
      let draw : α ← ExceptT.lift RandomSource.uniform
      if draw < p then do
        let choice : α ← ExceptT.lift RandomSource.uniform
        let register ← ofExcept (register.apply (.single (pauliOf choice) wire))
        disturb p rest register
      else disturb p rest register

/-- The probability of an error on the wires of an operation. -/
def errorRate (noise : Noise α) (operation : Operation Nat) : α :=
  if operation.isPair then noise.pair else noise.single

def evolveNoisy {wires : Nat} (noise : Noise α) :
    List (Operation Nat) → Register α wires → Sampling ρ (Register α wires)
  | [], register => pure register
  | operation :: rest, register => do
      let register ← ofExcept (register.apply operation)
      let register ← disturb (errorRate noise operation) operation.operands register
      evolveNoisy noise rest register

def noisyShot (noise : Noise α) (circuit : Circuit) : Sampling ρ String := do
  let register : Register α circuit.wires ← ofExcept (Register.init circuit.wires)
  let register ← evolveNoisy noise circuit.operations register
  ExceptT.lift (do
    Readout.read circuit noise.readout (← drawIndex register.probabilities))

def runNoisy (noise : Noise α) (circuit : Circuit) (shots : Nat) : Sampling ρ Histogram :=
  recordShots (noisyShot noise circuit) shots Histogram.empty

def runWith (simulator : Simulator α) (circuit : Circuit) (shots : UInt32) :
    Sampling ρ Histogram :=
  match simulator.effectiveNoise with
  | none => runIdeal α circuit shots.toNat
  | some noise => do
      ofExcept noise.validate
      runNoisy noise circuit shots.toNat

def run (simulator : Simulator α) (entropy : UInt64) (circuit : Circuit) (shots : UInt32) :
    Except Error Histogram :=
  ((simulator.runWith circuit shots).run (KeyStream.ofSeed (simulator.seed.getD entropy))).1

end Simulator

end GateGame
