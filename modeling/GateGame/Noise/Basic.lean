import GateGame.Device.Calibration
import GateGame.Error
import GateGame.Scalar

namespace GateGame

/-! Noise profiles: how likely a gate or a measurement errs. -/

/-- The probabilities of an error after a gate on one wire, of an error on each wire
after a gate on two, and of a measured bit that is reported flipped. -/
structure Noise (α : Type) where
  single : α
  pair : α
  readout : α
  deriving DecidableEq

namespace Noise

variable {α : Type} [Scalar α]

def ideal : Noise α := ⟨0, 0, 0⟩

def typical : Noise α :=
  ⟨1 / ((1000 : Nat) : α), ((2 : Nat) : α) / ((100 : Nat) : α),
    ((3 : Nat) : α) / ((100 : Nat) : α)⟩

def isIdeal (noise : Noise α) : Bool :=
  Scalar.isZero noise.single && Scalar.isZero noise.pair && Scalar.isZero noise.readout

def IsProbability (p : α) : Prop := 0 ≤ p ∧ p ≤ 1

instance (p : α) : Decidable (IsProbability p) :=
  inferInstanceAs (Decidable (0 ≤ p ∧ p ≤ 1))

def checkField (field : NoiseField) (p : α) : Except Error Unit :=
  if IsProbability p then .ok ()
  else .error (.invalidNoise (.notProbability field (Scalar.text p)))

def validate (noise : Noise α) : Except Error Unit := do
  checkField .single noise.single
  checkField .pair noise.pair
  checkField .readout noise.readout

def ofProbabilities (single pair readout : α) : Except Error (Noise α) := do
  let noise : Noise α := ⟨single, pair, readout⟩
  noise.validate
  pure noise

/-- The profile of a device: the means of its figures, zero where it has none. -/
def ofCalibration (calibration : Calibration α) : Except Error (Noise α) :=
  ofProbabilities (Scalar.mean calibration.single) (Scalar.mean calibration.pair)
    (Scalar.mean calibration.readout)

end Noise

end GateGame
