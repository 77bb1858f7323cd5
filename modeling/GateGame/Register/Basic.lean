import GateGame.Amplitude
import GateGame.Error

namespace GateGame

/-! The state of a register of wires: an amplitude for every basis state. Bit `k`
of the number of a basis state is the value of wire `k`. -/

def basisSize (wires : Nat) : Nat := 1 <<< wires

structure Register (α : Type) (wires : Nat) where
  amplitudes : Vector (Amplitude α) (basisSize wires)

namespace Register

variable {α : Type} [Scalar α] {wires : Nat}

def zero (wires : Nat) : Register α wires :=
  ⟨(Vector.replicate (basisSize wires) 0).setIfInBounds 0 1⟩

def init (wires : Nat) : Except Error (Register α wires) :=
  if wires ≤ maxWires then .ok (zero wires)
  else .error (.simulation (.tooManyWires wires))

def amplitude (register : Register α wires) (index : Nat) : Amplitude α :=
  register.amplitudes.getD index 0

def set (register : Register α wires) (index : Nat) (value : Amplitude α) :
    Register α wires :=
  ⟨register.amplitudes.setIfInBounds index value⟩

@[simp] theorem amplitude_set (register : Register α wires) (index other : Nat)
    (value : Amplitude α) :
    (register.set index value).amplitude other =
      if index = other ∧ other < basisSize wires then value
      else register.amplitude other := by
  by_cases hother : other < basisSize wires
  · by_cases hindex : index = other <;>
      simp [amplitude, set, hother, hindex, Vector.getD]
  · simp [amplitude, set, hother, Vector.getD]

def probabilities (register : Register α wires) : List α :=
  register.amplitudes.toList.map Amplitude.normSq

def defaultTolerance : α := 1 / ((1000000000 : Nat) : α)

def checkNormalization (register : Register α wires) (tolerance : α) : Except Error Unit :=
  let sum := Scalar.sum register.probabilities
  let deviation := sum - 1
  if tolerance < deviation ∨ tolerance < -deviation then
    .error (.simulation (.notNormalized (Scalar.text sum) (Scalar.text tolerance)))
  else .ok ()

end Register

end GateGame
