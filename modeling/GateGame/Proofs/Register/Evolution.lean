import GateGame.Proofs.Amplitude.Complex
import GateGame.Proofs.Register.Norm
import GateGame.Proofs.Register.Reseating

namespace GateGame

/-! The states that a register goes through while operations are carried out and errors
strike its wires, in any order. Their norm is that of the first one. -/

/-- The gates that errors apply. -/
def SingleGate.IsPauli (gate : SingleGate) : Prop :=
  gate = .pauliX ∨ gate = .pauliY ∨ gate = .pauliZ

namespace Register

variable {α : Type} [Scalar α] {wires : Nat}

/-- What operations and errors can make of a state. -/
inductive Evolves (start : Register α wires) : Register α wires → Prop
  | refl : Evolves start start
  | operation {before after : Register α wires} {operation : Operation Nat}
      (earlier : Evolves start before) (applied : before.apply operation = .ok after) :
      Evolves start after
  | error {before after : Register α wires} {gate : SingleGate} {wire : Nat}
      (earlier : Evolves start before) (pauli : gate.IsPauli)
      (applied : before.apply (.single gate wire) = .ok after) : Evolves start after

variable {start before after : Register α wires}

theorem Evolves.trans (h : start.Evolves before) (hlater : before.Evolves after) :
    start.Evolves after := by
  induction hlater with
  | refl => exact h
  | operation _ applied ih => exact ih.operation applied
  | error _ pauli applied ih => exact ih.error pauli applied

theorem evolves_of_applyAll {operations : List (Operation Nat)}
    (h : start.applyAll operations = .ok after) : start.Evolves after := by
  induction operations generalizing start with
  | nil =>
      obtain rfl := Except.ok.inj h
      exact .refl
  | cons operation rest ih =>
      cases happly : start.apply operation with
      | error error => simp [applyAll, happly] at h
      | ok next =>
          rw [applyAll, happly, ok_bind] at h
          exact (Evolves.refl.operation happly).trans (ih h)

theorem evolves_of_evolved {operations : List (Operation Nat)}
    (h : evolved α wires operations = .ok after) : (zero wires).Evolves after := by
  by_cases hwires : wires ≤ maxWires
  · rw [evolved, init, if_pos hwires, ok_bind] at h
    exact evolves_of_applyAll h
  · simp [evolved, init, hwires] at h

end Register

namespace ExactReading

variable {α : Type} [Scalar α] (reading : ExactReading α) {wires : Nat}
variable {start before after : Register α wires}

theorem weight_eq_normSq (a : Amplitude α) :
    reading.weight a = Complex.normSq (reading.complex a) :=
  reading.weight_eq a

/-- The norm is the sum of the squared moduli over all basis states. -/
theorem norm_wave (register : Register α wires) :
    reading.norm wires register.wave =
      ∑ index ∈ Finset.range (basisSize wires),
        Complex.normSq (reading.complex (register.amplitude index)) := by
  apply Finset.sum_congr rfl
  intro index hindex
  rw [Register.amplitude_eq_wave (Finset.mem_range.mp hindex), weight_eq_normSq]

theorem norm_apply {operation : Operation Nat} (h : before.apply operation = .ok after) :
    reading.norm wires after.wave = reading.norm wires before.wave := by
  rw [Register.wave_of_apply h, reading.norm_act (Register.fits_of_apply h)]

theorem norm_evolves (h : start.Evolves after) :
    reading.norm wires after.wave = reading.norm wires start.wave := by
  induction h with
  | refl => rfl
  | operation _ applied ih => exact (reading.norm_apply applied).trans ih
  | error _ _ applied ih => exact (reading.norm_apply applied).trans ih

theorem norm_evolves_zero (h : (Register.zero wires).Evolves after) :
    reading.norm wires after.wave = 1 := by
  rw [reading.norm_evolves h, reading.norm_zero]

theorem norm_evolved {operations : List (Operation Nat)}
    (h : Register.evolved α wires operations = .ok after) :
    reading.norm wires after.wave = 1 :=
  reading.norm_evolves_zero (Register.evolves_of_evolved h)

end ExactReading

end GateGame
