import GateGame.Proofs.Amplitude.Exact
import GateGame.Proofs.Register.Wave

namespace GateGame

open Function (update)

/-! The norm of a state in exact arithmetic. A gate mixes the amplitudes of basis
states that differ in its wires by a unitary matrix, so summed over all basis states
the squared moduli stay what they were. -/

variable {wires : Nat}

/-- Setting a wire to both of its values goes through all basis states twice. -/
theorem sum_update {target : Nat} (htarget : target < wires) (f : (Nat → Bool) → ℝ) :
    ∑ index ∈ Finset.range (basisSize wires),
        (f (update index.testBit target false) + f (update index.testBit target true)) =
      2 * ∑ index ∈ Finset.range (basisSize wires), f index.testBit := by
  let flipped (index : Nat) : Nat := setWire wires target (!index.testBit target) index
  have hflipped {index : Nat} (hindex : index ∈ Finset.range (basisSize wires)) :
      (flipped index).testBit = update index.testBit target (!index.testBit target) :=
    testBit_setWire_eq_update htarget (Finset.mem_range.mp hindex) _
  have hmem (index : Nat) : flipped index ∈ Finset.range (basisSize wires) :=
    Finset.mem_range.mpr (setWire_lt ..)
  have htwice {index : Nat} (hindex : index ∈ Finset.range (basisSize wires)) :
      flipped (flipped index) = index := by
    apply Nat.eq_of_testBit_eq
    intro wire
    rw [hflipped (hmem index), hflipped hindex]
    simp
  have hsplit : ∀ index ∈ Finset.range (basisSize wires),
      f (update index.testBit target false) + f (update index.testBit target true) =
        f index.testBit + f (flipped index).testBit := by
    intro index hindex
    have hself := Function.update_eq_self target index.testBit
    rw [hflipped hindex]
    cases hvalue : index.testBit target <;> rw [hvalue] at hself
    · rw [hself]
      rfl
    · rw [hself, add_comm]
      rfl
  have hbijection : ∑ index ∈ Finset.range (basisSize wires), f (flipped index).testBit =
      ∑ index ∈ Finset.range (basisSize wires), f index.testBit :=
    Finset.sum_nbij' flipped flipped (fun index _ => hmem index) (fun index _ => hmem index)
      (fun _ hindex => htwice hindex) (fun _ hindex => htwice hindex) (fun _ _ => rfl)
  rw [Finset.sum_congr rfl hsplit, Finset.sum_add_distrib, hbijection, two_mul]

/-- Setting two wires to all of their values goes through all basis states four times. -/
theorem sum_update_pair {first second : Nat} (hfirst : first < wires) (hsecond : second < wires)
    (f : (Nat → Bool) → ℝ) :
    ∑ index ∈ Finset.range (basisSize wires),
        (Register.quadValues.map fun values =>
          f (update (update index.testBit first values.1) second values.2)).sum =
      4 * ∑ index ∈ Finset.range (basisSize wires), f index.testBit := by
  have hinner := sum_update hsecond f
  have houter := sum_update hfirst fun values =>
    f (update values second false) + f (update values second true)
  rw [hinner] at houter
  calc
    _ = ∑ index ∈ Finset.range (basisSize wires),
          (f (update (update index.testBit first false) second false) +
              f (update (update index.testBit first false) second true) +
            (f (update (update index.testBit first true) second false) +
              f (update (update index.testBit first true) second true))) := by
      apply Finset.sum_congr rfl
      intro index _
      simp only [Register.quadValues, List.map_cons, List.map_nil, List.sum_cons, List.sum_nil]
      ring
    _ = 4 * ∑ index ∈ Finset.range (basisSize wires), f index.testBit := by
      rw [houter]
      ring

/-- The only way in which the check of the norm fails. -/
theorem Register.exists_of_checkNormalization {α : Type} [Scalar α] {register : Register α wires}
    {tolerance : α} {error : Error} (h : register.checkNormalization tolerance = .error error) :
    ∃ sum written, error = .simulation (.notNormalized sum written) := by
  simp only [checkNormalization] at h
  split at h
  · exact ⟨_, _, (Except.error.inj h).symm⟩
  · cases h

namespace ExactReading

variable {α : Type} [Scalar α] (reading : ExactReading α)

/-- The sum of the squared moduli of all amplitudes. -/
def norm (wires : Nat) (wave : Wave α) : ℝ :=
  ∑ index ∈ Finset.range (basisSize wires), reading.weight (wave index.testBit)

theorem norm_act {operation : Operation Nat} (hfits : operation.Fits wires) (wave : Wave α) :
    reading.norm wires (operation.act wave) = reading.norm wires wave := by
  cases operation with
  | single gate target =>
      have htarget := Operation.fits_single.mp hfits
      have hafter := sum_update htarget fun values =>
        reading.weight (Operation.act wave (.single gate target) values)
      have hbefore := sum_update htarget fun values => reading.weight (wave values)
      simp only [Operation.act, Function.update_self, Function.update_idem,
        reading.weight_single] at hafter
      have hdouble := hafter.symm.trans hbefore
      simp only [norm, Operation.act]
      linarith
  | pair gate first second =>
      obtain ⟨hfirst, hsecond, hne⟩ := Operation.fits_pair.mp hfits
      have hafter := sum_update_pair hfirst hsecond fun values =>
        reading.weight (Operation.act wave (.pair gate first second) values)
      have hbefore := sum_update_pair hfirst hsecond fun values => reading.weight (wave values)
      have hvalue (values : Nat → Bool) (a b : Bool) :
          update (update values first a) second b first = a := by
        simp [hne]
      have hcolumn (values : Nat → Bool) (a b c d : Bool) :
          update (update (update (update values first a) second b) first c) second d =
            update (update values first c) second d := by
        rw [Function.update_comm hne, Function.update_idem, Function.update_comm hne.symm,
          Function.update_idem]
      simp only [Operation.act, hvalue, Function.update_self, hcolumn, Prod.mk.eta,
        reading.weight_pair] at hafter
      have hquadruple := hafter.symm.trans hbefore
      simp only [norm, Operation.act]
      linarith

theorem norm_zero (wires : Nat) :
    reading.norm wires (Register.zero wires : Register α wires).wave = 1 := by
  have hterm : ∀ index ∈ Finset.range (basisSize wires),
      reading.weight ((Register.zero wires : Register α wires).wave index.testBit) =
        if index = 0 then 1 else 0 := by
    intro index hindex
    have hlt := Finset.mem_range.mp hindex
    rw [← Register.amplitude_eq_wave hlt, Register.amplitude_zero hlt]
    split
    · exact reading.weight_one
    · exact reading.weight_zero
  have hpositive : 0 < basisSize wires := by
    rw [basisSize, Nat.one_shiftLeft]
    exact Nat.two_pow_pos wires
  rw [norm, Finset.sum_congr rfl hterm, Finset.sum_ite_eq', if_pos (Finset.mem_range.mpr hpositive)]

theorem value_sum_probabilities (register : Register α wires) :
    reading.value (Scalar.sum register.probabilities) = reading.norm wires register.wave := by
  have hterm : ∀ index ∈ Finset.range (basisSize wires),
      reading.weight (register.wave index.testBit) = reading.weight (register.amplitude index) := by
    intro index hindex
    rw [Register.amplitude_eq_wave (Finset.mem_range.mp hindex)]
  rw [reading.value_sum, Register.probabilities_eq, List.map_map, norm,
    Finset.sum_congr rfl hterm]
  rfl

theorem checkNormalization_of_norm {register : Register α wires}
    (h : reading.norm wires register.wave = 1) :
    register.checkNormalization Register.defaultTolerance = .ok () := by
  have hsum := reading.value_sum_probabilities register
  have htolerance : 0 < reading.value Register.defaultTolerance := by
    rw [Register.defaultTolerance, reading.value_div, reading.value_one, reading.value_natCast]
    positivity
  rw [Register.checkNormalization]
  apply if_neg
  rw [reading.value_lt, reading.value_lt, reading.value_neg, reading.value_sub, hsum, h,
    reading.value_one]
  norm_num
  linarith

end ExactReading

end GateGame
