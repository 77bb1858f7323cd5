import GateGame.Proofs.Random.Uniforms
import GateGame.Proofs.Register.Draws
import GateGame.Proofs.Register.Evolution
import GateGame.Proofs.Score.Seated
import GateGame.Proofs.Script.Spelling
import GateGame.Proofs.Simulator.Certain

namespace GateGame

/-! Outcomes that are possible. In exact arithmetic a draw never selects a basis state
whose amplitude is zero, so a run without noise records nothing but what the final state
admits. -/

namespace ExactReading

variable {α : Type} [Scalar α] (reading : ExactReading α)

theorem value_fraction_nonneg (n : Nat) :
    0 ≤ reading.value ((n : α) / ((9007199254740992 : Nat) : α)) := by
  rw [reading.value_div, reading.value_natCast, reading.value_natCast]
  positivity

theorem value_nonneg_of_mem_probabilities {wires : Nat} (register : Register α wires) :
    ∀ p ∈ register.probabilities, 0 ≤ reading.value p := by
  intro p hp
  obtain ⟨a, -, rfl⟩ := List.mem_map.mp hp
  rw [← weight, weight_eq]
  exact add_nonneg (mul_self_nonneg _) (mul_self_nonneg _)

variable {ρ : Type} [RandomSource ρ] {wires : Nat}

/-- Measuring a register yields a basis state whose amplitude is not zero. -/
theorem amplitude_drawIndex_ne_zero {register : Register α wires}
    (hnorm : reading.norm wires register.wave = 1) (source : ρ) :
    ((drawIndex register.probabilities).run source).1 < basisSize wires ∧
      register.amplitude ((drawIndex register.probabilities).run source).1 ≠ 0 := by
  have htotal : (register.probabilities.map reading.value).sum = 1 := by
    rw [← reading.value_sum, reading.value_sum_probabilities, hnorm]
  obtain ⟨word, hword⟩ : ∃ word : UInt64, ((drawIndex register.probabilities).run source).1 =
      sampleIndex register.probabilities
        (((word >>> 11).toNat : α) / ((9007199254740992 : Nat) : α)) :=
    ⟨(RandomSource.word.run source).1, rfl⟩
  obtain ⟨p, hp, hpositive⟩ := reading.positive_of_sampleIndex
    (reading.value_nonneg_of_mem_probabilities register) (htotal ▸ one_pos)
    (reading.value_fraction_nonneg (word >>> 11).toNat)
  rw [hword]
  generalize sampleIndex register.probabilities _ = index at hp
  rw [Register.probabilities_eq, List.getElem?_map] at hp
  obtain ⟨other, hother, rfl⟩ := Option.map_eq_some_iff.mp hp
  obtain ⟨hlt, rfl⟩ := List.getElem?_eq_some_iff.mp hother
  rw [List.getElem_range] at hpositive
  rw [List.length_range] at hlt
  refine ⟨hlt, fun hzero => ?_⟩
  rw [hzero] at hpositive
  exact absurd hpositive (by rw [← reading.weight_zero]; exact lt_irrefl _)

include reading in
theorem zero_lt_normSq {a : Amplitude α} (h : a ≠ 0) : 0 < a.normSq := by
  have hcomplex : reading.complex a ≠ 0 := mt reading.complex_eq_zero.mp h
  have hweight : reading.value a.normSq = Complex.normSq (reading.complex a) :=
    reading.weight_eq_normSq a
  rw [reading.value_lt, reading.value_zero, hweight]
  exact Complex.normSq_pos.mpr hcomplex

include reading in
theorem not_zero_lt_zero : ¬ (0 : α) < 0 := by
  rw [reading.value_lt]
  exact lt_irrefl _

include reading in
theorem exactComparisons : ExactComparisons α where
  not_zero_lt_zero := reading.not_zero_lt_zero
  zero_le_zero := by
    rw [reading.value_le]
  zero_le_one := by
    rw [reading.value_le, reading.value_zero, reading.value_one]
    exact zero_le_one
  bounds_of_zero_lt x h := by
    rw [reading.value_lt] at h
    rw [reading.value_le, reading.value_le]
    exact ⟨h.le, h.not_ge⟩
  fraction_bounds n h := by
    rw [reading.value_lt, reading.value_lt, reading.value_zero, reading.value_one]
    refine ⟨(reading.value_fraction_nonneg n).not_gt, ?_⟩
    rw [reading.value_div, reading.value_natCast, reading.value_natCast]
    exact (div_lt_one (by positivity)).mpr (by exact_mod_cast h)

end ExactReading

instance {α : Type} [Scalar α] [ExactScalar α] : ExactComparisons α :=
  ExactScalar.exists_reading.elim ExactReading.exactComparisons

/-- The wires can show the outcome: it reads off an assignment whose amplitude is not
zero. -/
def Wave.Admits {α : Type} [Scalar α] (wires : Nat) (wave : Wave α) (outcome : String) : Prop :=
  ∃ values : Nat → Bool, wave values ≠ 0 ∧ outcome = outcomeOf wires values

namespace Simulator

variable {α ρ : Type} [Scalar α] [RandomSource ρ] {circuit : Circuit}

theorem ends_idealShot_exact (reading : ExactReading α) {state : Register α circuit.wires}
    (hnorm : reading.norm circuit.wires state.wave = 1) (hbits : circuit.bits = circuit.wires)
    (hmeasured : circuit.measurements = (List.range circuit.wires).map fun k => ⟨k, k⟩) :
    Ends (ExceptT.lift (idealShot circuit state.probabilities) : Sampling ρ String)
      (state.wave.Admits circuit.wires) (fun _ => False) := by
  apply ends_lift
  intro source
  obtain ⟨hlt, hne⟩ := reading.amplitude_drawIndex_ne_zero hnorm source
  rw [Register.amplitude_eq_wave hlt] at hne
  refine ⟨_, hne, ?_⟩
  rw [idealShot]
  simp only [Readout.read_measureAll reading.not_zero_lt_zero hbits hmeasured]
  rfl

/-- A run without noise on a circuit that measures all of its wires succeeds, and records
nothing but what the final state admits. -/
theorem ends_runIdeal_exact (reading : ExactReading α) (hwires : circuit.wires ≤ maxWires)
    (hfits : ∀ operation ∈ circuit.operations, operation.Fits circuit.wires)
    (hbits : circuit.bits = circuit.wires)
    (hmeasured : circuit.measurements = (List.range circuit.wires).map fun k => ⟨k, k⟩)
    (shots : UInt32) :
    Ends (runIdeal α circuit shots.toNat : Sampling ρ Histogram)
      (fun histogram => ∀ entry ∈ histogram.entries,
        (Operation.actAll (Register.zero circuit.wires : Register α circuit.wires).wave
          circuit.operations).Admits circuit.wires entry.1) (fun _ => False) := by
  obtain ⟨state, hstate, hwave⟩ := Register.evolved_of_fits α hwires hfits
  have hnorm := reading.norm_evolved hstate
  rw [runIdeal_of_evolved hstate, reading.checkNormalization_of_norm hnorm, ofExcept_ok_bind,
    ← hwave]
  exact ((ends_idealShot_exact reading hnorm hbits hmeasured).recordAll shots).mono
    (fun _ h => h.2) fun _ h => h

end Simulator

namespace Script

variable {α : Type} [Scalar α]

/-- The state that a script leads to, by the values of the players. -/
def playerState (α : Type) [Scalar α] (script : String) (players : Nat) : Wave α :=
  Operation.actAll (Register.zero players : Register α players).wave
    (playerOperations script players)

/-- A valid script, wherever the players sit, is run with success, and the outcomes are
those that the players can see. -/
theorem run_ideal_exact [ExactScalar α] {script : String} {seating : Seating}
    (hvalid : isValid script seating.size = true) (seed entropy : UInt64) (shots : UInt32) :
    ∃ histogram,
      (⟨some seed, none⟩ : Simulator α).run entropy
        (circuitOf seating.size seating (playerOperations script seating.size)) shots =
          .ok histogram ∧
      ∀ entry ∈ histogram.entries, ∃ wins : Nat → Bool,
        playerState α script seating.size wins ≠ 0 ∧ entry.1 = seating.outcome wins := by
  obtain ⟨reading⟩ := ExactScalar.exists_reading (α := α)
  let circuit := circuitOf seating.size seating (playerOperations script seating.size)
  have hwires : circuit.wires ≤ maxWires :=
    Nat.le_trans (isValid_iff.mp hvalid).1.2 (by decide)
  obtain ⟨histogram, hrun, hentries⟩ := (Simulator.ends_runIdeal_exact reading hwires
    (operations_fit script seating) rfl rfl shots).exists_ok (KeyStream.ofSeed seed)
  refine ⟨histogram, hrun, fun entry hentry => ?_⟩
  obtain ⟨values, hvalues, houtcome⟩ := hentries entry hentry
  have hstate : playerState α script seating.size (values ∘ seating.wire) =
      Operation.actAll (Register.zero circuit.wires : Register α circuit.wires).wave
        circuit.operations values := by
    rw [playerState, ← Seating.playerWave_zero, ← Seating.playerWave_actAll,
      Seating.playerWave, Seating.comp_wire_player]
    rfl
  refine ⟨values ∘ seating.wire, hstate ▸ hvalues, ?_⟩
  rw [houtcome, Seating.outcome, Seating.comp_wire_player]
  rfl

end Script

end GateGame
