import GateGame.Proofs.Simulator.Shots

namespace GateGame.Simulator

/-! The states that runs of the simulator sample, in exact arithmetic. Gates and errors
keep the norm, so without noise the check of the norm never fails, and with or without
noise the probabilities that a shot is drawn from add up to one. -/

variable {α ρ : Type} [Scalar α] [RandomSource ρ] (reading : ExactReading α)

include reading in
/-- The check of the norm makes no difference. -/
theorem finalState_eq_evolved (circuit : Circuit) :
    (finalState circuit : Except Error (Register α circuit.wires)) =
      Register.evolved α circuit.wires circuit.operations := by
  rw [finalState_eq]
  cases hevolved : Register.evolved α circuit.wires circuit.operations with
  | error error => rfl
  | ok state =>
      rw [ok_bind, reading.checkNormalization_of_norm (reading.norm_evolved hevolved), ok_bind]

theorem value_sum_finalState {circuit : Circuit} {state : Register α circuit.wires}
    (h : finalState circuit = .ok state) :
    reading.value (Scalar.sum state.probabilities) = 1 := by
  rw [reading.value_sum_probabilities, reading.norm_evolved (evolved_of_finalState h)]

theorem evolves_of_evolveNoisy {wires : Nat} {noise : Noise α}
    {operations : List (Operation Nat)} {start state : Register α wires} {source : ρ}
    (h : ((evolveNoisy noise operations start).run.run source).1 = .ok state) :
    start.Evolves state := by
  have hends := ends_evolveNoisy noise operations start source
  rw [h] at hends
  exact hends

theorem init_eq_zero {wires : Nat} {start : Register α wires}
    (h : Register.init wires = .ok start) : start = Register.zero wires := by
  by_cases hwires : wires ≤ maxWires
  · rw [Register.init, if_pos hwires] at h
    exact (Except.ok.inj h).symm
  · simp [Register.init, hwires] at h

theorem value_sum_evolveNoisy {wires : Nat} {noise : Noise α}
    {operations : List (Operation Nat)} {start state : Register α wires} {source : ρ}
    (hstart : Register.init wires = .ok start)
    (h : ((evolveNoisy noise operations start).run.run source).1 = .ok state) :
    reading.value (Scalar.sum state.probabilities) = 1 := by
  obtain rfl := init_eq_zero hstart
  rw [reading.value_sum_probabilities, reading.norm_evolves_zero (evolves_of_evolveNoisy h)]

variable (ρ) in
/-- Whatever operations are carried out and whatever errors strike, in any order and from
any state, the squared moduli of all amplitudes add up to what they did. From the state
that runs start in they add up to one, over as many basis states as ever. So no circuit
fails the check of the norm, and no register is sampled whose probabilities add up to
anything but one, without noise or with it. -/
theorem norm_trajectory (wires : Nat) :
    (∀ start after : Register α wires, start.Evolves after →
      ∑ index ∈ Finset.range (2 ^ wires),
          Complex.normSq (reading.complex (after.amplitude index)) =
        ∑ index ∈ Finset.range (2 ^ wires),
          Complex.normSq (reading.complex (start.amplitude index))) ∧
    (wires ≤ maxWires → ∃ start : Register α wires, Register.init wires = .ok start ∧
      ∀ after, start.Evolves after → after.amplitudes.toList.length = 2 ^ wires ∧
        ∑ index ∈ Finset.range (2 ^ wires),
          Complex.normSq (reading.complex (after.amplitude index)) = 1) ∧
    (∀ circuit : Circuit, (finalState circuit : Except Error (Register α circuit.wires)) =
      Register.evolved α circuit.wires circuit.operations) ∧
    (∀ (circuit : Circuit) (state : Register α circuit.wires),
      finalState circuit = .ok state →
      reading.value (Scalar.sum state.probabilities) = 1) ∧
    ∀ (circuit : Circuit) (noise : Noise α) (start state : Register α circuit.wires)
      (source : ρ), Register.init circuit.wires = .ok start →
      ((evolveNoisy noise circuit.operations start).run.run source).1 = .ok state →
      reading.value (Scalar.sum state.probabilities) = 1 := by
  have hsize : basisSize wires = 2 ^ wires := Nat.one_shiftLeft wires
  simp only [← hsize, ← reading.norm_wave]
  refine ⟨?_, ?_, finalState_eq_evolved reading, ?_, ?_⟩
  · intro start after hevolves
    exact reading.norm_evolves hevolves
  · intro hwires
    refine ⟨Register.zero wires, if_pos hwires, ?_⟩
    intro after hevolves
    exact ⟨by simp, reading.norm_evolves_zero hevolves⟩
  · intro circuit state hstate
    exact value_sum_finalState reading hstate
  · intro circuit noise start state source hstart hstate
    exact value_sum_evolveNoisy reading hstart hstate

/-- A gate, then the error that strikes its wire in every run. -/
theorem norm_trajectory_struck :
    (∃ start after last : Register ExactReal 1, Register.init 1 = .ok start ∧
      start.apply (.single .hadamard 0) = .ok after ∧
      after.apply (.single .pauliY 0) = .ok last ∧
      ∑ index ∈ Finset.range (2 ^ 1),
        Complex.normSq (ExactReal.reading.complex (last.amplitude index)) = 1) ∧
    ∃ start state : Register ExactReal 1, Register.init 1 = .ok start ∧
      ((evolveNoisy ⟨1, 1, 0⟩ [.single .hadamard 0] start).run.run (KeyStream.ofSeed 7)).1 =
        .ok state ∧
      ExactReal.reading.value (Scalar.sum state.probabilities) = 1 := by
  let circuit : Circuit := ⟨1, 1, [.single .hadamard 0], []⟩
  obtain ⟨-, hinit, -, -, hnoisy⟩ := norm_trajectory KeyStream ExactReal.reading 1
  obtain ⟨start, hstart, hevolves⟩ := hinit (by decide)
  have hfits (gate : SingleGate) : (Operation.single gate 0).Fits 1 :=
    Operation.fits_single.mpr (by decide)
  constructor
  · obtain ⟨after, hafter⟩ := (Register.exists_apply_iff start _).mpr (hfits .hadamard)
    obtain ⟨last, hlast⟩ := (Register.exists_apply_iff after _).mpr (hfits .pauliY)
    have htrajectory : start.Evolves last :=
      (Register.Evolves.refl.operation hafter).error (.inr (.inl rfl)) hlast
    exact ⟨start, after, last, hstart, hafter, hlast, (hevolves last htrajectory).2⟩
  · have hends : Ends (evolveNoisy (⟨1, 1, 0⟩ : Noise ExactReal) circuit.operations start :
        Sampling KeyStream _) start.Evolves fun _ => False := by
      refine (ends_evolveNoisy _ circuit.operations start).mono (fun _ h => h) ?_
      rintro error ⟨operation, hmem, hunfit⟩
      exact hunfit (List.mem_singleton.mp hmem ▸ hfits .hadamard)
    obtain ⟨state, hstate, -⟩ := hends.exists_ok (KeyStream.ofSeed 7)
    exact ⟨start, state, hstart, hstate, hnoisy circuit _ start state _ hstart hstate⟩

end GateGame.Simulator
