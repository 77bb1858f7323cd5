import GateGame.Proofs.Simulator.Shots

namespace GateGame.Simulator

/-! Registers wider than the simulator allows. A run without noise refuses one before
its first shot. A run with noise sets up a register for every shot, so it is the first
shot that refuses: when there are none, nothing does. -/

variable {α ρ : Type} [Scalar α] [RandomSource ρ] {circuit : Circuit}

theorem init_of_wide (α : Type) [Scalar α] {wires : Nat} (h : maxWires < wires) :
    (Register.init wires : Except Error (Register α wires)) =
      .error (.simulation (.tooManyWires wires)) :=
  if_neg (Nat.not_le.mpr h)

theorem runIdeal_of_wide (α : Type) [Scalar α] (h : maxWires < circuit.wires) (shots : Nat) :
    (runIdeal α circuit shots : Sampling ρ Histogram) =
      ofExcept (.error (.simulation (.tooManyWires circuit.wires))) := by
  rw [runIdeal, finalState, init_of_wide α h, error_bind, ofExcept_error_bind]

theorem noisyShot_of_wide (noise : Noise α) (h : maxWires < circuit.wires) :
    (noisyShot noise circuit : Sampling ρ String) =
      ofExcept (.error (.simulation (.tooManyWires circuit.wires))) := by
  rw [noisyShot, init_of_wide α h, ofExcept_error_bind]

theorem runNoisy_of_wide (noise : Noise α) (h : maxWires < circuit.wires) {shots : Nat}
    (hshots : shots ≠ 0) :
    (runNoisy noise circuit shots : Sampling ρ Histogram) =
      ofExcept (.error (.simulation (.tooManyWires circuit.wires))) := by
  cases shots with
  | zero => exact absurd rfl hshots
  | succ shots => rw [runNoisy, recordShots, noisyShot_of_wide noise h, ofExcept_error_bind]

theorem runNoisy_zero (noise : Noise α) (circuit : Circuit) :
    (runNoisy noise circuit 0 : Sampling ρ Histogram) = pure Histogram.empty := rfl

/-- A register that the simulator allows is not refused for its width. -/
theorem ends_runWith_of_narrow (simulator : Simulator α) (hwires : circuit.wires ≤ maxWires)
    (hcircuit : circuit.WellFormed) (shots : UInt32) :
    Ends (simulator.runWith circuit shots : Sampling ρ Histogram) (fun _ => True)
      (fun error => ∀ wires, error ≠ .simulation (.tooManyWires wires)) := by
  cases heffective : simulator.effectiveNoise with
  | none =>
      rw [runWith_of_none heffective]
      refine (ends_runIdeal α hwires hcircuit shots).mono (fun _ _ => trivial) ?_
      rintro error ⟨-, sum, tolerance, rfl⟩ wires
      simp
  | some noise =>
      rw [runWith_of_some heffective]
      by_cases hvalid : noise.Valid
      · rw [Noise.validate_of_valid hvalid, ofExcept_ok_bind]
        exact (ends_runNoisy noise hwires hcircuit shots).mono (fun _ _ => trivial)
          fun _ h => h
      · obtain ⟨field, written, hvalidate⟩ := Noise.validate_of_not_valid hvalid
        rw [hvalidate, ofExcept_error_bind]
        exact ends_error fun wires => by simp

/-- What the width of a register decides. One that is too wide is refused without
noise, and with noise once there is a shot, unless the noise profile is refused
first. With valid noise and no shots the run ends with an empty histogram, however
wide the register. Nothing is drawn in any of these cases. A register that is not too
wide is never refused for its width. -/
theorem runWith_width (simulator : Simulator α) (circuit : Circuit) (shots : UInt32)
    (source : ρ) :
    (maxWires < circuit.wires →
      (simulator.effectiveNoise = none → (simulator.runWith circuit shots).run.run source =
        (.error (.simulation (.tooManyWires circuit.wires)), source)) ∧
      ∀ noise, simulator.effectiveNoise = some noise →
        (¬ noise.Valid → ∃ field written, (simulator.runWith circuit shots).run.run source =
          (.error (.invalidNoise (.notProbability field written)), source)) ∧
        (noise.Valid → shots ≠ 0 → (simulator.runWith circuit shots).run.run source =
          (.error (.simulation (.tooManyWires circuit.wires)), source)) ∧
        (noise.Valid → shots = 0 → (simulator.runWith circuit shots).run.run source =
          (.ok Histogram.empty, source))) ∧
    (circuit.Built → circuit.wires ≤ maxWires → ∀ wires,
      ((simulator.runWith circuit shots).run.run source).1 ≠
        .error (.simulation (.tooManyWires wires))) := by
  constructor
  · intro hwide
    constructor
    · intro hnone
      rw [runWith_of_none hnone, runIdeal_of_wide α hwide, run_ofExcept]
    · intro noise hsome
      rw [runWith_of_some hsome]
      refine ⟨?_, ?_, ?_⟩
      · intro hinvalid
        obtain ⟨field, written, hvalidate⟩ := Noise.validate_of_not_valid hinvalid
        refine ⟨field, written, ?_⟩
        rw [hvalidate, ofExcept_error_bind, run_ofExcept]
      · intro hvalid hshots
        have hpositive : shots.toNat ≠ 0 := fun h => hshots (UInt32.toNat_inj.mp h)
        rw [Noise.validate_of_valid hvalid, ofExcept_ok_bind,
          runNoisy_of_wide noise hwide hpositive, run_ofExcept]
      · rintro hvalid rfl
        rw [Noise.validate_of_valid hvalid, ofExcept_ok_bind]
        exact congrArg (·.run.run source) (runNoisy_zero noise circuit)
  · intro hbuilt hwires wires heq
    have hends := ends_runWith_of_narrow simulator hwires hbuilt.wellFormed shots source
    rw [heq] at hends
    exact hends wires rfl

theorem runWith_width_one_shot :
    (((⟨none, some ⟨1, 0, 1⟩⟩ : Simulator Float).runWith ⟨17, 1, [], []⟩ 1).run.run
        (KeyStream.ofSeed 0)).1 = .error (.simulation (.tooManyWires 17)) ∧
      ∀ wires, (((⟨none, none⟩ : Simulator Float).runWith ⟨16, 1, [], []⟩ 0).run.run
        (KeyStream.ofSeed 0)).1 ≠ .error (.simulation (.tooManyWires wires)) := by
  have hwide := runWith_width (⟨none, some ⟨1, 0, 1⟩⟩ : Simulator Float) ⟨17, 1, [], []⟩ 1
    (KeyStream.ofSeed 0)
  have hnarrow := runWith_width (⟨none, none⟩ : Simulator Float) ⟨16, 1, [], []⟩ 0
    (KeyStream.ofSeed 0)
  constructor
  · have hrun := ((hwide.1 (by decide)).2 _ effectiveNoise_units).2.1 valid_units (by decide)
    exact congrArg Prod.fst hrun
  · exact hnarrow.2 (.empty 16 1) (by decide)

/-- The same register is refused without noise and passes with it, when there are no
shots. -/
theorem runWith_wide_no_shots :
    maxWires < 17 ∧
      (((⟨none, some ⟨1, 0, 1⟩⟩ : Simulator Float).runWith ⟨17, 1, [], []⟩ 0).run.run
        (KeyStream.ofSeed 0)).1 = .ok Histogram.empty ∧
      (((⟨none, none⟩ : Simulator Float).runWith ⟨17, 1, [], []⟩ 0).run.run
        (KeyStream.ofSeed 0)).1 = .error (.simulation (.tooManyWires 17)) := by
  refine ⟨by decide, ?_, rfl⟩
  rw [runWith_of_some effectiveNoise_units, Noise.validate_of_valid valid_units, ofExcept_ok_bind]
  rfl

end GateGame.Simulator
