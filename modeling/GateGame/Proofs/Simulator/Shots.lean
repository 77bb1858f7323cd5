import GateGame.Proofs.Circuit.Built
import GateGame.Proofs.Noise.Validate
import GateGame.Proofs.Register.Evolution
import GateGame.Proofs.Simulator.Readout
import GateGame.Proofs.Simulator.Sampling

namespace GateGame

/-! Runs of the simulator, shot by shot. On a circuit that can be built no gate and no
error is refused, so every shot ends with an outcome, and every outcome is counted.
What is left to fail is the check of the norm before a run without noise is sampled,
and that only when the arithmetic rounds. -/

/-- Every place that a run of the circuit reads or writes by its number exists: the
amplitudes that its gates and the errors on their wires combine, the wires it
measures and the bits it measures them into. -/
structure Circuit.InRange (circuit : Circuit) : Prop where
  gates : ∀ operation ∈ circuit.operations,
    ∀ index ∈ Register.touched circuit.wires operation, index < basisSize circuit.wires
  errors : ∀ operation ∈ circuit.operations, ∀ wire ∈ operation.operands,
    ∀ gate, ∀ index ∈ Register.touched circuit.wires (.single gate wire),
      index < basisSize circuit.wires
  measured : ∀ measurement ∈ circuit.measurements,
    measurement.wire < circuit.wires ∧ measurement.bit < circuit.bits

theorem Circuit.WellFormed.inRange {circuit : Circuit} (h : circuit.WellFormed) :
    circuit.InRange where
  gates operation hoperation := Register.touched_lt (h.operations operation hoperation)
  errors operation hoperation wire hwire gate := by
    have hlt := (h.operations operation hoperation).1 wire hwire
    exact Register.touched_lt (Operation.fits_single.mpr hlt)
  measured := h.measurements

namespace Simulator

variable {α ρ : Type} [Scalar α] [RandomSource ρ] {Failure : Error → Prop}

section Noisy

variable {wires : Nat}

theorem pauliOf_isPauli (draw : α) : (pauliOf draw).IsPauli := by
  unfold pauliOf
  dsimp only
  split
  · exact .inl rfl
  · split
    · exact .inr (.inl rfl)
    · exact .inr (.inr rfl)

/-- Errors on wires take a register to a state that it can evolve to. None is refused
unless a wire does not exist. -/
theorem ends_disturb (p : α) (operands : List Nat) (register : Register α wires) :
    Ends (disturb p operands register : Sampling ρ _) register.Evolves
      (fun _ => ∃ wire ∈ operands, ¬ wire < wires) := by
  induction operands generalizing register with
  | nil => exact ends_pure .refl
  | cons wire rest ih =>
      have hrest : (∃ other ∈ rest, ¬ other < wires) → ∃ other ∈ wire :: rest, ¬ other < wires := by
        rintro ⟨other, hmem, hother⟩
        exact ⟨other, List.mem_cons_of_mem wire hmem, hother⟩
      rw [disturb]
      refine ends_any.bind fun draw _ => ?_
      split
      · refine ends_any.bind fun choice _ => ?_
        cases happly : register.apply (.single (pauliOf choice) wire) with
        | ok after =>
            have hstep := Register.Evolves.refl.error (pauliOf_isPauli choice) happly
            rw [ofExcept_ok_bind]
            exact (ih after).mono (fun _ hlast => hstep.trans hlast) fun _ => hrest
        | error error =>
            have hwire := mt Operation.fits_single.mpr (Register.not_fits_of_apply happly)
            rw [ofExcept_error_bind]
            exact ends_error ⟨wire, List.mem_cons_self, hwire⟩
      · exact (ih register).mono (fun _ hlast => hlast) fun _ => hrest

theorem ends_evolveNoisy (noise : Noise α) (operations : List (Operation Nat))
    (register : Register α wires) :
    Ends (evolveNoisy noise operations register : Sampling ρ _) register.Evolves
      (fun _ => ∃ operation ∈ operations, ¬ operation.Fits wires) := by
  induction operations generalizing register with
  | nil => exact ends_pure .refl
  | cons operation rest ih =>
      rw [evolveNoisy]
      cases happly : register.apply operation with
      | ok after =>
          have hstep := Register.Evolves.refl.operation happly
          have hfits := Register.fits_of_apply happly
          rw [ofExcept_ok_bind]
          -- An operation that is accepted has operands on which no error is refused.
          refine ((ends_disturb _ operation.operands after).mono
            (fun _ hnext => hstep.trans hnext) ?_).bind fun next hnext => ?_
          · rintro error ⟨wire, hmem, hwire⟩
            exact absurd (hfits.1 wire hmem) hwire
          · refine (ih next).mono (fun _ hlast => hnext.trans hlast) ?_
            rintro error ⟨other, hmem, hother⟩
            exact ⟨other, List.mem_cons_of_mem operation hmem, hother⟩
      | error error =>
          rw [ofExcept_error_bind]
          exact ends_error ⟨operation, List.mem_cons_self, Register.not_fits_of_apply happly⟩

end Noisy

variable {circuit : Circuit}

theorem ends_noisyShot (noise : Noise α) (hwires : circuit.wires ≤ maxWires)
    (hcircuit : circuit.WellFormed) :
    Ends (noisyShot noise circuit : Sampling ρ String) circuit.Shows Failure := by
  rw [noisyShot, Register.init, if_pos hwires, ofExcept_ok_bind]
  refine ((ends_evolveNoisy noise circuit.operations _).mono (fun _ h => h) ?_).bind
    fun register _ => ?_
  · rintro error ⟨operation, hmem, hunfit⟩
    exact absurd (hcircuit.operations operation hmem) hunfit
  · exact ends_lift fun _ => Readout.shows_read circuit noise.readout _ _

theorem ends_idealShot (circuit : Circuit) (probabilities : List α) :
    Ends (ExceptT.lift (idealShot circuit probabilities) : Sampling ρ String) circuit.Shows
      Failure :=
  ends_lift fun _ => Readout.shows_read circuit (0 : α) _ _

/-- What a run has to account for: all of its shots, each by an outcome that the
circuit can show. -/
structure Accounts (circuit : Circuit) (shots : UInt32) (histogram : Histogram) : Prop where
  total : (histogram.entries.map (·.2.toNat)).sum = shots.toNat
  shown : ∀ entry ∈ histogram.entries, circuit.Shows entry.1

omit [RandomSource ρ] in
theorem ends_recordShots {shot : Sampling ρ String} (hshot : Ends shot circuit.Shows Failure)
    (shots : UInt32) :
    Ends (recordShots shot shots.toNat Histogram.empty) (Accounts circuit shots) Failure := by
  refine (hshot.recordAll shots).mono ?_ fun _ h => h
  rintro histogram ⟨htotal, hshown⟩
  exact ⟨by rw [← Histogram.tally_all, htotal], hshown⟩

theorem ends_runNoisy (noise : Noise α) (hwires : circuit.wires ≤ maxWires)
    (hcircuit : circuit.WellFormed) (shots : UInt32) :
    Ends (runNoisy noise circuit shots.toNat : Sampling ρ Histogram) (Accounts circuit shots)
      Failure :=
  ends_recordShots (ends_noisyShot noise hwires hcircuit) shots

/-- How a run can still fail: rounding makes the norm of the final state differ from
one. -/
def Rounds (α : Type) [Scalar α] (error : Error) : Prop :=
  ¬ ExactScalar α ∧ ∃ sum tolerance, error = .simulation (.notNormalized sum tolerance)

theorem rounds_of_checkNormalization {state : Register α circuit.wires} {error : Error}
    (hstate : Register.evolved α circuit.wires circuit.operations = .ok state)
    (hcheck : state.checkNormalization Register.defaultTolerance = .error error) :
    Rounds α error := by
  refine ⟨?_, Register.exists_of_checkNormalization hcheck⟩
  -- Gates are unitary, so an exact reading finds the norm that the zero state had.
  rintro ⟨⟨reading⟩⟩
  rw [reading.checkNormalization_of_norm (reading.norm_evolved hstate)] at hcheck
  cases hcheck

theorem ends_runIdeal (α : Type) [Scalar α] (hwires : circuit.wires ≤ maxWires)
    (hcircuit : circuit.WellFormed) (shots : UInt32) :
    Ends (runIdeal α circuit shots.toNat : Sampling ρ Histogram) (Accounts circuit shots)
      (Rounds α) := by
  obtain ⟨state, hstate, -⟩ := Register.evolved_of_fits α hwires hcircuit.operations
  rw [runIdeal_of_evolved hstate]
  cases hcheck : state.checkNormalization Register.defaultTolerance with
  | ok =>
      rw [ofExcept_ok_bind]
      exact ends_recordShots (ends_idealShot circuit state.probabilities) shots
  | error error =>
      rw [ofExcept_error_bind]
      exact ends_error (rounds_of_checkNormalization hstate hcheck)

theorem effectiveNoise_eq_some {simulator : Simulator α} {noise : Noise α} :
    simulator.effectiveNoise = some noise ↔
      simulator.noise = some noise ∧ noise.isIdeal = false := by
  simp [effectiveNoise, Option.filter_eq_some_iff]

theorem runWith_of_none {simulator : Simulator α} (h : simulator.effectiveNoise = none)
    (circuit : Circuit) (shots : UInt32) :
    (simulator.runWith circuit shots : Sampling ρ Histogram) =
      runIdeal α circuit shots.toNat := by
  rw [runWith, h]

theorem runWith_of_some {simulator : Simulator α} {noise : Noise α}
    (h : simulator.effectiveNoise = some noise) (circuit : Circuit) (shots : UInt32) :
    (simulator.runWith circuit shots : Sampling ρ Histogram) =
      ofExcept noise.validate >>= fun _ => runNoisy noise circuit shots.toNat := by
  rw [runWith, h]

/-- Either every run of a circuit that can be built accounts for its shots, whatever is
drawn, or the arithmetic rounds and every run fails the check of the norm. The check comes
before the shots and does not depend on them. -/
theorem ends_runWith_or_rounds {simulator : Simulator α} (hwires : circuit.wires ≤ maxWires)
    (hcircuit : circuit.WellFormed)
    (hnoise : ∀ noise, simulator.effectiveNoise = some noise → noise.Valid) :
    (∀ shots, Ends (simulator.runWith circuit shots : Sampling ρ Histogram)
      (Accounts circuit shots) fun _ => False) ∨
    (simulator.effectiveNoise = none ∧ ∃ error, Rounds α error ∧ ∀ shots,
      (simulator.runWith circuit shots : Sampling ρ Histogram) = ofExcept (.error error)) := by
  cases heffective : simulator.effectiveNoise with
  | some noise =>
      refine .inl fun shots => ?_
      rw [runWith_of_some heffective, Noise.validate_of_valid (hnoise noise heffective),
        ofExcept_ok_bind]
      exact ends_runNoisy noise hwires hcircuit shots
  | none =>
      obtain ⟨state, hstate, -⟩ := Register.evolved_of_fits α hwires hcircuit.operations
      simp only [runWith_of_none heffective]
      cases hcheck : state.checkNormalization Register.defaultTolerance with
      | ok =>
          refine .inl fun shots => ?_
          rw [runIdeal_of_evolved hstate, hcheck, ofExcept_ok_bind]
          exact ends_recordShots (ends_idealShot circuit state.probabilities) shots
      | error error =>
          refine .inr ⟨trivial, error, rounds_of_checkNormalization hstate hcheck, fun shots => ?_⟩
          rw [runIdeal_of_evolved hstate, hcheck, ofExcept_error_bind]

theorem ends_runWith {simulator : Simulator α} (hwires : circuit.wires ≤ maxWires)
    (hcircuit : circuit.WellFormed)
    (hnoise : ∀ noise, simulator.effectiveNoise = some noise → noise.Valid) (shots : UInt32) :
    Ends (simulator.runWith circuit shots : Sampling ρ Histogram) (Accounts circuit shots)
      (fun error => simulator.effectiveNoise = none ∧ Rounds α error) := by
  rcases ends_runWith_or_rounds (ρ := ρ) hwires hcircuit hnoise with
    hends | ⟨hnone, error, hrounds, hfails⟩
  · exact (hends shots).mono (fun _ h => h) fun _ h => h.elim
  · rw [hfails]
    exact ends_error ⟨hnone, hrounds⟩

theorem valid_of_effectiveNoise {simulator : Simulator α}
    (h : ∀ noise, simulator.noise = some noise → noise.isIdeal = true ∨ noise.Valid) :
    ∀ noise, simulator.effectiveNoise = some noise → noise.Valid := by
  intro noise heffective
  obtain ⟨hsome, hideal⟩ := effectiveNoise_eq_some.mp heffective
  exact (h noise hsome).resolve_left (by simp [hideal])

/-- A run on a circuit that can be built, of no more wires than the simulator allows,
accounts for every shot, with or without noise and whatever is drawn: its counts add
up to the shots, and each outcome is one that the circuit can show. The run succeeds
if there is noise or if the arithmetic is exact; rounding can only make it fail the
check of the norm. -/
theorem runWith_accounts (simulator : Simulator α) {circuit : Circuit} (hbuilt : circuit.Built)
    (hwires : circuit.wires ≤ maxWires)
    (hnoise : ∀ noise, simulator.noise = some noise → noise.isIdeal = true ∨ noise.Valid)
    (shots : UInt32) (source : ρ) :
    circuit.InRange ∧
    (ExactScalar α ∨ simulator.effectiveNoise.isSome = true →
      ∃ histogram, ((simulator.runWith circuit shots).run.run source).1 = .ok histogram) ∧
    (∀ histogram, ((simulator.runWith circuit shots).run.run source).1 = .ok histogram →
      (histogram.entries.map (·.2.toNat)).sum = shots.toNat ∧
      ∀ entry ∈ histogram.entries, circuit.Shows entry.1) ∧
    ∀ error, ((simulator.runWith circuit shots).run.run source).1 = .error error →
      ∃ sum tolerance, error = .simulation (.notNormalized sum tolerance) := by
  have hends := ends_runWith hwires hbuilt.wellFormed (valid_of_effectiveNoise hnoise) shots source
  refine ⟨hbuilt.wellFormed.inRange, ?_, ?_, ?_⟩
  · intro hsafe
    cases hrun : ((simulator.runWith circuit shots).run.run source).1 with
    | ok histogram => exact ⟨histogram, rfl⟩
    | error error =>
        rw [hrun] at hends
        obtain ⟨hnone, hinexact, -⟩ := hends
        rcases hsafe with hexact | hsome
        · exact absurd hexact hinexact
        · rw [hnone] at hsome
          cases hsome
  · intro histogram hok
    rw [hok] at hends
    exact ⟨hends.total, hends.shown⟩
  · intro error herror
    rw [herror] at hends
    exact hends.2.2

theorem valid_units : Noise.Valid (⟨1, 0, 1⟩ : Noise Float) :=
  ⟨by decide +kernel, by decide +kernel, by decide +kernel⟩

theorem effectiveNoise_units :
    (⟨none, some ⟨1, 0, 1⟩⟩ : Simulator Float).effectiveNoise = some ⟨1, 0, 1⟩ := by
  decide +kernel

theorem runWith_accounts_repeated_bit :
    ∃ circuit : Circuit, circuit.bits = 3 ∧ circuit.measurements = [⟨0, 2⟩, ⟨1, 2⟩] ∧
      (∃ histogram, (((⟨none, some ⟨1, 0, 1⟩⟩ : Simulator Float).runWith circuit 5).run.run
          (KeyStream.ofSeed 7)).1 = .ok histogram ∧
        (histogram.entries.map (·.2.toNat)).sum = 5 ∧
        ∀ entry ∈ histogram.entries, circuit.Shows entry.1) ∧
      ∃ histogram, (((⟨none, none⟩ : Simulator ExactReal).runWith circuit 5).run.run
          (KeyStream.ofSeed 7)).1 = .ok histogram ∧
        (histogram.entries.map (·.2.toNat)).sum = 5 ∧
        ∀ entry ∈ histogram.entries, circuit.Shows entry.1 := by
  let draft : Draft := ⟨2, 3, [.single .hadamard 0, .pair .controlledNot 0 1], false⟩
  have hdraft : Circuit.Built ⟨2, 3, draft.operations, []⟩ := @Circuit.Built.draft draft _ rfl
  have hfirst : Circuit.Built ⟨2, 3, draft.operations, [⟨0, 2⟩]⟩ :=
    @Circuit.Built.measure _ _ 0 2 hdraft rfl
  have hbuilt : Circuit.Built ⟨2, 3, draft.operations, [⟨0, 2⟩, ⟨1, 2⟩]⟩ :=
    @Circuit.Built.measure _ _ 1 2 hfirst rfl
  refine ⟨⟨2, 3, draft.operations, [⟨0, 2⟩, ⟨1, 2⟩]⟩, rfl, rfl, ?_, ?_⟩
  · obtain ⟨-, hok, haccounts, -⟩ :=
      runWith_accounts (⟨none, some ⟨1, 0, 1⟩⟩ : Simulator Float) hbuilt (by decide)
        (by rintro _ ⟨⟩; exact .inr valid_units) 5 (KeyStream.ofSeed 7)
    obtain ⟨histogram, hrun⟩ := hok (.inr (by rw [effectiveNoise_units]; rfl))
    exact ⟨histogram, hrun, haccounts histogram hrun⟩
  · obtain ⟨-, hok, haccounts, -⟩ :=
      runWith_accounts (⟨none, none⟩ : Simulator ExactReal) hbuilt (by decide)
        (by rintro _ ⟨⟩) 5 (KeyStream.ofSeed 7)
    obtain ⟨histogram, hrun⟩ := hok (.inl inferInstance)
    exact ⟨histogram, hrun, haccounts histogram hrun⟩

end Simulator

end GateGame
