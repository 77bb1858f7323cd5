import GateGame.Proofs.Double.Zeros
import GateGame.Proofs.Simulator.Possible
import GateGame.Proofs.Simulator.Reports
import GateGame.Proofs.Simulator.Trajectory

namespace GateGame

open RandomSource (uniforms)

/-! Noise that strikes measurements alone. Gates take numbers as with any noise, but none of
them is small enough for an error, so every shot samples the state that a run without noise
samples. What a shot then shows differs from what the basis state reads without errors only
where something is measured, and everywhere there if every measurement errs. -/

namespace Noise

variable {α : Type} [Scalar α] [ExactComparisons α] {error : α}

theorem valid_readout (hpos : 0 < error) (hle : error ≤ 1) :
    Noise.Valid (⟨0, 0, error⟩ : Noise α) where
  single := ⟨ExactComparisons.zero_le_zero, ExactComparisons.zero_le_one⟩
  pair := ⟨ExactComparisons.zero_le_zero, ExactComparisons.zero_le_one⟩
  readout := ⟨(ExactComparisons.bounds_of_zero_lt error hpos).1, hle⟩

theorem isIdeal_readout (hpos : 0 < error) :
    Noise.isIdeal (⟨0, 0, error⟩ : Noise α) = false := by
  have hzero : Scalar.isZero error = false :=
    decide_eq_false fun h => (ExactComparisons.bounds_of_zero_lt error hpos).2 h.1
  rw [isIdeal, hzero, Bool.and_false]

end Noise

/-- Something is measured into the bit. -/
def Circuit.Measured (circuit : Circuit) (bit : Nat) : Prop :=
  ∃ measurement ∈ circuit.measurements, measurement.bit = bit

/-- Two outcomes of the circuit show different characters for the bit. -/
def Circuit.Differ (circuit : Circuit) (first second : String) (bit : Nat) : Prop :=
  first.toList[circuit.bits - 1 - bit]? ≠ second.toList[circuit.bits - 1 - bit]?

namespace Readout

variable {circuit : Circuit} {index bit : Nat}

theorem measured_of_differ {flips flips' : List Bool} (hbit : bit < circuit.bits)
    (h : circuit.Differ (shown circuit index flips) (shown circuit index flips') bit) :
    circuit.Measured bit := by
  by_contra hmeasured
  have hnone : ∀ measurement ∈ circuit.measurements, measurement.bit ≠ bit :=
    fun measurement hmem heq => hmeasured ⟨measurement, hmem, heq⟩
  rw [Circuit.Differ, getElem?_shown_of_unmeasured hbit hnone,
    getElem?_shown_of_unmeasured hbit hnone] at h
  exact h rfl

/-- If all measurements are reported flipped, every measured bit reads the other way. -/
theorem differ_of_measured (hbit : bit < circuit.bits) (h : circuit.Measured bit) :
    circuit.Differ (shown circuit index (List.replicate circuit.measurements.length true))
      (shown circuit index (List.replicate circuit.measurements.length false)) bit := by
  rcases exists_last bit circuit.measurements with
    hnone | ⟨before, measurement, after, hlist, rfl, hlast⟩
  · obtain ⟨measurement, hmem, heq⟩ := h
    exact absurd heq (hnone measurement hmem)
  · have hplace : before.length < circuit.measurements.length := by
      rw [hlist, List.length_append, List.length_cons]
      omega
    have hflips (flipped : Bool) :
        (List.replicate circuit.measurements.length flipped)[before.length]? = some flipped := by
      rw [List.getElem?_replicate, if_pos hplace]
    rw [Circuit.Differ, getElem?_shown_of_last hlist hlast (hflips true) hbit,
      getElem?_shown_of_last hlist hlast (hflips false) hbit]
    cases index.testBit measurement.wire <;> decide

section Read

variable {α ρ : Type} [Scalar α] [ExactComparisons α] [RandomSource ρ]

theorem read_zero_eq_shown (circuit : Circuit) (index : Nat) (source : ρ) :
    ((read circuit (0 : α) index).run source).1 =
      shown circuit index (List.replicate circuit.measurements.length false) := by
  rw [run_read, run_reports_of_not_pos ExactComparisons.not_zero_lt_zero]

theorem read_one_eq_shown (hpos : (0 : α) < 1) (circuit : Circuit) (index : Nat)
    (source : ρ) :
    ((read circuit (1 : α) index).run source).1 =
      shown circuit index (List.replicate circuit.measurements.length true) := by
  rw [run_read, run_reports_of_pos hpos]
  dsimp only
  rw [RandomSource.decide_uniforms_lt_one]

/-- Errors show in measured bits only, and in all of those if every measurement errs. -/
theorem differ_read {error : α} (hpos : 0 < error) (circuit : Circuit) (index : Nat)
    (source other : ρ) (hbit : bit < circuit.bits) :
    let outcome := ((read circuit error index).run source).1
    let clean := ((read circuit (0 : α) index).run other).1
    (circuit.Differ outcome clean bit → circuit.Measured bit) ∧
      (error = 1 → (circuit.Differ outcome clean bit ↔ circuit.Measured bit)) := by
  intro outcome clean
  have hmeasured : circuit.Differ outcome clean bit → circuit.Measured bit := by
    intro hdiffer
    simp only [outcome, clean, run_read] at hdiffer
    exact measured_of_differ hbit hdiffer
  refine ⟨hmeasured, ?_⟩
  rintro rfl
  refine ⟨hmeasured, fun h => ?_⟩
  simp only [outcome, clean, read_one_eq_shown hpos, read_zero_eq_shown]
  exact differ_of_measured hbit h

end Read

end Readout

namespace Simulator

variable {α ρ : Type} [Scalar α] [RandomSource ρ] {circuit : Circuit}

/-- The state that a shot with noise samples. -/
def noisyState (noise : Noise α) (circuit : Circuit) : Sampling ρ (Register α circuit.wires) := do
  let register : Register α circuit.wires ← ofExcept (Register.init circuit.wires)
  evolveNoisy noise circuit.operations register

theorem noisyShot_eq (noise : Noise α) (circuit : Circuit) :
    (noisyShot noise circuit : Sampling ρ String) =
      noisyState noise circuit >>= fun register =>
        ExceptT.lift (drawIndex register.probabilities >>= Readout.read circuit noise.readout) := by
  rw [noisyState, bind_assoc]
  rfl

theorem errorRate_readout (error : α) (operation : Operation Nat) :
    errorRate ⟨0, 0, error⟩ operation = 0 := by
  cases operation <;> rfl

variable [ExactComparisons α] {error : α}

theorem run_disturb_zero {wires : Nat} (operands : List Nat) (register : Register α wires)
    (source : ρ) :
    (disturb 0 operands register).run.run source =
      (.ok register, ((uniforms α operands.length).run source).2) := by
  induction operands generalizing source with
  | nil => rfl
  | cons wire rest ih =>
      rw [disturb, run_lift_bind, if_neg (RandomSource.not_uniform_lt_zero source), ih,
        List.length_cons, RandomSource.run_uniforms_succ]

/-- A number is drawn for every operand of every gate, to no effect. -/
theorem run_evolveNoisy_readout {wires : Nat} {operations : List (Operation Nat)}
    {register after : Register α wires} (h : register.applyAll operations = .ok after)
    (source : ρ) :
    (evolveNoisy ⟨0, 0, error⟩ operations register).run.run source =
      (.ok after, ((uniforms α (operations.flatMap Operation.operands).length).run source).2) := by
  induction operations generalizing register source with
  | nil =>
      obtain rfl := Except.ok.inj h
      rfl
  | cons operation rest ih =>
      cases happly : register.apply operation with
      | error failure => simp [Register.applyAll, happly] at h
      | ok next =>
          rw [Register.applyAll, happly, ok_bind] at h
          rw [evolveNoisy, happly, ofExcept_ok_bind, errorRate_readout, run_bind,
            run_disturb_zero]
          dsimp only
          rw [ih h, List.flatMap_cons, List.length_append, RandomSource.run_uniforms_add]

variable {state : Register α circuit.wires}

theorem run_noisyState_readout
    (hstate : Register.evolved α circuit.wires circuit.operations = .ok state) (source : ρ) :
    (noisyState ⟨0, 0, error⟩ circuit).run.run source =
      (.ok state,
        ((uniforms α (circuit.operations.flatMap Operation.operands).length).run source).2) := by
  rw [noisyState]
  cases hinit : (Register.init circuit.wires : Except Error (Register α circuit.wires)) with
  | error failure => simp [Register.evolved, hinit] at hstate
  | ok start =>
      rw [Register.evolved, hinit, ok_bind] at hstate
      rw [ofExcept_ok_bind, run_evolveNoisy_readout hstate]

theorem ends_noisyShot_readout
    (hstate : Register.evolved α circuit.wires circuit.operations = .ok state) :
    Ends (noisyShot ⟨0, 0, error⟩ circuit : Sampling ρ String)
      (fun outcome => ∃ before : ρ, outcome =
        ((drawIndex state.probabilities >>= Readout.read circuit error).run before).1)
      (fun _ => False) := by
  intro source
  rw [noisyShot_eq, run_bind, run_noisyState_readout hstate]
  exact ⟨_, rfl⟩

/-- Noise that strikes measurements alone perturbs nothing but measured bits. Every shot
samples the very state that the operations lead to without noise, and so the one that a run
without noise samples, unless rounding makes that fail the check of the norm. Every shot is
counted, and every outcome that is recorded is read off a basis state drawn from there, which
in exact arithmetic is one that has some probability, and compared with what that basis state
reads without errors it differs in measured bits only. If every measurement errs, it differs
in all of those. -/
theorem runWith_readout_only (hbuilt : circuit.Built) (hwires : circuit.wires ≤ maxWires)
    (hpos : 0 < error) (hle : error ≤ 1) (seed : Option UInt64) (shots : UInt32) (source : ρ) :
    ∃ state : Register α circuit.wires,
      Register.evolved α circuit.wires circuit.operations = .ok state ∧
      (∀ final, finalState circuit = .ok final → final = state) ∧
      (ExactScalar α → finalState circuit = .ok state) ∧
      (∀ start : ρ, ((noisyState ⟨0, 0, error⟩ circuit).run.run start).1 = .ok state) ∧
      ∃ histogram, (((⟨seed, some ⟨0, 0, error⟩⟩ : Simulator α).runWith circuit shots).run.run
          source).1 = .ok histogram ∧
        (histogram.entries.map (·.2.toNat)).sum = shots.toNat ∧
        ∀ entry ∈ histogram.entries, ∃ index,
          (∃ before : ρ, index = ((drawIndex state.probabilities).run before).1) ∧
          (ExactScalar α →
            index < basisSize circuit.wires ∧ 0 < (state.amplitude index).normSq) ∧
          ∀ other : ρ,
            let clean := ((Readout.read circuit (0 : α) index).run other).1
            entry.1.length = clean.length ∧ ∀ bit < circuit.bits,
              (circuit.Differ entry.1 clean bit → circuit.Measured bit) ∧
              (error = 1 → (circuit.Differ entry.1 clean bit ↔ circuit.Measured bit)) := by
  obtain ⟨state, hstate, -⟩ := Register.evolved_of_fits α hwires hbuilt.wellFormed.operations
  have hvalid : Noise.Valid (⟨0, 0, error⟩ : Noise α) := Noise.valid_readout hpos hle
  have heffective : (⟨seed, some ⟨0, 0, error⟩⟩ : Simulator α).effectiveNoise =
      some ⟨0, 0, error⟩ := effectiveNoise_eq_some.mpr ⟨rfl, Noise.isIdeal_readout hpos⟩
  refine ⟨state, hstate, ?_, ?_, ?_, ?_⟩
  · intro final hfinal
    exact Except.ok.inj ((evolved_of_finalState hfinal).symm.trans hstate)
  · rintro ⟨⟨reading⟩⟩
    rw [finalState_eq_evolved reading, hstate]
  · intro start
    rw [run_noisyState_readout hstate]
  · rw [runWith_of_some heffective, Noise.validate_of_valid hvalid, ofExcept_ok_bind]
    obtain ⟨histogram, hrun, htotal, hshown⟩ :=
      ((ends_noisyShot_readout hstate).recordAll shots).exists_ok source
    rw [Histogram.tally_all] at htotal
    refine ⟨histogram, hrun, htotal, fun entry hentry => ?_⟩
    obtain ⟨before, houtcome⟩ := hshown entry hentry
    let drawn := (drawIndex state.probabilities).run before
    have hread : entry.1 = ((Readout.read circuit error drawn.1).run drawn.2).1 := houtcome
    refine ⟨drawn.1, ⟨before, rfl⟩, ?_, fun other => ⟨?_, fun bit hbit => ?_⟩⟩
    · rintro ⟨⟨reading⟩⟩
      obtain ⟨hlt, hne⟩ :=
        reading.amplitude_drawIndex_ne_zero (reading.norm_evolved hstate) before
      exact ⟨hlt, reading.zero_lt_normSq hne⟩
    · rw [hread, (Readout.shows_read circuit error drawn.1 drawn.2).length,
        (Readout.shows_read circuit (0 : α) drawn.1 other).length]
    · rw [hread]
      exact Readout.differ_read hpos circuit drawn.1 drawn.2 other hbit

/-- Every measurement errs, with the middle bit unmeasured: all shots read the other way
in the outer bits, and in those only. -/
theorem runWith_readout_only_outer_bits :
    let circuit : Circuit :=
      ⟨2, 3, [.single .hadamard 0, .pair .controlledNot 0 1], [⟨0, 2⟩, ⟨1, 0⟩]⟩
    let source := KeyStream.ofSeed 7
    (∃ histogram, (((⟨some 7, some ⟨0, 0, 1⟩⟩ : Simulator Float).runWith circuit 5).run.run
        source).1 = .ok histogram ∧ (histogram.entries.map (·.2.toNat)).sum = 5 ∧
      ∀ entry ∈ histogram.entries, ∃ index,
        let clean := ((Readout.read circuit (0 : Float) index).run source).1
        circuit.Differ entry.1 clean 2 ∧ ¬ circuit.Differ entry.1 clean 1 ∧
          circuit.Differ entry.1 clean 0) ∧
    ∃ (state : Register ExactReal 2) (histogram : Histogram), finalState circuit = .ok state ∧
      (((⟨some 7, some ⟨0, 0, 1⟩⟩ : Simulator ExactReal).runWith circuit 5).run.run
        source).1 = .ok histogram ∧ (histogram.entries.map (·.2.toNat)).sum = 5 ∧
      ∀ entry ∈ histogram.entries, ∃ index, 0 < (state.amplitude index).normSq ∧
        let clean := ((Readout.read circuit (0 : ExactReal) index).run source).1
        circuit.Differ entry.1 clean 2 ∧ ¬ circuit.Differ entry.1 clean 1 ∧
          circuit.Differ entry.1 clean 0 := by
  intro circuit source
  have hbuilt : circuit.Built := by
    have hdraft : Circuit.Built ⟨2, 3, circuit.operations, []⟩ :=
      @Circuit.Built.draft ⟨2, 3, circuit.operations, false⟩ _ rfl
    have hfirst : Circuit.Built ⟨2, 3, circuit.operations, [⟨0, 2⟩]⟩ :=
      @Circuit.Built.measure _ _ 0 2 hdraft rfl
    exact @Circuit.Built.measure _ _ 1 0 hfirst rfl
  have hlast : circuit.Measured 2 := ⟨⟨0, 2⟩, by decide, rfl⟩
  have hfirst : circuit.Measured 0 := ⟨⟨1, 0⟩, by decide, rfl⟩
  have hmiddle : ¬ circuit.Measured 1 := by
    rintro ⟨measurement, hmem, hbit⟩
    revert measurement
    decide
  constructor
  · have hpos : (0 : Float) < 1 := by decide +kernel
    have hle : (1 : Float) ≤ 1 := by decide +kernel
    obtain ⟨state, -, -, -, -, histogram, hrun, htotal, hentries⟩ :=
      runWith_readout_only hbuilt (by decide) hpos hle (some 7) 5 source
    refine ⟨histogram, hrun, htotal, fun entry hentry => ?_⟩
    obtain ⟨index, -, -, hclean⟩ := hentries entry hentry
    obtain ⟨-, hbits⟩ := hclean source
    exact ⟨index, ((hbits 2 (by decide)).2 rfl).mpr hlast, mt (hbits 1 (by decide)).1 hmiddle,
      ((hbits 0 (by decide)).2 rfl).mpr hfirst⟩
  · have hpos : (0 : ExactReal) < 1 := by
      rw [ExactReal.reading.value_lt, ExactReal.reading.value_zero, ExactReal.reading.value_one]
      exact one_pos
    have hle : (1 : ExactReal) ≤ 1 := by
      rw [ExactReal.reading.value_le]
    obtain ⟨state, -, -, hfinal, -, histogram, hrun, htotal, hentries⟩ :=
      runWith_readout_only hbuilt (by decide) hpos hle (some 7) 5 source
    refine ⟨state, histogram, hfinal inferInstance, hrun, htotal, fun entry hentry => ?_⟩
    obtain ⟨index, -, hpossible, hclean⟩ := hentries entry hentry
    obtain ⟨-, hbits⟩ := hclean source
    exact ⟨index, (hpossible inferInstance).2, ((hbits 2 (by decide)).2 rfl).mpr hlast,
      mt (hbits 1 (by decide)).1 hmiddle, ((hbits 0 (by decide)).2 rfl).mpr hfirst⟩

end Simulator

end GateGame
