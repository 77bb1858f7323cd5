import GateGame.Proofs.Register.Sampling
import GateGame.Proofs.Score.Outcome
import GateGame.Proofs.Simulator.Sampling

namespace GateGame

/-! Runs of the simulator whose outcome is certain. Whatever is drawn, each of the
shots yields the same outcome. -/

namespace Histogram

theorem entries_record_single {outcome : String} {count : UInt64} {histogram : Histogram}
    (h : histogram.entries = [(outcome, count)]) :
    (histogram.record outcome 1).entries = [(outcome, count + 1)] := by
  simp [record, h, upsert]

theorem entries_record_iterate (outcome : String) (shots : Nat) :
    ((fun histogram => record histogram outcome 1)^[shots + 1] empty).entries =
      [(outcome, UInt64.ofNat (shots + 1))] := by
  induction shots with
  | zero => rfl
  | succ shots ih =>
      rw [Function.iterate_succ_apply', entries_record_single ih]
      simp

end Histogram

namespace Readout

variable {α ρ : Type} [Scalar α] [RandomSource ρ]

theorem measureInto_zero (hzero : ¬ (0 : α) < 0) (index : Nat)
    (measurements : List Measurement) (bits : Array Bool) :
    (measureInto (0 : α) index measurements bits : StateM ρ (Array Bool)) =
      pure (measurements.foldl
        (fun bits measurement =>
          bits.setIfInBounds measurement.bit (index.testBit measurement.wire)) bits) := by
  induction measurements generalizing bits with
  | nil => rfl
  | cons measurement rest ih =>
      rw [measureInto, flips, if_neg hzero, pure_bind, Bool.xor_false, ih, List.foldl_cons]

theorem foldl_measureAll (index wires : Nat) :
    (((List.range wires).map fun k => (⟨k, k⟩ : Measurement)).foldl
      (fun bits measurement =>
        bits.setIfInBounds measurement.bit (index.testBit measurement.wire))
      (Array.replicate wires false)).toList = (List.range wires).map index.testBit := by
  have hfold : ∀ count ≤ wires,
      ((List.range count).map fun k => (⟨k, k⟩ : Measurement)).foldl
        (fun bits measurement =>
          bits.setIfInBounds measurement.bit (index.testBit measurement.wire))
        (Array.replicate wires false) =
          Array.ofFn fun k : Fin wires => decide (k < count) && index.testBit k := by
    intro count hcount
    induction count with
    | zero => ext <;> simp
    | succ count ih =>
        rw [List.range_succ, List.map_append, List.foldl_append, ih (by omega)]
        apply Array.ext_getElem?
        intro k
        rw [List.map_singleton, List.foldl_cons, List.foldl_nil]
        rcases eq_or_ne count k with rfl | hne
        · have hcount : count < wires := hcount
          simp [hcount]
        · have hiff : k < count + 1 ↔ k < count := by omega
          rw [Array.getElem?_setIfInBounds_ne hne]
          simp only [Array.getElem?_ofFn, hiff]
  rw [hfold wires (Nat.le_refl wires)]
  apply List.ext_getElem
  · simp
  · intro k hleft hright
    simp

theorem read_measureAll (hzero : ¬ (0 : α) < 0) {circuit : Circuit}
    (hbits : circuit.bits = circuit.wires)
    (hmeasured : circuit.measurements = (List.range circuit.wires).map fun k => ⟨k, k⟩)
    (index : Nat) :
    (read circuit (0 : α) index : StateM ρ String) =
      pure (outcomeOf circuit.wires index.testBit) := by
  rw [read, measureInto_zero hzero, pure_bind, hbits, hmeasured, bitstring, foldl_measureAll,
    outcomeOf]

end Readout

namespace Simulator

variable {ρ : Type}

theorem recordShots_certain {shot : Sampling ρ String} {outcome : String}
    (h : ∀ source, (shot.run.run source).1 = .ok outcome) (shots : Nat)
    (histogram : Histogram) (source : ρ) :
    ((recordShots shot shots histogram).run.run source).1 =
      .ok ((fun histogram => histogram.record outcome 1)^[shots] histogram) := by
  induction shots generalizing histogram source with
  | zero => rfl
  | succ shots ih =>
      have hshot := h source
      rw [recordShots, run_bind]
      rcases hrun : shot.run.run source with ⟨result, next⟩
      rw [hrun] at hshot
      subst hshot
      exact ih _ next

variable {α : Type} [Scalar α] [ExactUnits α] [RandomSource ρ]

theorem idealShot_certain {circuit : Circuit} {state : Register α circuit.wires}
    {values : Nat → Bool} (h : Wave.IsAt circuit.wires values state.wave)
    (hbits : circuit.bits = circuit.wires)
    (hmeasured : circuit.measurements = (List.range circuit.wires).map fun k => ⟨k, k⟩)
    (source : ρ) :
    ((idealShot circuit state.probabilities).run source).1 =
      outcomeOf circuit.wires values := by
  have hindex := drawIndex_certain (α := α) (basisIndex circuit.wires values)
    (basisSize circuit.wires - (basisIndex circuit.wires values + 1)) source
  have hshot : idealShot circuit state.probabilities =
      drawIndex state.probabilities >>= fun index =>
        (pure (outcomeOf circuit.wires index.testBit) : StateM ρ String) := by
    rw [idealShot]
    simp only [Readout.read_measureAll (ExactUnits.not_zero_lt_zero (α := α)) hbits hmeasured]
  have hvalues : outcomeOf circuit.wires (basisIndex circuit.wires values).testBit =
      outcomeOf circuit.wires values := by
    rw [outcomeOf, outcomeOf]
    congr 3
    apply List.map_congr_left
    intro wire hwire
    exact testBit_basisIndex_of_lt (List.mem_range.mp hwire) values
  rw [hshot, h.probabilities, ← hvalues]
  exact congrArg (fun index => outcomeOf circuit.wires index.testBit) hindex

/-- Every shot of a run without noise whose final state is one basis state has the
same outcome. -/
theorem runIdeal_certain (circuit : Circuit) {state : Register α circuit.wires}
    (hstate : Register.evolved α circuit.wires circuit.operations = .ok state)
    {values : Nat → Bool} (h : Wave.IsAt circuit.wires values state.wave)
    (hbits : circuit.bits = circuit.wires)
    (hmeasured : circuit.measurements = (List.range circuit.wires).map fun k => ⟨k, k⟩)
    (shots : Nat) (source : ρ) :
    ((runIdeal α circuit shots).run.run source).1 =
      .ok ((fun histogram => histogram.record (outcomeOf circuit.wires values) 1)^[shots]
        Histogram.empty) := by
  rw [runIdeal_of_evolved hstate, Register.checkNormalization_of_isAt h, ofExcept_ok_bind]
  apply recordShots_certain
  intro source
  exact congrArg Except.ok (idealShot_certain h hbits hmeasured source)

end Simulator

end GateGame
