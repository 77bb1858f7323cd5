import GateGame.Proofs.Double.Zeros
import GateGame.Proofs.Noise.Validate

namespace GateGame

/-! Noise that is none: all probabilities are zero, of whichever sign. -/

section Zero

variable {α : Type} [Scalar α]

structure Noise.IsZero (noise : Noise α) : Prop where
  single : noise.single ∈ zeros α
  pair : noise.pair ∈ zeros α
  readout : noise.readout ∈ zeros α

/-- There are no figures, or their mean is zero. -/
def Calibration.Cancels (figures : List α) : Prop :=
  figures = [] ∨ Scalar.mean figures ∈ zeros α

structure Calibration.IsZero (calibration : Calibration α) : Prop where
  single : Cancels calibration.single
  pair : Cancels calibration.pair
  readout : Cancels calibration.readout

theorem Calibration.Cancels.mean {figures : List α} (h : Cancels figures) :
    Scalar.mean figures ∈ zeros α := by
  rcases h with rfl | hmean
  · exact List.mem_cons_self
  · exact hmean

end Zero

namespace Noise

variable {noise : Noise Float}

theorem isIdeal_iff : noise.isIdeal = true ↔ noise.IsZero := by
  rw [isIdeal, Bool.and_eq_true, Bool.and_eq_true, ← Double.mem_zeros_iff, ← Double.mem_zeros_iff,
    ← Double.mem_zeros_iff]
  exact ⟨fun ⟨⟨hsingle, hpair⟩, hreadout⟩ => ⟨hsingle, hpair, hreadout⟩,
    fun h => ⟨⟨h.single, h.pair⟩, h.readout⟩⟩

theorem isProbability_of_mem_zeros : ∀ p ∈ zeros Float, IsProbability p := by
  decide +kernel

theorem IsZero.valid (h : noise.IsZero) : noise.Valid where
  single := isProbability_of_mem_zeros _ h.single
  pair := isProbability_of_mem_zeros _ h.pair
  readout := isProbability_of_mem_zeros _ h.readout

/-- Figures that cancel are accepted as noise that is none. -/
theorem ofCalibration_of_isZero {calibration : Calibration Float} (h : calibration.IsZero) :
    ∃ noise, ofCalibration calibration = .ok noise ∧ noise.IsZero := by
  have hzero : Noise.IsZero ⟨Scalar.mean calibration.single, Scalar.mean calibration.pair,
      Scalar.mean calibration.readout⟩ :=
    ⟨h.single.mean, h.pair.mean, h.readout.mean⟩
  refine ⟨_, ?_, hzero⟩
  rw [ofCalibration, ofProbabilities, validate_of_valid hzero.valid]
  rfl

end Noise

end GateGame
