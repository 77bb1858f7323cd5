import GateGame.Proofs.Amplitude.Exact
import GateGame.Proofs.Noise.Validate

namespace GateGame

/-! The noise profile of a device, which has the means of its figures. A mean lies between
the least figure and the greatest, so probabilities make a profile that is accepted. That
is so in exact arithmetic: a rounded mean can be more than all of its figures. -/

section Scalar

variable {α : Type} [Scalar α]

namespace Calibration

def get (calibration : Calibration α) : NoiseField → List α
  | .single => calibration.single
  | .pair => calibration.pair
  | .readout => calibration.readout

end Calibration

namespace Noise

/-- The means of the figures of a device, whether they are probabilities or not. -/
def averages (calibration : Calibration α) : Noise α where
  single := Scalar.mean calibration.single
  pair := Scalar.mean calibration.pair
  readout := Scalar.mean calibration.readout

theorem get_averages (calibration : Calibration α) (field : NoiseField) :
    (averages calibration).get field = Scalar.mean (calibration.get field) := by
  cases field <;> rfl

theorem ofCalibration_eq (calibration : Calibration α) :
    ofCalibration calibration =
      (averages calibration).validate.map fun _ => averages calibration := by
  rw [ofCalibration, ofProbabilities]
  change ((averages calibration).validate >>= fun _ => _) = _
  cases (averages calibration).validate <;> rfl

/-- Where the mean of figures has to lie: at zero if there are none, and else between the
least of them and the greatest. -/
def Spanned (figures : List α) (p : α) : Prop :=
  figures = [] ∧ p = 0 ∨
    ∃ least ∈ figures, ∃ greatest ∈ figures,
      (∀ figure ∈ figures, least ≤ figure ∧ figure ≤ greatest) ∧ least ≤ p ∧ p ≤ greatest

end Noise

end Scalar

namespace ExactReading

variable {α : Type} [Scalar α] (reading : ExactReading α) {figures : List α}

theorem value_mean (h : figures ≠ []) :
    reading.value (Scalar.mean figures) = (figures.map reading.value).sum / figures.length := by
  rw [Scalar.mean, if_neg (by simpa using h), reading.value_div, reading.value_sum,
    reading.value_natCast]

theorem le_value_mean (h : figures ≠ []) {bound : ℝ}
    (hbound : ∀ figure ∈ figures, bound ≤ reading.value figure) :
    bound ≤ reading.value (Scalar.mean figures) := by
  have hlength : (0 : ℝ) < figures.length := by exact_mod_cast List.length_pos_iff.mpr h
  have hsum := (figures.map reading.value).card_nsmul_le_sum bound (by simpa using hbound)
  rw [List.length_map, nsmul_eq_mul] at hsum
  rwa [reading.value_mean h, le_div_iff₀ hlength, mul_comm]

theorem value_mean_le (h : figures ≠ []) {bound : ℝ}
    (hbound : ∀ figure ∈ figures, reading.value figure ≤ bound) :
    reading.value (Scalar.mean figures) ≤ bound := by
  have hlength : (0 : ℝ) < figures.length := by exact_mod_cast List.length_pos_iff.mpr h
  have hsum := (figures.map reading.value).sum_le_card_nsmul bound (by simpa using hbound)
  rw [List.length_map, nsmul_eq_mul] at hsum
  rwa [reading.value_mean h, div_le_iff₀ hlength, mul_comm]

include reading in
theorem spanned_mean (figures : List α) : Noise.Spanned figures (Scalar.mean figures) := by
  rcases eq_or_ne figures [] with rfl | hne
  · exact .inl ⟨rfl, rfl⟩
  · have hfinite : {figure | figure ∈ figures}.Finite := figures.finite_toSet
    have hnonempty : {figure | figure ∈ figures}.Nonempty := List.exists_mem_of_ne_nil figures hne
    obtain ⟨least, hleast, hmin⟩ := Set.exists_min_image _ reading.value hfinite hnonempty
    obtain ⟨greatest, hgreatest, hmax⟩ := Set.exists_max_image _ reading.value hfinite hnonempty
    refine .inr ⟨least, hleast, greatest, hgreatest, fun figure hfigure => ?_, ?_, ?_⟩
    · exact ⟨(reading.value_le _ _).mpr (hmin figure hfigure),
        (reading.value_le _ _).mpr (hmax figure hfigure)⟩
    · exact (reading.value_le _ _).mpr (reading.le_value_mean hne hmin)
    · exact (reading.value_le _ _).mpr (reading.value_mean_le hne hmax)

theorem isProbability_iff {p : α} :
    Noise.IsProbability p ↔ 0 ≤ reading.value p ∧ reading.value p ≤ 1 := by
  rw [Noise.IsProbability, reading.value_le, reading.value_le, reading.value_zero,
    reading.value_one]

include reading in
theorem isProbability_mean (h : ∀ figure ∈ figures, Noise.IsProbability figure) :
    Noise.IsProbability (Scalar.mean figures) := by
  simp only [reading.isProbability_iff] at h ⊢
  rcases eq_or_ne figures [] with rfl | hne
  · rw [show Scalar.mean ([] : List α) = 0 from rfl, reading.value_zero]
    exact ⟨le_refl 0, zero_le_one⟩
  · exact ⟨reading.le_value_mean hne fun figure hfigure => (h figure hfigure).1,
      reading.value_mean_le hne fun figure hfigure => (h figure hfigure).2⟩

end ExactReading

/-- Figures that are probabilities, however many, make a profile that is accepted, and
every field of it is spanned by its figures. -/
theorem Noise.ofCalibration_of_probabilities {α : Type} [Scalar α] [hexact : ExactScalar α]
    {calibration : Calibration α}
    (h : ∀ field, ∀ figure ∈ calibration.get field, IsProbability figure) :
    ofCalibration calibration = .ok (averages calibration) ∧
      ∀ field, Spanned (calibration.get field) ((averages calibration).get field) := by
  obtain ⟨reading⟩ := hexact.exists_reading
  have hvalid : (averages calibration).Valid := by
    rw [valid_iff]
    intro field
    rw [get_averages]
    exact reading.isProbability_mean (h field)
  refine ⟨?_, fun field => ?_⟩
  · rw [ofCalibration_eq, validate_of_valid hvalid]
    rfl
  · rw [get_averages]
    exact reading.spanned_mean _

end GateGame
