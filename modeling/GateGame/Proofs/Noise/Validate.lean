import GateGame.Noise.Basic
import GateGame.Proofs.Except

namespace GateGame

/-! Which noise profiles are accepted, and which field of one that is not is named. -/

/-- The fields of a profile, in the order in which they are checked. -/
def NoiseField.all : List NoiseField := [.single, .pair, .readout]

namespace Noise

variable {α : Type} [Scalar α] {noise : Noise α}

def get (noise : Noise α) : NoiseField → α
  | .single => noise.single
  | .pair => noise.pair
  | .readout => noise.readout

/-- The first field that is not a probability. -/
def fault? (noise : Noise α) : Option NoiseField :=
  NoiseField.all.find? fun field => ¬ IsProbability (noise.get field)

/-- All three fields are probabilities. -/
structure Valid (noise : Noise α) : Prop where
  single : IsProbability noise.single
  pair : IsProbability noise.pair
  readout : IsProbability noise.readout

theorem valid_iff : noise.Valid ↔ ∀ field, IsProbability (noise.get field) := by
  constructor
  · intro h field
    cases field with
    | single => exact h.single
    | pair => exact h.pair
    | readout => exact h.readout
  · exact fun h => ⟨h .single, h .pair, h .readout⟩

theorem fault?_eq_none_iff : noise.fault? = none ↔ noise.Valid := by
  rw [valid_iff, fault?, List.find?_eq_none]
  simp only [decide_eq_true_eq, Decidable.not_not]
  exact ⟨fun h field => h field (by cases field <;> decide), fun h field _ => h field⟩

theorem checkField_of_isProbability {p : α} (h : IsProbability p) (field : NoiseField) :
    checkField field p = .ok () :=
  if_pos h

theorem checkField_of_not_isProbability {p : α} (h : ¬ IsProbability p) (field : NoiseField) :
    checkField field p = .error (.invalidNoise (.notProbability field (Scalar.text p))) :=
  if_neg h

/-- The error names the first field that is not a probability, and quotes it. -/
theorem validate_of_fault {field : NoiseField} (h : noise.fault? = some field) :
    noise.validate =
      .error (.invalidNoise (.notProbability field (Scalar.text (noise.get field)))) := by
  by_cases hsingle : IsProbability noise.single
  · by_cases hpair : IsProbability noise.pair
    · by_cases hreadout : IsProbability noise.readout
      · rw [fault?_eq_none_iff.mpr ⟨hsingle, hpair, hreadout⟩] at h
        contradiction
      · obtain rfl : .readout = field := by
          simpa [fault?, NoiseField.all, get, hsingle, hpair, hreadout] using h
        rw [validate, checkField_of_isProbability hsingle, checkField_of_isProbability hpair,
          checkField_of_not_isProbability hreadout, ok_bind, ok_bind]
        rfl
    · obtain rfl : .pair = field := by
        simpa [fault?, NoiseField.all, get, hsingle, hpair] using h
      rw [validate, checkField_of_isProbability hsingle, checkField_of_not_isProbability hpair,
        ok_bind, error_bind]
      rfl
  · obtain rfl : .single = field := by
      simpa [fault?, NoiseField.all, get, hsingle] using h
    rw [validate, checkField_of_not_isProbability hsingle, error_bind]
    rfl

theorem validate_of_valid (h : noise.Valid) : noise.validate = .ok () := by
  rw [validate, checkField_of_isProbability h.single, checkField_of_isProbability h.pair,
    checkField_of_isProbability h.readout, ok_bind, ok_bind]

theorem not_valid_of_fault {field : NoiseField} (h : noise.fault? = some field) :
    ¬ noise.Valid := by
  rw [← fault?_eq_none_iff, h]
  exact Option.some_ne_none field

theorem exists_fault_of_not_valid (h : ¬ noise.Valid) : ∃ field, noise.fault? = some field :=
  Option.ne_none_iff_exists'.mp (mt fault?_eq_none_iff.mp h)

theorem validate_of_not_valid (h : ¬ noise.Valid) :
    ∃ field written, noise.validate = .error (.invalidNoise (.notProbability field written)) := by
  obtain ⟨field, hfault⟩ := exists_fault_of_not_valid h
  exact ⟨field, _, validate_of_fault hfault⟩

end Noise

end GateGame
