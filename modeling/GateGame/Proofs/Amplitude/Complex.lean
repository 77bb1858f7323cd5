import GateGame.Proofs.Amplitude.Exact

namespace GateGame.ExactReading

/-! Amplitudes read as complex numbers. In exact arithmetic this reading is faithful, so
an equation between amplitudes is one between complex numbers. -/

variable {α : Type} [Scalar α] (reading : ExactReading α)

/-- The complex number that an amplitude is read as. -/
def complex (a : Amplitude α) : ℂ := ⟨reading.value a.re, reading.value a.im⟩

theorem complex_injective : Function.Injective reading.complex := by
  rintro ⟨re, im⟩ ⟨re', im'⟩ h
  obtain rfl : re = re' := reading.injective (congrArg Complex.re h)
  obtain rfl : im = im' := reading.injective (congrArg Complex.im h)
  rfl

@[simp] theorem complex_zero : reading.complex 0 = 0 := by
  apply Complex.ext <;> simp [complex, reading.value_zero]

@[simp] theorem complex_one : reading.complex 1 = 1 := by
  apply Complex.ext <;> simp [complex, reading.value_zero, reading.value_one]

@[simp] theorem complex_i : reading.complex .i = Complex.I := by
  apply Complex.ext <;> simp [complex, reading.value_zero, reading.value_one]

@[simp] theorem complex_ofScalar (x : α) : reading.complex (.ofScalar x) = reading.value x := by
  apply Complex.ext <;> simp [complex, reading.value_zero]

@[simp] theorem complex_add (a b : Amplitude α) :
    reading.complex (a + b) = reading.complex a + reading.complex b := by
  apply Complex.ext <;> simp [complex, reading.value_add]

@[simp] theorem complex_neg (a : Amplitude α) : reading.complex (-a) = -reading.complex a := by
  apply Complex.ext <;> simp [complex, reading.value_neg]

@[simp] theorem complex_mul (a b : Amplitude α) :
    reading.complex (a * b) = reading.complex a * reading.complex b := by
  apply Complex.ext <;> simp [complex, reading.value_add, reading.value_sub, reading.value_mul]

theorem complex_eq_zero {a : Amplitude α} : reading.complex a = 0 ↔ a = 0 := by
  rw [← reading.complex_zero, reading.complex_injective.eq_iff]

theorem complex_invSqrt2 :
    2 * (reading.value Scalar.invSqrt2 : ℂ) * reading.value Scalar.invSqrt2 = 1 := by
  exact_mod_cast reading.value_invSqrt2

end GateGame.ExactReading
