import GateGame.Proofs.Amplitude.Marks
import GateGame.Proofs.Double.Normal
import GateGame.Proofs.Random.Uniforms

namespace GateGame.Double

/-! The two zeros among the doubles. Programs that compare with zero do not tell them
apart, and no other double compares so. -/

open Float.Model Float.Model.UnpackedFloat

variable {x y : Float}

theorem eq_of_toBits (h : x.toModel.toBits = y.toModel.toBits) : x = y := by
  rcases x with ⟨⟨bits, _⟩⟩
  rcases y with ⟨⟨_, _⟩⟩
  cases h
  rfl

theorem le_iff : x ≤ y ↔ x.toModel.unpack.le y.toModel.unpack = true := by
  change decide (x.toModel ≤ y.toModel) = true ↔ _
  rw [decide_eq_true_iff]
  rfl

theorem isZero_iff_unpack : Scalar.isZero x = true ↔ ∃ sign, x.toModel.unpack = .zero sign := by
  rw [Scalar.isZero, decide_eq_true_iff, le_iff, le_iff, unpack_zero]
  constructor
  · rintro ⟨hle, hge⟩
    cases hunpack : x.toModel.unpack with
    | zero sign => exact ⟨sign, rfl⟩
    | notANumber =>
        rw [hunpack] at hle
        cases hle
    | infinity sign | finite sign =>
        rw [hunpack] at hle hge
        cases sign
        · cases hge
        · cases hle
  · rintro ⟨sign, hunpack⟩
    rw [hunpack]
    exact ⟨rfl, rfl⟩

theorem bounds_of_zero_lt (h : 0 < x) : 0 ≤ x ∧ ¬ x ≤ 0 := by
  rw [lt_iff, unpack_zero] at h
  rw [le_iff, le_iff, unpack_zero]
  cases hunpack : x.toModel.unpack with
  | notANumber | zero sign =>
      rw [hunpack] at h
      cases h
  | infinity sign | finite sign =>
      rw [hunpack] at h
      cases sign
      · cases h
      · exact ⟨rfl, Bool.false_ne_true⟩

instance : ExactComparisons Float where
  not_zero_lt_zero := by decide +kernel
  zero_le_zero := by decide +kernel
  zero_le_one := by decide +kernel
  bounds_of_zero_lt _ := bounds_of_zero_lt
  fraction_bounds _ := fraction_bounds

theorem toNat_unpackExponent (bits : BitVec Format.binary64.numBits) :
    (unpackExponent bits).toNat = bits.toNat / 4503599627370496 % 2048 := by
  simp [unpackExponent, Nat.shiftRight_eq_div_pow]

theorem toNat_unpackMantissa (bits : BitVec Format.binary64.numBits) :
    (unpackMantissa bits).toNat = bits.toNat % 4503599627370496 := by
  simp [unpackMantissa]

theorem fields_of_unpack_eq_zero {bits : BitVec Format.binary64.numBits} {sign : Sign}
    (h : UnpackedFloat.unpack .binary64 bits = .zero sign) :
    unpackExponent bits = 0 ∧ unpackMantissa bits = 0 := by
  rw [UnpackedFloat.unpack] at h
  dsimp only at h
  split at h
  · split at h <;> cases h
  · split at h
    · split at h
      · exact ⟨‹_›, ‹_›⟩
      · cases h
    · cases h

/-- All bits but that of the sign are clear. -/
theorem toBits_of_unpack_eq_zero {sign : Sign} (h : x.toModel.unpack = .zero sign) :
    x.toModel.toBits = 0 ∨ x.toModel.toBits = 9223372036854775808 := by
  obtain ⟨hexponent, hmantissa⟩ := fields_of_unpack_eq_zero h
  have hhigh := toNat_unpackExponent x.toModel.toBits.toBitVec
  have hlow := toNat_unpackMantissa x.toModel.toBits.toBitVec
  have hlt : x.toModel.toBits.toNat < 18446744073709551616 := x.toModel.toBits.toNat_lt
  rw [hexponent] at hhigh
  rw [hmantissa] at hlow
  rw [← UInt64.toNat_inj, ← UInt64.toNat_inj]
  simp at hhigh hlow ⊢
  omega

theorem mem_zeros_iff : x ∈ zeros Float ↔ Scalar.isZero x = true := by
  rw [isZero_iff_unpack]
  constructor
  · intro h
    rcases List.mem_cons.mp h with rfl | hnegative
    · exact ⟨.positive, rfl⟩
    · rw [List.mem_singleton.mp hnegative]
      exact ⟨.negative, rfl⟩
  · rintro ⟨sign, hunpack⟩
    rcases toBits_of_unpack_eq_zero hunpack with hpositive | hnegative
    · exact List.mem_cons.mpr (.inl (eq_of_toBits hpositive))
    · exact List.mem_cons_of_mem _ (List.mem_singleton.mpr (eq_of_toBits hnegative))

end GateGame.Double
