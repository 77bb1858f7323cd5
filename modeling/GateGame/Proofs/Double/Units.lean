import GateGame.Proofs.Amplitude.Marks
import GateGame.Proofs.Double.Normal

namespace GateGame.Double

/-! Doubles calculate exactly with zeros and ones. There are only four of those, so
the tables of their sums and products can be computed. -/

/-- Membership by equality of bits: the comparison of doubles that programs make is
another one. -/
instance decidableMem (x : Float) (xs : List Float) : Decidable (x ∈ xs) :=
  @List.instDecidableMemOfLawfulBEq Float instBEqOfDecidableEq inferInstance x xs

instance : ExactUnits Float where
  neg_zero := by decide +kernel
  neg_one := by decide +kernel
  zero_mul_zero := by decide +kernel
  zero_mul_one := by decide +kernel
  one_mul_zero := by decide +kernel
  one_mul_one := by decide +kernel
  zero_add_zero := by decide +kernel
  zero_add_one := by decide +kernel
  one_add_zero := by decide +kernel
  zero_sub_zero := by decide +kernel
  zero_sub_one := by decide +kernel
  one_sub_zero := by decide +kernel
  square_zero := by decide +kernel
  square_one := by decide +kernel
  add_zero_zero := by decide +kernel
  add_zero_one := by decide +kernel
  add_one_zero := by decide +kernel
  not_tolerance_lt := by decide +kernel
  not_zero_lt_zero := by decide +kernel
  fraction_bounds _ h := fraction_mul_one_bounds h

end GateGame.Double
