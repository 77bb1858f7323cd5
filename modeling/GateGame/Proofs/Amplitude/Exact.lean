import GateGame.Register.Gates
import Mathlib

namespace GateGame

/-! Exact arithmetic. Scalars that can be read as real numbers without any error turn
amplitudes into complex numbers, on which every gate acts as a unitary matrix. -/

/-- A reading of scalars as real numbers under which no operation errs. Of the
constant of the Hadamard gate only the square is fixed. -/
structure ExactReading (α : Type) [Scalar α] where
  value : α → ℝ
  injective : Function.Injective value
  value_zero : value 0 = 0
  value_one : value 1 = 1
  value_natCast : ∀ n : Nat, value (n : α) = n
  value_add : ∀ x y, value (x + y) = value x + value y
  value_sub : ∀ x y, value (x - y) = value x - value y
  value_mul : ∀ x y, value (x * y) = value x * value y
  value_div : ∀ x y, value (x / y) = value x / value y
  value_neg : ∀ x, value (-x) = -value x
  value_lt : ∀ x y, x < y ↔ value x < value y
  value_le : ∀ x y, x ≤ y ↔ value x ≤ value y
  value_invSqrt2 : 2 * value Scalar.invSqrt2 * value Scalar.invSqrt2 = 1

/-- Scalars that calculate exactly. -/
class ExactScalar (α : Type) [Scalar α] : Prop where
  exists_reading : Nonempty (ExactReading α)

/-- The real numbers as scalars. They have no text. -/
def ExactReal : Type := ℝ

noncomputable instance : Scalar ExactReal where
  toAdd := inferInstanceAs (Add ℝ)
  toSub := inferInstanceAs (Sub ℝ)
  toMul := inferInstanceAs (Mul ℝ)
  toDiv := inferInstanceAs (Div ℝ)
  toNeg := inferInstanceAs (Neg ℝ)
  toZero := inferInstanceAs (Zero ℝ)
  toOne := inferInstanceAs (One ℝ)
  toNatCast := inferInstanceAs (NatCast ℝ)
  toLT := inferInstanceAs (LT ℝ)
  toLE := inferInstanceAs (LE ℝ)
  decideLt _ _ := Classical.propDecidable _
  decideLe _ _ := Classical.propDecidable _
  invSqrt2 := @Inv.inv ℝ _ √2
  text _ := ""

def ExactReal.reading : ExactReading ExactReal where
  value x := x
  injective _ _ h := h
  value_zero := rfl
  value_one := rfl
  value_natCast _ := rfl
  value_add _ _ := rfl
  value_sub _ _ := rfl
  value_mul _ _ := rfl
  value_div _ _ := rfl
  value_neg _ := rfl
  value_lt _ _ := Iff.rfl
  value_le _ _ := Iff.rfl
  value_invSqrt2 := by
    have hsquare : (√2 : ℝ) * √2 = 2 := Real.mul_self_sqrt (by norm_num)
    have hpositive : (√2 : ℝ) ≠ 0 := by positivity
    change 2 * (√2 : ℝ)⁻¹ * (√2 : ℝ)⁻¹ = 1
    field_simp
    linarith

instance : ExactScalar ExactReal := ⟨⟨ExactReal.reading⟩⟩

namespace ExactReading

variable {α : Type} [Scalar α] (reading : ExactReading α)

theorem value_foldl_add (xs : List α) (sum : α) :
    reading.value (xs.foldl (· + ·) sum) = reading.value sum + (xs.map reading.value).sum := by
  induction xs generalizing sum with
  | nil => simp
  | cons x xs ih =>
      rw [List.foldl_cons, ih, reading.value_add, List.map_cons, List.sum_cons, add_assoc]

theorem value_sum (xs : List α) :
    reading.value (Scalar.sum xs) = (xs.map reading.value).sum := by
  cases xs with
  | nil => exact reading.value_zero
  | cons x xs => rw [Scalar.sum, reading.value_foldl_add, List.map_cons, List.sum_cons]

/-- The squared modulus of an amplitude. -/
def weight (a : Amplitude α) : ℝ :=
  reading.value a.normSq

theorem weight_eq (a : Amplitude α) :
    reading.weight a = reading.value a.re * reading.value a.re +
      reading.value a.im * reading.value a.im := by
  rw [weight, Amplitude.normSq, reading.value_add, reading.value_mul, reading.value_mul]

theorem weight_zero : reading.weight 0 = 0 := by
  simp [weight_eq, reading.value_zero]

theorem weight_one : reading.weight 1 = 1 := by
  simp [weight_eq, reading.value_zero, reading.value_one]

/-- The matrix of a gate on one wire is unitary. -/
theorem weight_single (gate : SingleGate) (a b : Amplitude α) :
    reading.weight (gate.entry false false * a + gate.entry false true * b) +
        reading.weight (gate.entry true false * a + gate.entry true true * b) =
      reading.weight a + reading.weight b := by
  have hhalf := reading.value_invSqrt2
  cases gate <;>
    simp only [weight_eq, SingleGate.entry, Amplitude.re_add, Amplitude.im_add, Amplitude.re_mul,
      Amplitude.im_mul, Amplitude.re_neg, Amplitude.im_neg, Amplitude.re_zero, Amplitude.im_zero,
      Amplitude.re_one, Amplitude.im_one, Amplitude.re_i, Amplitude.im_i, Amplitude.re_ofScalar,
      Amplitude.im_ofScalar, reading.value_add, reading.value_sub, reading.value_mul,
      reading.value_neg, reading.value_zero, reading.value_one]
  case hadamard =>
    linear_combination (reading.value a.re ^ 2 + reading.value a.im ^ 2 +
      reading.value b.re ^ 2 + reading.value b.im ^ 2) * hhalf
  all_goals ring

/-- The matrix of a gate on two wires is unitary: it takes the values of the wires to
others, each to a different one. -/
theorem weight_pair (gate : PairGate) (a : Bool × Bool → Amplitude α) :
    (Register.quadValues.map fun row => reading.weight
        (Register.quadValues.foldl (fun sum column => sum + gate.entry row column * a column)
          0)).sum =
      (Register.quadValues.map fun column => reading.weight (a column)).sum := by
  cases gate <;>
    simp [Register.quadValues, PairGate.entry, PairGate.image, weight_eq, reading.value_add,
      reading.value_sub, reading.value_mul, reading.value_zero, reading.value_one] <;>
    ring

end ExactReading

end GateGame
