import GateGame.Proofs.Double.Zeros

namespace GateGame.Double

/-! How doubles compare. All of them stand in one order, but for those that are not a
number, which stand nowhere. -/

open Float.Model Float.Model.UnpackedFloat

theorem compare_swap (a b : UnpackedFloat) :
    b.compare a = (a.compare b).map Ordering.swap := by
  cases a with
  | notANumber => cases b <;> rfl
  | infinity sign | zero sign =>
      cases b with
      | notANumber => rfl
      | infinity other | zero other | finite other => cases sign <;> cases other <;> rfl
  | finite sign mantissa exponent =>
      cases b with
      | notANumber => rfl
      | infinity other | zero other => cases sign <;> cases other <;> rfl
      | finite other mantissa' exponent' =>
          cases sign <;> cases other <;>
            simp [UnpackedFloat.compare, Ordering.swap_then, Int.compare_swap, Nat.compare_swap]

theorem compare_eq_none_iff {a b : UnpackedFloat} :
    a.compare b = none ↔ a.isNaN = true ∨ b.isNaN = true := by
  cases a with
  | notANumber => simp [UnpackedFloat.compare, UnpackedFloat.isNaN]
  | infinity sign | zero sign | finite sign =>
      cases b with
      | notANumber => simp [UnpackedFloat.compare, UnpackedFloat.isNaN]
      | infinity other | zero other | finite other =>
          cases sign <;> cases other <;> simp [UnpackedFloat.compare, UnpackedFloat.isNaN]

theorem not_le_iff {x y : Float} :
    ¬ x ≤ y ↔ x.isNaN = true ∨ y.isNaN = true ∨ y < x := by
  have hnone : x.toModel.unpack.compare y.toModel.unpack = none ↔
      x.isNaN = true ∨ y.isNaN = true := compare_eq_none_iff
  rw [← or_assoc, ← hnone, le_iff, lt_iff, UnpackedFloat.le, UnpackedFloat.lt,
    compare_swap x.toModel.unpack]
  cases x.toModel.unpack.compare y.toModel.unpack with
  | none => simp
  | some order => cases order <;> simp

end GateGame.Double
