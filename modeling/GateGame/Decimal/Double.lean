import GateGame.Decimal.Layout
import GateGame.Scalar

namespace GateGame

/-! Doubles as scalars. -/

instance : Scalar Float where
  zero := 0
  one := 1
  natCast := Float.ofNat
  decideLt := inferInstance
  decideLe := inferInstance
  invSqrt2 := 0.7071067811865476
  text x := Decimal.plain (.ofBits x.toBits)

end GateGame
