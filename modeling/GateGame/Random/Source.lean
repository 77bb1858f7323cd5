import GateGame.Scalar

namespace GateGame

/-! Sources of random words. A source is a value; drawing from it yields a word
and the source that remains. -/

class RandomSource (ρ : Type) where
  word : StateM ρ UInt64
  halfWord : StateM ρ UInt32

namespace RandomSource

variable {ρ : Type} [RandomSource ρ]

/-- Draws a number from zero up to, but not including, one: the upper 53 bits of
a word as a fraction. -/
def uniform {α : Type} [Scalar α] : StateM ρ α := do
  let w : UInt64 ← word
  pure (((w >>> 11).toNat : α) / ((9007199254740992 : Nat) : α))

/-- Draws a number below `bound`, which is below `2 ^ 32`: the upper half of the
product of a 32-bit word with the bound. A second word refines the product when
its lower half leaves the upper half in doubt. -/
def below (bound : Nat) : StateM ρ Nat := do
  let first : UInt32 ← halfWord
  let product := first.toNat * bound
  let high := product / UInt32.size
  let low := product % UInt32.size
  if UInt32.size - bound < low then
    let second : UInt32 ← halfWord
    let carry := second.toNat * bound / UInt32.size
    pure (if UInt32.size ≤ low + carry then high + 1 else high)
  else pure high

end RandomSource

end GateGame
