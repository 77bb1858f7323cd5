import GateGame.Random.Source

namespace GateGame

/-! Numbers drawn below a bound. The upper half of the product of a word with the bound is
one of them, and it stays one when it is refined by a second word. -/

namespace RandomSource

variable {ρ : Type} [RandomSource ρ]

theorem mul_div_lt {word bound size : Nat} (hword : word < size) (hpos : 0 < bound) :
    word * bound / size < bound :=
  Nat.div_lt_of_lt_mul ((Nat.mul_lt_mul_right hpos).mpr hword)

/-- The upper half stays below the bound even when the second word carries over. -/
theorem mul_div_succ_lt {word bound size carry : Nat} (hword : word < size)
    (hcarry : carry < bound) (hfull : size ≤ word * bound % size + carry) :
    word * bound / size + 1 < bound := by
  have hsplit := Nat.div_add_mod (word * bound) size
  have hproduct : word * bound + bound ≤ size * bound := by
    rw [← Nat.succ_mul]
    exact Nat.mul_le_mul_right bound hword
  apply Nat.lt_of_mul_lt_mul_left (a := size)
  rw [Nat.mul_succ]
  omega

theorem run_below {bound : Nat} {source rest rest' : ρ} {first second : UInt32}
    (hfirst : (halfWord : StateM ρ UInt32).run source = (first, rest))
    (hsecond : (halfWord : StateM ρ UInt32).run rest = (second, rest')) :
    (below bound).run source =
      if UInt32.size - bound < first.toNat * bound % UInt32.size then
        (if UInt32.size ≤ first.toNat * bound % UInt32.size + second.toNat * bound / UInt32.size
          then first.toNat * bound / UInt32.size + 1
          else first.toNat * bound / UInt32.size, rest')
      else (first.toNat * bound / UInt32.size, rest) := by
  rw [below, StateT.run_bind, hfirst]
  change StateT.run (if UInt32.size - bound < first.toNat * bound % UInt32.size then
    halfWord >>= fun second : UInt32 => pure _ else pure _) rest = _
  split
  · rw [StateT.run_bind, hsecond]
    rfl
  · rfl

theorem below_lt {bound : Nat} (hpos : 0 < bound) (source : ρ) :
    ((below bound).run source).1 < bound := by
  have hword (word : UInt32) : word.toNat < UInt32.size := word.toNat_lt
  rcases hfirst : (halfWord : StateM ρ UInt32).run source with ⟨first, rest⟩
  rcases hsecond : (halfWord : StateM ρ UInt32).run rest with ⟨second, rest'⟩
  rw [run_below hfirst hsecond]
  split
  · split
    · next hfull => exact mul_div_succ_lt (hword first) (mul_div_lt (hword second) hpos) hfull
    · exact mul_div_lt (hword first) hpos
  · exact mul_div_lt (hword first) hpos

end RandomSource

end GateGame
