import GateGame.Random.Source

namespace GateGame

/-! Numbers drawn one after the other, and what is known of each of them: a fraction of 53
bits is not negative, and it is less than one. -/

/-- Scalars that compare as numbers do with zero, and tell that a fraction of 53 bits lies
between zero and one. -/
class ExactComparisons (α : Type) [Scalar α] : Prop where
  not_zero_lt_zero : ¬ (0 : α) < 0
  zero_le_zero : (0 : α) ≤ 0
  zero_le_one : (0 : α) ≤ 1
  bounds_of_zero_lt : ∀ x : α, 0 < x → 0 ≤ x ∧ ¬ x ≤ 0
  fraction_bounds : ∀ n : Nat, n < 9007199254740992 →
    ¬ (n : α) / ((9007199254740992 : Nat) : α) < 0 ∧
      (n : α) / ((9007199254740992 : Nat) : α) < 1

theorem toNat_shiftRight_lt (word : UInt64) : (word >>> 11).toNat < 9007199254740992 := by
  have hword := word.toNat_lt
  rw [UInt64.toNat_shiftRight, Nat.shiftRight_eq_div_pow]
  simp
  omega

namespace RandomSource

variable {α ρ : Type} [Scalar α] [RandomSource ρ]

/-- So many numbers, drawn one after the other. -/
def uniforms (α : Type) [Scalar α] : Nat → StateM ρ (List α)
  | 0 => pure []
  | count + 1 => do
      let draw : α ← uniform
      let rest ← uniforms α count
      pure (draw :: rest)

theorem run_uniforms_succ (α : Type) [Scalar α] (count : Nat) (source : ρ) :
    (uniforms α (count + 1)).run source =
      let first := (uniform : StateM ρ α).run source
      let rest := (uniforms α count).run first.2
      (first.1 :: rest.1, rest.2) := rfl

/-- Where the source is left does not depend on how the numbers are grouped. -/
theorem run_uniforms_add (α : Type) [Scalar α] (first second : Nat) (source : ρ) :
    ((uniforms α (first + second)).run source).2 =
      ((uniforms α second).run ((uniforms α first).run source).2).2 := by
  induction first generalizing source with
  | zero => rw [Nat.zero_add]; rfl
  | succ first ih => rw [Nat.succ_add, run_uniforms_succ, run_uniforms_succ, ih]

variable [ExactComparisons α]

theorem not_uniform_lt_zero (source : ρ) : ¬ ((uniform : StateM ρ α).run source).1 < 0 :=
  (ExactComparisons.fraction_bounds _ (toNat_shiftRight_lt _)).1

theorem uniform_lt_one (source : ρ) : ((uniform : StateM ρ α).run source).1 < 1 :=
  (ExactComparisons.fraction_bounds _ (toNat_shiftRight_lt _)).2

theorem decide_uniforms_lt_one (count : Nat) (source : ρ) :
    ((uniforms α count).run source).1.map (fun draw => decide (draw < 1)) =
      List.replicate count true := by
  induction count generalizing source with
  | zero => rfl
  | succ count ih =>
      rw [run_uniforms_succ, List.map_cons, ih, decide_eq_true (uniform_lt_one source),
        List.replicate_succ]

end RandomSource

end GateGame
