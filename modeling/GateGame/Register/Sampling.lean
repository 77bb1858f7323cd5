import GateGame.Random.Source
import GateGame.Register.Basic

namespace GateGame

/-! Measuring a register: a basis state is drawn with the probability that its
amplitude gives it. -/

section Sampling

variable {α : Type} [Scalar α]

/-- The first position whose cumulative sum, `sum` having been reached before
it, is greater than `draw`. -/
def firstAbove? (draw : α) : (sum : α) → List α → Option Nat
  | _, [] => none
  | sum, p :: rest =>
      if draw < sum + p then some 0
      else (firstAbove? draw (sum + p) rest).map (· + 1)

def lastPositive? : List α → Option Nat
  | [] => none
  | p :: rest =>
      match lastPositive? rest with
      | some position => some (position + 1)
      | none => if 0 < p then some 0 else none

/-- The position that a draw between zero and one selects when every position
takes up as much room as its probability. Should rounding carry the draw past
the end, it selects the last position that has any room. -/
def sampleIndex (probabilities : List α) (draw : α) : Nat :=
  match firstAbove? (draw * Scalar.sum probabilities) 0 probabilities with
  | some position => position
  | none => (lastPositive? probabilities).getD 0

def drawIndex {ρ : Type} [RandomSource ρ] (probabilities : List α) : StateM ρ Nat := do
  pure (sampleIndex probabilities (← RandomSource.uniform))

end Sampling

end GateGame
