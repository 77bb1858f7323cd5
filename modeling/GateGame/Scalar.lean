namespace GateGame

/-! The numbers that amplitudes and probabilities are made of. Programs run on
doubles; nothing in the library depends on more than the operations below. -/

class Scalar (α : Type) extends Add α, Sub α, Mul α, Div α, Neg α, Zero α, One α,
    NatCast α, LT α, LE α where
  decideLt : DecidableLT α
  decideLe : DecidableLE α
  invSqrt2 : α
  text : α → String

namespace Scalar

variable {α : Type} [Scalar α]

instance : DecidableLT α := decideLt

instance : DecidableLE α := decideLe

def isZero (x : α) : Bool :=
  x ≤ 0 ∧ 0 ≤ x

def sum : List α → α
  | [] => 0
  | x :: xs => xs.foldl (· + ·) x

def mean (xs : List α) : α :=
  if xs.isEmpty then 0 else sum xs / (xs.length : α)

end Scalar

end GateGame
