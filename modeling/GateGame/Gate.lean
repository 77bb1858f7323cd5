namespace GateGame

/-! The seven gates that a card can show: five act on one wire, two on a pair. -/

inductive SingleGate where
  | hadamard
  | identity
  | pauliX
  | pauliY
  | pauliZ
  deriving DecidableEq

/-- A gate on two wires; of a controlled-NOT the first one controls. -/
inductive PairGate where
  | controlledNot
  | swap
  deriving DecidableEq

inductive Gate where
  | single (gate : SingleGate)
  | pair (gate : PairGate)
  deriving DecidableEq

namespace Gate

/-- The gate that a letter names, in either case. The dotless i and the long s
count as I and S, of which they are the small letters. -/
def ofChar? : Char → Option Gate
  | 'H' | 'h' => some (.single .hadamard)
  | 'I' | 'i' | '\u0131' => some (.single .identity)
  | 'X' | 'x' => some (.single .pauliX)
  | 'Y' | 'y' => some (.single .pauliY)
  | 'Z' | 'z' => some (.single .pauliZ)
  | 'C' | 'c' => some (.pair .controlledNot)
  | 'S' | 's' | '\u017f' => some (.pair .swap)
  | _ => none

def letter : Gate → Char
  | .single .hadamard => 'H'
  | .single .identity => 'I'
  | .single .pauliX => 'X'
  | .single .pauliY => 'Y'
  | .single .pauliZ => 'Z'
  | .pair .controlledNot => 'C'
  | .pair .swap => 'S'

def arity : Gate → Nat
  | .single _ => 1
  | .pair _ => 2

def name : Gate → String
  | .single .hadamard => "H"
  | .single .identity => "I"
  | .single .pauliX => "X"
  | .single .pauliY => "Y"
  | .single .pauliZ => "Z"
  | .pair .controlledNot => "CX"
  | .pair .swap => "SWAP"

@[simp] theorem ofChar?_letter (gate : Gate) : ofChar? gate.letter = some gate := by
  rcases gate with gate | gate <;> cases gate <;> rfl

end Gate

end GateGame
