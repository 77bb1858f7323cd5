import GateGame.Gate

namespace GateGame

/-! A gate together with what it acts on: players while a game is written down,
wires once the players are seated. -/

inductive Operation (ι : Type) where
  | single (gate : SingleGate) (target : ι)
  | pair (gate : PairGate) (first second : ι)
  deriving DecidableEq

namespace Operation

variable {ι κ : Type}

def gate : Operation ι → Gate
  | .single gate _ => .single gate
  | .pair gate _ _ => .pair gate

def operands : Operation ι → List ι
  | .single _ target => [target]
  | .pair _ first second => [first, second]

def isPair : Operation ι → Bool
  | .single _ _ => false
  | .pair _ _ _ => true

/-- A gate applied to a first and possibly a second operand. A gate on one wire
leaves the second aside; a gate on two requires it. -/
def ofGate? : Gate → ι → Option ι → Option (Operation ι)
  | .single gate, first, _ => some (.single gate first)
  | .pair gate, first, some second => some (.pair gate first second)
  | .pair _, _, none => none

def map (f : ι → κ) : Operation ι → Operation κ
  | .single gate target => .single gate (f target)
  | .pair gate first second => .pair gate (f first) (f second)

@[simp] theorem gate_map (f : ι → κ) (operation : Operation ι) :
    (operation.map f).gate = operation.gate := by
  cases operation <;> rfl

@[simp] theorem operands_map (f : ι → κ) (operation : Operation ι) :
    (operation.map f).operands = operation.operands.map f := by
  cases operation <;> rfl

end Operation

end GateGame
