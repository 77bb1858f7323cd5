import GateGame.Register.Basic

namespace GateGame

/-! How gates change a register. A gate on one wire mixes the amplitudes of two
basis states that differ in that wire, a gate on two wires those of four. -/

section Entries

variable {α : Type} [Scalar α]

/-- The matrix of a gate on one wire: what the value `column` of the wire
contributes to the value `row`. -/
def SingleGate.entry : SingleGate → (row column : Bool) → Amplitude α
  | .hadamard, true, true => .ofScalar (-Scalar.invSqrt2)
  | .hadamard, _, _ => .ofScalar Scalar.invSqrt2
  | .identity, false, false => 1
  | .identity, true, true => 1
  | .identity, _, _ => 0
  | .pauliX, false, true => 1
  | .pauliX, true, false => 1
  | .pauliX, _, _ => 0
  | .pauliY, false, true => -Amplitude.i
  | .pauliY, true, false => Amplitude.i
  | .pauliY, _, _ => 0
  | .pauliZ, false, false => 1
  | .pauliZ, true, true => -1
  | .pauliZ, _, _ => 0

/-- The values of two wires to which a gate on them takes the values given. -/
def PairGate.image : PairGate → Bool × Bool → Bool × Bool
  | .controlledNot, (first, second) => (first, first ^^ second)
  | .swap, (first, second) => (second, first)

def PairGate.entry (gate : PairGate) (row column : Bool × Bool) : Amplitude α :=
  if gate.image column = row then 1 else 0

end Entries

namespace Register

variable {α : Type} [Scalar α] {wires : Nat}

/-- Mixes the amplitudes of `base` and of the basis state that differs from it
in wire `target`, where `base` has that wire zero. -/
def mixPair (gate : SingleGate) (target : Nat) (register : Register α wires) (base : Nat) :
    Register α wires :=
  let other := base ||| 1 <<< target
  let a := register.amplitude base
  let b := register.amplitude other
  (register.set base (gate.entry false false * a + gate.entry false true * b)).set other
    (gate.entry true false * a + gate.entry true true * b)

def applySingle (gate : SingleGate) (target : Nat) (register : Register α wires) :
    Register α wires :=
  ((List.range (basisSize wires)).filter fun base => !base.testBit target).foldl
    (mixPair gate target) register

/-- The basis state that agrees with `base`, which has both wires zero, except
for the given values of the two wires. -/
def quadIndex (first second base : Nat) (values : Bool × Bool) : Nat :=
  base ||| (if values.1 then 1 <<< first else 0) ||| (if values.2 then 1 <<< second else 0)

def quadValues : List (Bool × Bool) :=
  [(false, false), (false, true), (true, false), (true, true)]

def mixQuad (gate : PairGate) (first second : Nat) (register : Register α wires) (base : Nat) :
    Register α wires :=
  let old := quadValues.map fun column =>
    (column, register.amplitude (quadIndex first second base column))
  quadValues.foldl
    (fun mixed row =>
      mixed.set (quadIndex first second base row)
        (old.foldl (fun sum (column, a) => sum + gate.entry row column * a) 0))
    register

def applyPair (gate : PairGate) (first second : Nat) (register : Register α wires) :
    Register α wires :=
  ((List.range (basisSize wires)).filter
    fun base => !base.testBit first && !base.testBit second).foldl
    (mixQuad gate first second) register

def checkWire (wires wire : Nat) : Except Error Unit :=
  if wire < wires then .ok ()
  else .error (.simulation (.wireMissing wire wires))

def apply (register : Register α wires) : Operation Nat → Except Error (Register α wires)
  | .single gate target => do
      checkWire wires target
      pure (register.applySingle gate target)
  | .pair gate first second => do
      if first = second then .error (.simulation .pairOfOne)
      else do
        checkWire wires first
        checkWire wires second
        pure (register.applyPair gate first second)

def applyAll (register : Register α wires) : List (Operation Nat) →
    Except Error (Register α wires)
  | [] => .ok register
  | operation :: rest => do
      applyAll (← register.apply operation) rest

end Register

end GateGame
