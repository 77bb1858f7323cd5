import GateGame.Error

namespace GateGame

/-! Circuits: gates on a register of wires, in order of execution, and then
measurements of wires into a register of classical bits. -/

structure Measurement where
  wire : Nat
  bit : Nat
  deriving DecidableEq

structure Circuit where
  wires : Nat
  bits : Nat
  operations : List (Operation Nat)
  measurements : List Measurement
  deriving DecidableEq

namespace Circuit

def empty (wires bits : Nat) : Circuit :=
  ⟨wires, bits, [], []⟩

def checkWire (wires wire : Nat) : Except Error Unit :=
  if wire < wires then .ok ()
  else .error (.simulation (.wireOutside wire wires))

/-- Refuses an operation that leaves the register, and a gate on twice the same
wire. -/
def checkOperation (wires : Nat) : Operation Nat → Except Error Unit
  | .single _ target => checkWire wires target
  | .pair gate first second => do
      checkWire wires first
      checkWire wires second
      if first = second then
        .error (.simulation (.wireRepeated (.pair gate) first))
      else .ok ()

def add (circuit : Circuit) (operation : Operation Nat) : Except Error Circuit := do
  checkOperation circuit.wires operation
  pure { circuit with operations := circuit.operations ++ [operation] }

/-- Appends gates in order up to the first that is refused; the ones before it
stay. -/
def addAll (circuit : Circuit) : List (Operation Nat) → Circuit × Option Error
  | [] => (circuit, none)
  | operation :: rest =>
      match circuit.add operation with
      | .ok circuit => addAll circuit rest
      | .error error => (circuit, some error)

def measure (circuit : Circuit) (wire bit : Nat) : Except Error Circuit := do
  checkWire circuit.wires wire
  if bit < circuit.bits then
    pure { circuit with measurements := circuit.measurements ++ [⟨wire, bit⟩] }
  else .error (.simulation (.bitOutside bit circuit.bits))

/-- Measures every wire into the bit of the same number, as far as there is one. -/
def measureAll (circuit : Circuit) : Circuit :=
  { circuit with
    measurements := circuit.measurements ++
      (List.range (min circuit.wires circuit.bits)).map fun k => ⟨k, k⟩ }

end Circuit

end GateGame
