import GateGame.Circuit.Basic
import GateGame.Seating.Basic

namespace GateGame.Script

/-! The circuit that a script describes once its players are seated. -/

def checkPlayerCount (players : Nat) : Except Error Unit :=
  if isPlayerCount players then .ok () else .error (.invalidPlayerCount players)

def seatedWire (seating : Seating) (player : Nat) : Except Error Nat :=
  match seating.wire? player with
  | some wire => .ok wire
  | none => .error (.invalidSeating (.unseated player))

/-- The wires of the players of an operation, looked up from the left. Only a gate
on two players has a second one. -/
def seatedWires (seating : Seating) : Operation Nat → Except Error (Nat × Option Nat)
  | .single _ player => do
      pure (← seatedWire seating player, none)
  | .pair _ first second => do
      let firstWire ← seatedWire seating first
      pure (firstWire, some (← seatedWire seating second))

def seatedOperation (seating : Seating) (instruction : Instruction) :
    Except Error (Operation Nat) := do
  let gate := instruction.operation.gate
  let (first, second) ← seatedWires seating instruction.operation
  match Operation.ofGate? gate first second with
  | some operation => pure operation
  | none => .error (.unrecognizedToken instruction.position (.operandMissing gate))

def addInstructions (seating : Seating) : Circuit → List Instruction → Except Error Circuit
  | circuit, [] => .ok circuit
  | circuit, instruction :: rest => do
      let operation ← seatedOperation seating instruction
      addInstructions seating (← circuit.add operation) rest

def stopError (error : ScriptError) : Error :=
  .unrecognizedToken (error.position?.getD 0) (.script error)

/-- Builds the circuit of a script: one wire and one classical bit for each
player, the instructions in order, and at the end a measurement of every wire. -/
def circuit (script : String) (players : Nat) (seating : Seating) :
    Except Error Circuit := do
  checkPlayerCount players
  if seating.size ≠ players then
    .error (.invalidSeating (.sizeMismatch seating.size players))
  else
    let scan := scan script players
    let circuit ← addInstructions seating (Circuit.empty players players) scan.instructions
    match scan.stop with
    | some error => .error (stopError error)
    | none => pure circuit.measureAll

end GateGame.Script
