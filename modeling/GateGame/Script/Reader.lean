import GateGame.Script.Basic

namespace GateGame

/-! Reading a script one instruction at a time, as far as someone asks for them. -/

/-- What reading a script yields, one after the other: its instructions, and the error
that stops it if there is one. -/
def Scan.items (scan : Scan) : List (Except ScriptError Instruction) :=
  scan.instructions.map .ok ++ scan.stop.toList.map .error

/-- A script and how far it has been read. -/
structure Reader where
  chars : Array Char
  players : Nat
  position : Nat
  /-- An error was found, and nothing more is read. -/
  finished : Bool
  deriving DecidableEq

namespace Reader

def ofScript (script : String) (players : Nat) : Reader :=
  ⟨script.toList.toArray, players, 0, false⟩

def playerAt (reader : Reader) (place : Nat) (h : place < reader.chars.size) :
    Except ScriptError Nat :=
  match Script.player? reader.players reader.chars[place] with
  | some player => .ok player
  | none => .error (.operandOutOfRange place reader.chars[place])

/-- The operation of the gate at the position, all characters of which are there. -/
def operation (reader : Reader) (gate : Gate)
    (h : reader.position + gate.arity < reader.chars.size) :
    Except ScriptError (Operation Nat) :=
  match gate with
  | .single gate => do
      pure (.single gate (← reader.playerAt (reader.position + 1) h))
  | .pair gate => do
      have hsecond : reader.position + 2 < reader.chars.size := h
      have hfirst : reader.position + 1 < reader.chars.size := Nat.lt_of_succ_lt hsecond
      let first ← reader.playerAt (reader.position + 1) hfirst
      let second ← reader.playerAt (reader.position + 2) hsecond
      if reader.chars[reader.position + 1] = reader.chars[reader.position + 2] then
        .error (.repeatedOperand reader.position (.pair gate) reader.chars[reader.position + 1])
      else pure (.pair gate first second)

/-- The instruction at the position, which is not the end of the script. -/
def instruction (reader : Reader) (h : reader.position < reader.chars.size) :
    Except ScriptError Instruction :=
  match Gate.ofChar? reader.chars[reader.position] with
  | none => .error (.unknownGate reader.position reader.chars[reader.position])
  | some gate =>
      if hgate : reader.position + gate.arity < reader.chars.size then
        (reader.operation gate hgate).map fun operation => ⟨operation, reader.position⟩
      else .error (.truncated reader.position gate)

/-- Asks for one more instruction. There is none at the end of the script and after an
error. -/
def next (reader : Reader) : Option (Except ScriptError Instruction) × Reader :=
  if h : reader.finished = false ∧ reader.position < reader.chars.size then
    match reader.instruction h.2 with
    | .ok instruction =>
        let position := reader.position + 1 + instruction.operation.gate.arity
        (some (.ok instruction), { reader with position })
    | .error error => (some (.error error), { reader with finished := true })
  else (none, reader)

def after (reader : Reader) : Nat → Reader
  | 0 => reader
  | requests + 1 => reader.next.2.after requests

/-- What the reader yields at a request, when so many were made before. -/
def item (reader : Reader) (requests : Nat) : Option (Except ScriptError Instruction) :=
  (reader.after requests).next.1

end Reader

end GateGame
