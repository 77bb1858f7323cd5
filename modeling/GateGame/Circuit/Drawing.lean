import GateGame.Circuit.Basic

namespace GateGame.Circuit

/-! A circuit drawn as text: one line per wire, time running to the right. Each
gate has a column of its own, and the measurements share the last one. Between
two wires stands a line of connectors when a gate spans them. -/

def columnWidth : Nat := 7

def onWire (symbol : List Char) : List Char :=
  let free := columnWidth - symbol.length
  List.replicate (free / 2) '─' ++ symbol.take columnWidth ++
    List.replicate (free - free / 2) '─'

def pairSymbols : PairGate → Char × Char
  | .controlledNot => ('@', 'X')
  | .swap => ('x', 'x')

def operationCell (row : Nat) : Operation Nat → List Char
  | .single gate target =>
      if row = target then onWire (Gate.single gate).name.toList else onWire []
  | .pair gate first second =>
      if row = second then onWire [(pairSymbols gate).2]
      else if row = first then onWire [(pairSymbols gate).1]
      else onWire []

def spansBelow (row : Nat) : Operation Nat → Bool
  | .single _ _ => false
  | .pair _ first second => min first second ≤ row && row < max first second

/-- What the column of the measurements shows on a wire: the bit that the last
measurement of the wire is read into. -/
def measurementCell (row : Nat) (measurements : List Measurement) : List Char :=
  match measurements.reverse.find? (·.wire = row) with
  | some measurement => onWire ('M' :: (Nat.toDigits 10 measurement.bit))
  | none => onWire []

def label (width row : Nat) : List Char :=
  let text := (wireName row).toList ++ [':', ' ']
  text ++ List.replicate (width - text.length) ' '

def wireLine (circuit : Circuit) (width row : Nat) : List Char :=
  label width row ++ circuit.operations.flatMap (operationCell row) ++
    if circuit.measurements.isEmpty then [] else measurementCell row circuit.measurements

def connectorCell (bar : Bool) : List Char :=
  List.replicate 3 ' ' ++ [if bar then '│' else ' '] ++ List.replicate 3 ' '

def connectorLine (circuit : Circuit) (width row : Nat) : List Char :=
  List.replicate width ' ' ++
    circuit.operations.flatMap (fun operation => connectorCell (spansBelow row operation)) ++
    if circuit.measurements.isEmpty then [] else connectorCell false

/-- The lines that belong to a wire: its own, and the connectors below if a gate
spans this wire and the next. -/
def rowLines (circuit : Circuit) (width row : Nat) : List (List Char) :=
  if row + 1 < circuit.wires ∧ circuit.operations.any (spansBelow row) then
    [circuit.wireLine width row, circuit.connectorLine width row]
  else [circuit.wireLine width row]

def labelWidth (circuit : Circuit) : Nat :=
  (wireName (circuit.wires - 1)).length + 2

def header (circuit : Circuit) : String :=
  s!"qcards::Circuit[{circuit.operations.length} operations on {circuit.wires} qubits, " ++
    s!"{circuit.measurements.length} measurements]"

def drawingLines (circuit : Circuit) : List (List Char) :=
  circuit.header.toList ::
    (List.range circuit.wires).flatMap (circuit.rowLines circuit.labelWidth)

def drawing (circuit : Circuit) : String :=
  String.ofList (circuit.drawingLines.flatMap (· ++ ['\n']))

end GateGame.Circuit
