import GateGame.Json.Parser
import GateGame.Json.Record
import GateGame.Json.Writer

namespace GateGame

/-! The error figures that a device reports about itself. -/

/-- Error figures: of gates on one wire, by wire; of gates on two wires, by coupled
pair; and of measurements, by wire. -/
structure Calibration (α : Type) where
  single : List α
  pair : List α
  readout : List α
  deriving DecidableEq

namespace Calibration

def empty {α : Type} : Calibration α := ⟨[], [], []⟩

def fieldNames : List String :=
  ["single_qubit_errors", "two_qubit_errors", "readout_errors"]

def figures? (value : Json) : Option (List Float) := do
  (← value.elements?).mapM Json.double?

def ofJson? (value : Json) : Option (Calibration Float) := do
  match ← value.fields? fieldNames with
  | [some single, some pair, some readout] =>
      pure ⟨← figures? single, ← figures? pair, ← figures? readout⟩
  | _ => none

def read? (text : String) : Option (Calibration Float) :=
  (Json.parse? text).bind ofJson?

def json (calibration : Calibration Float) : String :=
  Json.writeObject (fieldNames.zip
    ([calibration.single, calibration.pair, calibration.readout].map fun figures =>
      Json.writeArray (figures.map Json.writeDouble)))

end Calibration

end GateGame
