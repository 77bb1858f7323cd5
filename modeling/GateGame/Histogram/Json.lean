import GateGame.Error
import GateGame.Histogram.Basic
import GateGame.Json.Numeral
import GateGame.Json.Parser
import GateGame.Json.Writer

namespace GateGame.Histogram

/-! Histograms as JSON: an object from outcomes to counts. -/

def isBitstring (outcome : String) : Bool :=
  !outcome.isEmpty && outcome.toList.all fun c => c = '0' || c = '1'

/-- Reads the members of an object into a histogram; a key that comes again
replaces its count. -/
def putMembers : Histogram → List (JsonText × Json) → Option Histogram
  | histogram, [] => some histogram
  | histogram, (some outcome, .number numeral) :: rest => do
      putMembers (histogram.put outcome (← numeral.word?)) rest
  | _, _ :: _ => none

def ofJson? : Json → Option Histogram
  | .object members => putMembers empty members
  | _ => none

/-- Refuses the least key that is no string of bits. -/
def checkOutcomes (histogram : Histogram) : Except Error Unit :=
  match histogram.entries.find? fun entry => !isBitstring entry.1 with
  | some (outcome, _) => .error (.invalidOutcome (.notBitstring outcome))
  | none => .ok ()

def read (text : String) : Except Error Histogram := do
  match (Json.parse? text).bind ofJson? with
  | none => .error (.invalidOutcome .malformed)
  | some histogram => do
      histogram.checkOutcomes
      pure histogram

def json (histogram : Histogram) : String :=
  Json.writeObject (histogram.entries.map fun (outcome, count) =>
    (outcome, toString count.toNat))

end GateGame.Histogram
