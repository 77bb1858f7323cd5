import GateGame.Decimal.Double
import GateGame.Noise.Basic

namespace GateGame.Noise

/-! Noise profiles as JSON. Reading does not check the probabilities. -/

def ofJson? (value : Json) : Option (Noise Float) := do
  match ← value.fields? [NoiseField.single.name, NoiseField.pair.name, NoiseField.readout.name] with
  | [some single, some pair, some readout] =>
      pure ⟨← single.double?, ← pair.double?, ← readout.double?⟩
  | _ => none

def read? (text : String) : Option (Noise Float) :=
  (Json.parse? text).bind ofJson?

def json (noise : Noise Float) : String :=
  Json.writeObject [
    (NoiseField.single.name, Json.writeDouble noise.single),
    (NoiseField.pair.name, Json.writeDouble noise.pair),
    (NoiseField.readout.name, Json.writeDouble noise.readout)]

end GateGame.Noise
