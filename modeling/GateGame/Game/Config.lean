import GateGame.Game.Mode
import GateGame.Noise.Json

namespace GateGame

/-! The settings of a game. -/

structure Config (α : Type) where
  mode : Mode
  shots : UInt32
  seed : Option UInt64
  /-- The noise of a noisy simulation; without it the device's own, if there is
  one, or that of a typical device. -/
  noise : Option (Noise α)
  deriving DecidableEq

namespace Config

def standard {α : Type} : Config α := ⟨.ideal, 1024, none, none⟩

def ofFlags {α : Type} (simulate noisy : Bool) : Config α :=
  { standard with mode := Mode.ofFlags simulate noisy }

def fieldNames : List String := ["mode", "shots", "seed", "noise"]

def shots? (value : Json) : Option UInt32 := do
  let word ← value.word?
  if word.toNat < UInt32.size then some word.toUInt32 else none

def nullable? {β : Type} (read : Json → Option β) : Json → Option (Option β)
  | .null => some none
  | value => (read value).map some

/-- Reads a field, or takes the default if it is missing. -/
def fieldOr {β : Type} (default : β) (read : Json → Option β) : Option Json → Option β
  | none => some default
  | some value => read value

def ofJson? (value : Json) : Option (Config Float) := do
  match ← value.fields? fieldNames with
  | [mode, shots, seed, noise] =>
      pure {
        mode := ← fieldOr Mode.ideal Mode.ofJson? mode
        shots := ← fieldOr 1024 shots? shots
        seed := ← fieldOr none (nullable? Json.word?) seed
        noise := ← fieldOr none (nullable? Noise.ofJson?) noise }
  | _ => none

def read? (text : String) : Option (Config Float) :=
  (Json.parse? text).bind ofJson?

def writeNullable {β : Type} (write : β → String) : Option β → String
  | none => "null"
  | some value => write value

def json (config : Config Float) : String :=
  Json.writeObject (fieldNames.zip [
    config.mode.json,
    toString config.shots.toNat,
    writeNullable (fun seed => toString seed.toNat) config.seed,
    writeNullable Noise.json config.noise])

end Config

end GateGame
