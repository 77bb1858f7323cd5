import GateGame.Json.Parser
import GateGame.Json.Writer

namespace GateGame

/-! Where a game is executed. -/

inductive Mode where
  | ideal
  | noisy
  | device
  deriving DecidableEq

namespace Mode

/-- The mode that two switches select; without simulation noise is left to the
device. -/
def ofFlags (simulate noisy : Bool) : Mode :=
  if simulate then (if noisy then .noisy else .ideal) else .device

def text : Mode → String
  | .ideal => "ideal simulation"
  | .noisy => "noisy simulation"
  | .device => "device"

def name : Mode → String
  | .ideal => "ideal"
  | .noisy => "noisy"
  | .device => "device"

def ofName? : String → Option Mode
  | "ideal" => some .ideal
  | "noisy" => some .noisy
  | "device" => some .device
  | _ => none

/-- The mode that a JSON value writes: its name, alone or as the only key of an
object whose value is null. -/
def ofJson? : Json → Option Mode
  | .text (some name) => ofName? name
  | .object [(some name, .null)] => ofName? name
  | _ => none

def read? (text : String) : Option Mode :=
  (Json.parse? text).bind ofJson?

def json (mode : Mode) : String :=
  Json.quote mode.name

end Mode

end GateGame
