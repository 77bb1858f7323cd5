import GateGame.Backend
import GateGame.Device.Calibration

namespace GateGame

/-- A remote device: a backend that also reports how well it works. -/
structure Device (α σ : Type) extends Backend σ where
  calibration : Outside σ (Calibration α)

end GateGame
