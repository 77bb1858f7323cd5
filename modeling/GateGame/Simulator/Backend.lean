import GateGame.Backend
import GateGame.Simulator.Basic

namespace GateGame.Simulator

/-! The simulator as a backend. It leaves the world outside alone. -/

def backend {α σ : Type} [Scalar α] (simulator : Simulator α) (entropy : UInt64) :
    Backend σ where
  name := simulator.name
  run circuit shots := ExceptT.mk (pure (simulator.run entropy circuit shots))

end GateGame.Simulator
