import GateGame.Circuit.Basic
import GateGame.Histogram.Basic

namespace GateGame

/-! Collaborators: whatever executes circuits, near or far. A collaborator acts on
the state `σ` of the world outside this library, and may fail. -/

/-- An action of collaborators. What it did to their state stays done when it
fails. -/
abbrev Outside (σ : Type) := ExceptT Error (StateM σ)

structure Backend (σ : Type) where
  name : String
  run : Circuit → (shots : UInt32) → Outside σ Histogram

end GateGame
