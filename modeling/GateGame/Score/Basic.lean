import GateGame.Script.Basic

namespace GateGame

/-! Scores: how many shots each player has won. There is a slot for every player
that a table can seat, and no slot ever overflows. -/

abbrev scoreSlots : Nat := 5

theorem maxPlayers_le_scoreSlots : maxPlayers ≤ scoreSlots := by decide

structure Score where
  slots : Vector UInt64 scoreSlots
  deriving DecidableEq

def addSaturating (a b : UInt64) : UInt64 :=
  if a.toNat + b.toNat < UInt64.size then a + b else UInt64.ofNat (UInt64.size - 1)

namespace Score

def zero : Score := ⟨Vector.replicate scoreSlots 0⟩

def get (score : Score) (player : Nat) : UInt64 :=
  score.slots[player]?.getD 0

def isZero (score : Score) : Bool :=
  score.slots.toList.all (· == 0)

def total (score : Score) : UInt64 :=
  score.slots.toList.foldl addSaturating 0

def add (score : Score) (player : Nat) (count : UInt64) : Score :=
  ⟨score.slots.setIfInBounds player (addSaturating (score.get player) count)⟩

def text (score : Score) : String :=
  "[" ++ ", ".intercalate (score.slots.toList.map fun slot => toString slot.toNat) ++ "]"

end Score

end GateGame
