import GateGame.Circuit.Basic

namespace GateGame

/-! Drafts: circuits that are written down first, and checked as a whole when they
are built. -/

structure Draft where
  wires : Nat
  bits : Nat
  operations : List (Operation Nat)
  measured : Bool

namespace Draft

def ofWires (wires : Nat) : Draft :=
  ⟨wires, wires, [], false⟩

def withBits (draft : Draft) (bits : Nat) : Draft :=
  { draft with bits }

def add (draft : Draft) (operation : Operation Nat) : Draft :=
  { draft with operations := draft.operations ++ [operation] }

def addAll (draft : Draft) (operations : List (Operation Nat)) : Draft :=
  { draft with operations := draft.operations ++ operations }

def measureAll (draft : Draft) : Draft :=
  { draft with measured := true }

def build (draft : Draft) : Except Error Circuit :=
  match (Circuit.empty draft.wires draft.bits).addAll draft.operations with
  | (_, some error) => .error error
  | (circuit, none) => .ok (if draft.measured then circuit.measureAll else circuit)

end Draft

end GateGame
