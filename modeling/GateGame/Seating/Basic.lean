import GateGame.Error

namespace GateGame

/-! Seatings: which wire carries which player. Every wire is carried by exactly
one player, so that scores can be read back. -/

/-- A bijection from players to as many wires, as the list of the wires by
player. -/
structure Seating where
  wires : List Nat
  nodup : wires.Nodup
  bounded : ∀ wire ∈ wires, wire < wires.length

namespace Seating

def fault? (size : Nat) (taken : List Nat) : List Nat → Option SeatingFault
  | [] => none
  | wire :: rest =>
      if wire < size then
        if wire ∈ taken then some (.assignedTwice wire)
        else fault? size (wire :: taken) rest
      else some (.outside wire size)

theorem fault?_eq_none_iff {size : Nat} {taken wires : List Nat} :
    fault? size taken wires = none ↔
      (∀ wire ∈ wires, wire < size ∧ wire ∉ taken) ∧ wires.Nodup := by
  induction wires generalizing taken with
  | nil => simp [fault?]
  | cons wire rest ih =>
    by_cases hsize : wire < size
    · by_cases htaken : wire ∈ taken
      · simp [fault?, hsize, htaken]
      · simp only [fault?, hsize, htaken, if_true, if_false, ih, List.mem_cons, not_or,
          List.nodup_cons, forall_eq_or_imp, not_false_eq_true, and_self, true_and]
        grind
    · simp [fault?, hsize]

def ofWires (wires : List Nat) : Except Error Seating :=
  match h : fault? wires.length [] wires with
  | some fault => .error (.invalidSeating fault)
  | none => .ok
      { wires
        nodup := (fault?_eq_none_iff.mp h).2
        bounded := fun wire hwire => ((fault?_eq_none_iff.mp h).1 wire hwire).1 }

def identity (players : Nat) : Seating where
  wires := List.range players
  nodup := List.nodup_range
  bounded := by simp

def size (seating : Seating) : Nat :=
  seating.wires.length

def wire? (seating : Seating) (player : Nat) : Option Nat :=
  seating.wires[player]?

def text (seating : Seating) : String :=
  "\x7b" ++ ", ".intercalate
    (seating.wires.mapIdx fun player wire => s!"p{player}->{wireName wire}") ++ "\x7d"

end Seating

end GateGame
