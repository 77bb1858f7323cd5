import GateGame.Seating.Basic
import Mathlib.Data.List.GetD
import Mathlib.Data.List.Perm.Subperm

namespace GateGame.Seating

/-! A seating as a bijection of all natural numbers: beyond its players, everyone
is on the wire of the same number. -/

/-- The wire of a player, or of anyone beyond the players. -/
def wire (seating : Seating) (player : Nat) : Nat :=
  seating.wires.getD player player

/-- The player on a wire, or whoever is on one beyond the wires. -/
def player (seating : Seating) (wire : Nat) : Nat :=
  if wire < seating.size then seating.wires.idxOf wire else wire

variable {seating : Seating} {player wire : Nat}

theorem wire?_of_lt (h : player < seating.size) :
    seating.wire? player = some (seating.wire player) := by
  simp [wire?, Seating.wire, List.getElem?_eq_getElem h]

theorem wire_eq_getElem (h : player < seating.wires.length) :
    seating.wire player = seating.wires[player] :=
  List.getD_eq_getElem _ _ h

theorem wire_of_le (h : seating.size ≤ player) : seating.wire player = player :=
  List.getD_eq_default _ _ h

theorem wire_lt (h : player < seating.size) : seating.wire player < seating.size := by
  rw [wire_eq_getElem h]
  exact seating.bounded _ (List.getElem_mem h)

theorem wires_perm (seating : Seating) :
    seating.wires.Perm (List.range seating.size) := by
  have hsubset : seating.wires ⊆ List.range seating.size :=
    fun wire hwire => List.mem_range.mpr (seating.bounded wire hwire)
  apply (List.subperm_of_subset seating.nodup hsubset).perm_of_length_le
  simp [size]

/-- The wires of a seating are accepted as one. -/
theorem ofWires_wires (seating : Seating) : ofWires seating.wires = .ok seating := by
  have hfault : fault? seating.wires.length [] seating.wires = none :=
    fault?_eq_none_iff.mpr
      ⟨fun wire hwire => ⟨seating.bounded wire hwire, List.not_mem_nil⟩, seating.nodup⟩
  rw [ofWires]
  split
  · next fault h => rw [hfault] at h; contradiction
  · rfl

theorem mem_wires (h : wire < seating.size) : wire ∈ seating.wires :=
  seating.wires_perm.mem_iff.mpr (List.mem_range.mpr h)

theorem player_lt (h : wire < seating.size) : seating.player wire < seating.size := by
  rw [Seating.player, if_pos h]
  exact List.idxOf_lt_length_of_mem (mem_wires h)

theorem player_of_le (h : seating.size ≤ wire) : seating.player wire = wire :=
  if_neg (Nat.not_lt.mpr h)

@[simp] theorem wire_player (seating : Seating) (wire : Nat) :
    seating.wire (seating.player wire) = wire := by
  by_cases h : wire < seating.size
  · rw [wire_eq_getElem (player_lt h)]
    simp only [Seating.player, if_pos h]
    exact List.getElem_idxOf _
  · rw [player_of_le (Nat.not_lt.mp h), wire_of_le (Nat.not_lt.mp h)]

@[simp] theorem player_wire (seating : Seating) (player : Nat) :
    seating.player (seating.wire player) = player := by
  by_cases h : player < seating.size
  · rw [Seating.player, if_pos (wire_lt h), wire_eq_getElem h]
    exact seating.nodup.idxOf_getElem player h
  · rw [wire_of_le (Nat.not_lt.mp h), player_of_le (Nat.not_lt.mp h)]

@[simp] theorem comp_wire_player {β : Type} (seating : Seating) (values : Nat → β) :
    (values ∘ seating.wire) ∘ seating.player = values := by
  funext wire
  simp

@[simp] theorem wire_identity (players player : Nat) :
    (identity players).wire player = player := by
  rcases Nat.lt_or_ge player players with h | h
  · simp [identity, Seating.wire, h]
  · exact wire_of_le (by simpa [identity, size] using h)

theorem wire_injective (seating : Seating) : Function.Injective seating.wire :=
  Function.LeftInverse.injective seating.player_wire

end GateGame.Seating
