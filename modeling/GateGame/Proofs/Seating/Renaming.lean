import GateGame.Proofs.Seating.Wire
import Mathlib.Data.Fintype.Perm

namespace GateGame

/-! Renamings of players. A seating of so many players is a permutation, so there are
as many seatings as permutations, and renaming the players first leads through all of
them again. -/

/-- The player with a new name, or anyone beyond the players. -/
def renamed {players : Nat} (τ : Equiv.Perm (Fin players)) (player : Nat) : Nat :=
  if h : player < players then τ ⟨player, h⟩ else player

section Renamed

variable {players : Nat} (τ : Equiv.Perm (Fin players))

@[simp] theorem renamed_fin (player : Fin players) : renamed τ player = τ player := by
  simp [renamed]

theorem renamed_lt {player : Nat} (h : player < players) : renamed τ player < players := by
  rw [renamed, dif_pos h]
  exact (τ ⟨player, h⟩).isLt

theorem renamed_inj {player other : Nat} (hplayer : player < players) (hother : other < players)
    (h : renamed τ player = renamed τ other) : player = other := by
  rw [renamed, renamed, dif_pos hplayer, dif_pos hother] at h
  exact Fin.mk.inj (τ.injective (Fin.ext h))

end Renamed

/-- The seatings of so many players. -/
abbrev Seats (players : Nat) : Type := {seating : Seating // seating.size = players}

namespace Seats

variable {players : Nat}

theorem wire_lt (seats : Seats players) (player : Fin players) :
    seats.1.wire player < players := by
  obtain ⟨seating, rfl⟩ := seats
  exact Seating.wire_lt player.isLt

theorem player_lt (seats : Seats players) (wire : Fin players) :
    seats.1.player wire < players := by
  obtain ⟨seating, rfl⟩ := seats
  exact Seating.player_lt wire.isLt

theorem ext_wire {seats seats' : Seats players}
    (h : ∀ player : Fin players, seats.1.wire player = seats'.1.wire player) : seats = seats' := by
  obtain ⟨⟨wires, nodup, bounded⟩, hsize⟩ := seats
  obtain ⟨⟨wires', nodup', bounded'⟩, hsize'⟩ := seats'
  have hlength : wires.length = players := hsize
  have hlength' : wires'.length = players := hsize'
  congr
  apply List.ext_getElem (hlength.trans hlength'.symm)
  intro player hleft hright
  have hwire := h ⟨player, hlength ▸ hleft⟩
  rwa [Seating.wire_eq_getElem hleft, Seating.wire_eq_getElem hright] at hwire

/-- The seating that a permutation of players and wires describes. -/
def ofPerm (σ : Equiv.Perm (Fin players)) : Seats players where
  val :=
    { wires := List.ofFn fun player => (σ player : Nat)
      nodup := List.nodup_ofFn.mpr (Fin.val_injective.comp σ.injective)
      bounded := by
        intro wire hwire
        obtain ⟨player, rfl⟩ := List.mem_ofFn.mp hwire
        rw [List.length_ofFn]
        exact (σ player).isLt }
  property := List.length_ofFn

@[simp] theorem wire_ofPerm (σ : Equiv.Perm (Fin players)) (player : Fin players) :
    (ofPerm σ).1.wire player = σ player := by
  have hplayer : (player : Nat) < (ofPerm σ).1.wires.length := by simp [ofPerm]
  rw [Seating.wire_eq_getElem hplayer]
  simp [ofPerm]

def perm (seats : Seats players) : Equiv.Perm (Fin players) where
  toFun player := ⟨seats.1.wire player, seats.wire_lt player⟩
  invFun wire := ⟨seats.1.player wire, seats.player_lt wire⟩
  left_inv player := by simp
  right_inv wire := by simp

/-- Seatings are the permutations. -/
def equivPerm (players : Nat) : Seats players ≃ Equiv.Perm (Fin players) where
  toFun := perm
  invFun := ofPerm
  left_inv seats := ext_wire fun player => wire_ofPerm seats.perm player
  right_inv σ := Equiv.ext fun player => Fin.ext (wire_ofPerm σ player)

instance : Fintype (Seats players) :=
  Fintype.ofEquiv _ (equivPerm players).symm

theorem card_seats (players : Nat) : Fintype.card (Seats players) = players.factorial := by
  rw [Fintype.card_congr (equivPerm players), Fintype.card_perm, Fintype.card_fin]

/-- The seating in which every player has the wire of the player that it is renamed
to. -/
def after (seats : Seats players) (τ : Equiv.Perm (Fin players)) : Seats players :=
  ofPerm (seats.perm * τ)

theorem wire_after (seats : Seats players) (τ : Equiv.Perm (Fin players)) {player : Nat}
    (h : player < players) : (seats.after τ).1.wire player = seats.1.wire (renamed τ player) := by
  have hwire := wire_ofPerm (seats.perm * τ) ⟨player, h⟩
  rw [renamed, dif_pos h]
  exact hwire

/-- Renaming the players first goes through all seatings. -/
theorem map_after {β : Type} (τ : Equiv.Perm (Fin players)) (f : Seats players → β) :
    Finset.univ.val.map (fun seats : Seats players => f (seats.after τ)) =
      Finset.univ.val.map f := by
  let turn : Equiv.Perm (Seats players) :=
    ((equivPerm players).trans (Equiv.mulRight τ)).trans (equivPerm players).symm
  have hturn : (fun seats : Seats players => f (seats.after τ)) = f ∘ turn := rfl
  rw [hturn, ← Multiset.map_map, Multiset.map_univ_val_equiv]

end Seats

end GateGame
