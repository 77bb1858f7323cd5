import GateGame.Backend
import GateGame.Proofs.Score.Outcome
import GateGame.Proofs.Script.Spelling
import GateGame.Proofs.Seating.Renaming

namespace GateGame

/-! Scripts whose players are renamed. A circuit knows wires only, so the circuit of a
renamed script is the one that the script has under another seating: whoever sees the
circuit alone, and not the seating, learns nothing about who plays what. -/

theorem Operation.map_map {ι κ μ : Type} (f : ι → κ) (g : κ → μ) (operation : Operation ι) :
    (operation.map f).map g = operation.map (g ∘ f) := by
  cases operation <;> rfl

theorem Operation.map_congr_of_fits {players : Nat} {κ : Type} {f g : Nat → κ}
    {operation : Operation Nat} (hfits : operation.Fits players)
    (h : ∀ player < players, f player = g player) : operation.map f = operation.map g := by
  cases operation with
  | single gate target =>
      simp only [map, h target (fits_single.mp hfits)]
  | pair gate first second =>
      obtain ⟨hfirst, hsecond, -⟩ := fits_pair.mp hfits
      simp only [map, h first hfirst, h second hsecond]

namespace Script

variable {players : Nat}

/-- Replaces a character that names a player. -/
def renameChar (τ : Equiv.Perm (Fin players)) (c : Char) : Char :=
  if IsPlayer players c then digit (renamed τ (playerOf c)) else c

/-- The script in which every player is replaced by its new name. -/
def rename (τ : Equiv.Perm (Fin players)) (script : String) : String :=
  String.ofList (script.toList.map (renameChar τ))

theorem renameChar_digit {player : Nat} (hplayers : players ≤ maxDigit)
    (τ : Equiv.Perm (Fin players)) (h : player < players) :
    renameChar τ (digit player) = digit (renamed τ player) := by
  rw [renameChar, if_pos (isPlayer_digit hplayers h),
    playerOf_digit (Nat.lt_of_lt_of_le h hplayers)]

theorem Token.rename {chars : List Char} {operation : Operation Nat}
    (hplayers : players ≤ maxDigit) (τ : Equiv.Perm (Fin players))
    (h : Token players chars operation) :
    Token players (chars.map (renameChar τ)) (operation.map (renamed τ)) := by
  have hfits : (operation.map (renamed τ)).Fits players :=
    h.fits.map (fun _ => renamed_lt τ) fun _ hplayer _ hother => renamed_inj τ hplayer hother
  obtain ⟨c, hletter, rfl⟩ := h.exists_letter hplayers
  have hoperands : (operation.operands.map digit).map (renameChar τ) =
      (operation.map (renamed τ)).operands.map digit := by
    rw [Operation.operands_map, List.map_map, List.map_map]
    apply List.map_congr_left
    intro player hplayer
    exact renameChar_digit hplayers τ (h.fits.1 player hplayer)
  rw [List.map_cons, hoperands, renameChar,
    if_neg (not_isPlayer_of_spelledBy hplayers hletter)]
  exact token_digits hplayers (by rwa [Operation.gate_map]) hfits

theorem Spells.rename {chars : List Char} {operations : List (Operation Nat)}
    (hplayers : players ≤ maxDigit) (τ : Equiv.Perm (Fin players))
    (h : Spells players chars operations) :
    Spells players (chars.map (renameChar τ)) (operations.map (·.map (renamed τ))) := by
  induction h with
  | nil => exact .nil
  | cons htoken hrest ih =>
      rw [List.map_append, List.map_cons]
      exact .cons (htoken.rename hplayers τ) ih

theorem isValid_rename {script : String} (hvalid : isValid script players = true)
    (τ : Equiv.Perm (Fin players)) :
    isValid (rename τ script) players = true ∧
      playerOperations (rename τ script) players =
        (playerOperations script players).map (·.map (renamed τ)) := by
  have hplayers := (isValid_iff.mp hvalid).1
  apply isValid_of_spells hplayers
  rw [rename, String.toList_ofList]
  exact (spells_of_isValid hvalid).rename (hplayers.2.trans maxPlayers_le_maxDigit) τ

theorem circuit_rename_eq {script : String} (hvalid : isValid script players = true)
    (τ : Equiv.Perm (Fin players)) (seats : Seats players) :
    circuit (rename τ script) players seats = circuit script players (seats.after τ) := by
  obtain ⟨hrenamed, hoperations⟩ := isValid_rename hvalid τ
  rw [circuit_eq_circuitOf hrenamed seats.2, circuit_eq_circuitOf hvalid (seats.after τ).2,
    hoperations, circuitOf, circuitOf, List.map_map]
  congr 2
  apply List.map_congr_left
  intro operation hmem
  rw [Function.comp_apply, Operation.map_map]
  apply Operation.map_congr_of_fits (playerOperations_fit script players operation hmem)
  intro player hplayer
  exact (seats.wire_after τ hplayer).symm

end Script

theorem Score.get_ofHistogram_after {players : Nat} (hplayers : players ≤ maxPlayers)
    (τ : Equiv.Perm (Fin players)) (seats : Seats players) (histogram : Histogram)
    (player : Fin players) :
    (ofHistogram histogram players seats).get (τ player) =
      (ofHistogram histogram players (seats.after τ)).get player := by
  have hscored (seats : Seats players) : scored players seats = players :=
    scored_eq (Nat.le_trans hplayers maxPlayers_le_scoreSlots) seats.2
  have hwire := seats.wire_after τ player.isLt
  rw [renamed_fin] at hwire
  simp only [get_ofHistogram, hscored, hwire, Fin.is_lt, true_and]

/-- Renaming the players of a script renames the scores and nothing else. The renamed
script is valid; every seating gives it the circuit that the script has when each
player takes the wire of the player it is renamed to; and from any counted outcomes,
each new name scores what the old one scores under that other seating. So the circuits
that all seatings lead to, each as often as it occurs, are the same for both scripts,
and so is all that a backend can do with them. -/
theorem Script.circuit_rename {script : String} {players : Nat}
    (hvalid : isValid script players = true) (τ : Equiv.Perm (Fin players)) :
    isValid (rename τ script) players = true ∧
    playerOperations (rename τ script) players =
      (playerOperations script players).map (·.map (renamed τ)) ∧
    (∀ seats : Seats players,
      (∀ player : Fin players,
        (seats.after τ).1.wire? player = seats.1.wire? (τ player)) ∧
      (∃ built, circuit (rename τ script) players seats = .ok built ∧
        circuit script players (seats.after τ) = .ok built) ∧
      ∀ (histogram : Histogram) (player : Fin players),
        (Score.ofHistogram histogram players seats).get (τ player) =
          (Score.ofHistogram histogram players (seats.after τ)).get player) ∧
    Fintype.card (Seats players) = players.factorial ∧
    (Finset.univ.val.map fun seats : Seats players =>
        circuit (rename τ script) players seats) =
      (Finset.univ.val.map fun seats : Seats players => circuit script players seats) ∧
    ∀ {σ : Type} (backend : Backend σ) (shots : UInt32) (world : σ),
      (Finset.univ.val.map fun seats : Seats players =>
          (circuit (rename τ script) players seats).map fun built =>
            (backend.run built shots).run.run world) =
        (Finset.univ.val.map fun seats : Seats players =>
          (circuit script players seats).map fun built =>
            (backend.run built shots).run.run world) := by
  obtain ⟨hrenamed, hoperations⟩ := isValid_rename hvalid τ
  have hplayers := (isValid_iff.mp hvalid).1.2
  refine ⟨hrenamed, hoperations, fun seats => ⟨?_, ?_, ?_⟩, Seats.card_seats players, ?_, ?_⟩
  · intro player
    have hwire := seats.wire_after τ player.isLt
    rw [renamed_fin] at hwire
    rw [Seating.wire?_of_lt (by rw [(seats.after τ).2]; exact player.isLt),
      Seating.wire?_of_lt (by rw [seats.2]; exact (τ player).isLt), hwire]
  · have hbuilt := circuit_eq_circuitOf hvalid (seats.after τ).2
    exact ⟨_, (circuit_rename_eq hvalid τ seats).trans hbuilt, hbuilt⟩
  · exact Score.get_ofHistogram_after hplayers τ seats
  · simp only [circuit_rename_eq hvalid τ]
    exact Seats.map_after τ fun seats => circuit script players seats
  · intro σ backend shots world
    simp only [circuit_rename_eq hvalid τ]
    exact Seats.map_after τ fun seats =>
      (circuit script players seats).map fun built => (backend.run built shots).run.run world

theorem Script.circuit_rename_three_players :
    let seats : Seats 3 := ⟨⟨[2, 0, 1], by decide, by decide⟩, rfl⟩
    let seats' : Seats 3 := ⟨⟨[1, 0, 2], by decide, by decide⟩, rfl⟩
    isValid "x3C32S21" 3 = true ∧
      (∃ built, circuit "x3C32S21" 3 seats = .ok built ∧
        circuit "x1C12S23" 3 seats' = .ok built) ∧
      ∀ histogram, (Score.ofHistogram histogram 3 seats).get 2 =
        (Score.ofHistogram histogram 3 seats').get 0 := by
  intro seats seats'
  let τ : Equiv.Perm (Fin 3) := Equiv.swap 0 2
  have hrename : rename τ "x1C12S23" = "x3C32S21" := by decide
  have hafter : seats.after τ = seats' := Seats.ext_wire (by decide)
  obtain ⟨hvalid, -, hseats, -⟩ := @circuit_rename "x1C12S23" 3 (by decide) τ
  obtain ⟨-, hbuilt, hscore⟩ := hseats seats
  rw [hrename] at hvalid hbuilt
  rw [hafter] at hbuilt
  refine ⟨hvalid, hbuilt, fun histogram => ?_⟩
  have hplayer := hscore histogram 0
  rwa [hafter] at hplayer

end GateGame
