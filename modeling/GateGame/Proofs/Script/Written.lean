import GateGame.Proofs.Script.Reader
import GateGame.Proofs.Script.Spelling

namespace GateGame

/-! Writing operations down and reading them again. As long as digits name the players,
each undoes the other, except that small letters come back as capitals. -/

/-- The place is one of a character of the instruction. -/
def Instruction.Covers (place : Nat) (instruction : Instruction) : Prop :=
  instruction.position ≤ place ∧ place < instruction.position + instruction.width

namespace Script

/-- Replaces a letter that names a gate by the letter that stands for the gate. -/
def capital (c : Char) : Char :=
  match Gate.ofChar? c with
  | some gate => gate.letter
  | none => c

def capitalised (script : String) : String :=
  String.ofList (script.toList.map capital)

example : capitalised "hı1ſ21x2" = "HI1S21X2" := by decide

variable {players position : Nat} {chars : List Char} {operation : Operation Nat}
  {operations : List (Operation Nat)} {outcome : Scan}

theorem capital_of_spelledBy {gate : Gate} {c : Char} (h : gate.SpelledBy c) :
    capital c = gate.letter := by
  rw [capital, Gate.ofChar?_eq_some_iff.mpr h]

theorem capital_digit : ∀ player < maxDigit, capital (digit player) = digit player := by
  decide

theorem Token.map_capital (hplayers : players ≤ maxDigit) (h : Token players chars operation) :
    chars.map capital = operation.gate.letter :: operation.operands.map digit := by
  obtain ⟨c, hletter, rfl⟩ := h.exists_letter hplayers
  have hdigits : (operation.operands.map digit).map capital = operation.operands.map digit := by
    rw [List.map_map]
    apply List.map_congr_left
    intro player hplayer
    exact capital_digit player (Nat.lt_of_lt_of_le (h.fits.1 player hplayer) hplayers)
  rw [List.map_cons, capital_of_spelledBy hletter, hdigits]

theorem Spells.map_capital (hplayers : players ≤ maxDigit) (h : Spells players chars operations) :
    chars.map capital = (written operations).toList := by
  rw [written, String.toList_ofList]
  induction h with
  | nil => rfl
  | cons htoken _ ih =>
      rw [List.map_append, htoken.map_capital hplayers, ih, List.flatMap_cons]

theorem length_written (instructions : List Instruction) :
    (written (instructions.map Instruction.operation)).length = extent instructions := by
  rw [written, String.length_ofList]
  induction instructions with
  | nil => rfl
  | cons instruction rest ih =>
      rw [List.map_cons, List.flatMap_cons, List.length_append, ih, List.length_cons,
        List.length_map, Operation.length_operands, extent_cons, Instruction.width]

/-- Without a fault each item is an operation at the place up to which the ones before it
are written. -/
theorem Scans.getElem?_items (h : Scans players 0 chars outcome) (hstop : outcome.stop = none)
    (hread : outcome.instructions.map Instruction.operation = operations) (i : Nat) :
    outcome.items[i]? = operations[i]?.map fun operation =>
      .ok ⟨operation, (written (operations.take i)).length⟩ := by
  subst hread
  rw [Scan.items_of_end hstop, List.getElem?_map, List.getElem?_map, ← List.map_take,
    length_written]
  cases hget : outcome.instructions[i]? with
  | none => rfl
  | some instruction =>
      have hposition := h.position_eq hget
      rw [Nat.zero_add] at hposition
      rw [← hposition]
      rfl

theorem item_written (hplayers : players ≤ maxDigit)
    (h : ∀ operation ∈ operations, operation.Fits players) (i : Nat) :
    (Reader.ofScript (written operations) players).item i =
      operations[i]?.map fun operation =>
        .ok ⟨operation, (written (operations.take i)).length⟩ := by
  obtain ⟨hstop, hread⟩ := (spells_written hplayers h).scanFrom 0
  rw [Reader.item_ofScript]
  exact (scans_scan (written operations) players).getElem?_items hstop hread i

theorem Scans.position_le (h : Scans players position chars outcome) {instruction : Instruction}
    (hmem : instruction ∈ outcome.instructions) : position ≤ instruction.position := by
  obtain ⟨i, hget⟩ := List.mem_iff_getElem?.mp hmem
  rw [h.position_eq hget]
  exact Nat.le_add_right ..

/-- When all is read, each place belongs to one instruction and to no other. -/
theorem Scans.existsUnique_covers (h : Scans players position chars outcome)
    (hstop : outcome.stop = none) {place : Nat} (hle : position ≤ place)
    (hlt : place < position + chars.length) :
    ∃! instruction, instruction ∈ outcome.instructions ∧ instruction.Covers place := by
  induction h with
  | done => exact absurd hlt (Nat.not_lt.mpr hle)
  | stop hfault => contradiction
  | @token position chars rest operation outcome htoken hrest ih =>
      have hwidth : Instruction.width ⟨operation, position⟩ = chars.length := htoken.width_eq
      rcases Nat.lt_or_ge place (position + chars.length) with hfirst | hlater
      · refine ⟨⟨operation, position⟩, ⟨List.mem_cons_self, hle, by rwa [hwidth]⟩, ?_⟩
        rintro instruction ⟨hmem, hcovers⟩
        rcases List.mem_cons.mp hmem with rfl | hmem
        · rfl
        · have hposition := hrest.position_le hmem
          exact absurd (Nat.le_trans hposition hcovers.1) (Nat.not_le.mpr hfirst)
      · rw [List.length_append, ← Nat.add_assoc] at hlt
        obtain ⟨instruction, ⟨hmem, hcovers⟩, hunique⟩ := ih hstop hlater hlt
        refine ⟨instruction, ⟨List.mem_cons_of_mem _ hmem, hcovers⟩, ?_⟩
        rintro other ⟨hother, hcovers'⟩
        rcases List.mem_cons.mp hother with rfl | hother
        · have hbefore : place < position + chars.length := hwidth ▸ hcovers'.2
          exact absurd hlater (Nat.not_le.mpr hbefore)
        · exact hunique other ⟨hother, hcovers'⟩

/-- Reading undoes writing: of operations on at most nine players, who are written as
digits, a reader yields just these, each one at the place up to which the ones before it
are written, and then nothing more. Writing undoes reading: what is read of a script
without a fault is the script when it is written down with capital letters for its gates.
Its instructions stand side by side, and each character is one of exactly one of them. -/
theorem written_inverse {players : Nat} (hplayers : players ≤ 9) :
    (∀ player < players, toString (player + 1) = String.singleton (digit player)) ∧
    (∀ operations : List (Operation Nat), (∀ operation ∈ operations, operation.Fits players) →
      ∀ i, (Reader.ofScript (written operations) players).item i =
        operations[i]?.map fun operation =>
          .ok ⟨operation, (written (operations.take i)).length⟩) ∧
    ∀ script, (scan script players).stop = none →
      let instructions := (scan script players).instructions
      written (instructions.map Instruction.operation) = capitalised script ∧
      extent instructions = script.length ∧
      (∀ i instruction, instructions[i]? = some instruction →
        instruction.position = extent (instructions.take i)) ∧
      ∀ place < script.length,
        ∃! instruction, instruction ∈ instructions ∧ instruction.Covers place := by
  have hdigits : ∀ player < 9, toString (player + 1) = String.singleton (digit player) := by
    decide
  refine ⟨fun player hplayer => hdigits player (Nat.lt_of_lt_of_le hplayer hplayers),
    fun operations h => item_written hplayers h, fun script hstop => ?_⟩
  have hscans := scans_scan script players
  refine ⟨?_, ?_, fun i instruction hget => ?_, fun place hlt => ?_⟩
  · rw [capitalised, (hscans.spells hstop).map_capital hplayers, String.ofList_toList]
  · rw [← String.length_toList]
    exact (hscans.length_eq hstop).symm
  · rw [hscans.position_eq hget, Nat.zero_add]
  · exact hscans.existsUnique_covers hstop (Nat.zero_le place)
      (by rwa [Nat.zero_add, String.length_toList])

theorem written_inverse_nine_players :
    let operations : List (Operation Nat) := [.single .hadamard 8, .pair .swap 0 1]
    let instructions : List Instruction := [⟨.pair .swap 8 0, 0⟩, ⟨.single .pauliX 4, 3⟩]
    (∀ i, (Reader.ofScript "H9S12" 9).item i =
      operations[i]?.map fun operation =>
        .ok ⟨operation, (written (operations.take i)).length⟩) ∧
    scan "ſ91x5" 9 = ⟨instructions, none⟩ ∧
    written (instructions.map Instruction.operation) = "S91X5" ∧
    ∀ place < 5, ∃! instruction, instruction ∈ instructions ∧ instruction.Covers place := by
  intro operations instructions
  have hwritten : written operations = "H9S12" := by decide
  have hscan : scan "ſ91x5" 9 = ⟨instructions, none⟩ := by decide
  have hcapital : capitalised "ſ91x5" = "S91X5" := by decide
  have hfit : ∀ operation ∈ operations, operation.Fits 9 := by
    simp [operations]
  obtain ⟨-, hitems, hscript⟩ := written_inverse (Nat.le_refl 9)
  have hitem := hitems operations hfit
  have hinverse := hscript "ſ91x5" (by rw [hscan])
  rw [hwritten] at hitem
  rw [hscan, hcapital] at hinverse
  exact ⟨hitem, hscan, hinverse.1, hinverse.2.2.2⟩

end Script

end GateGame
