import GateGame.Proofs.Seating.Choices
import GateGame.Proofs.Seating.Number
import GateGame.Random.Replay

namespace GateGame

/-! Seatings drawn at random. Up to twelve players are shuffled by one drawn number: the
choices are its digits, so what is drawn is the seating of that number. -/

namespace Seating

variable {number last players i j : Nat}

/-- The wires of the players in another order. -/
def arranged (players : Nat) (σ : Equiv.Perm Nat) : Array Nat :=
  (Array.range players).map σ

theorem arranged_swap (σ : Equiv.Perm Nat) (hi : i < players) (hj : j < players) :
    (arranged players σ).swapIfInBounds i j = arranged players (σ * Equiv.swap i j) := by
  apply Array.ext
  · simp [arranged]
  · intro k hleft hright
    rw [Array.getElem_swapIfInBounds]
    simp only [arranged, Array.getElem_map, Array.getElem_range, Array.size_map,
      Array.size_range, hi, hj, and_true, Equiv.Perm.mul_apply, Equiv.swap_apply_def]
    split
    · rfl
    · split <;> rfl

/-- The choices that are still to be made are digits of the number. -/
structure Choices.Read (number last : Nat) (choices : Choices) : Prop where
  places : choices.done + choices.remaining = last
  chunk : choices.remaining ≠ 0 → choices.chunk = number / choices.done.factorial

variable {choices : Choices} {ρ : Type} [RandomSource ρ]

/-- Of a number below the factorial, no more is left than the positions to come can take. -/
theorem Choices.Read.fits (h : choices.Read number last) (hlt : number < last.factorial) :
    choices.Fits := by
  intro hmore
  rw [h.chunk hmore]
  apply Nat.div_lt_of_lt_mul
  rwa [Nat.factorial_mul_ascFactorial, h.places]

theorem Choices.Read.run_next (h : choices.Read number last) (hlt : number < last.factorial)
    (hmore : choices.remaining ≠ 0) (source : ρ) :
    ∃ after : Choices, choices.next.run source = ((digit number choices.done, after), source) ∧
      after.done = choices.done + 1 ∧ after.Read number last := by
  obtain ⟨remaining, hremaining⟩ := Nat.exists_eq_succ_of_ne_zero hmore
  have hplaces := h.places
  have hchunk := h.chunk hmore
  have hfits := h.fits hlt hmore
  rw [hremaining] at hplaces hfits
  have hchoice : (take choices.done choices.chunk remaining).1 = digit number choices.done := by
    rw [choice_take hfits, hchunk, digit]
  refine ⟨(take choices.done choices.chunk remaining).2, ?_, done_take, ⟨?_, fun hleft => ?_⟩⟩
  · rw [run_next_served hmore, hremaining, Nat.succ_sub_one, ← hchoice]
  · rw [done_take, remaining_take, ← hplaces, Nat.add_assoc, Nat.one_add]
  · rw [remaining_take] at hleft
    rw [chunk_take hleft, done_take, hchunk, Nat.div_div_eq_div_mul, Nat.mul_comm,
      ← Nat.factorial_succ]

/-- As long as the number serves, nothing is drawn. -/
theorem Choices.Read.run_shuffleFrom {count : Nat} (h : choices.Read number last)
    (hlt : number < last.factorial) (hcount : count ≤ choices.remaining)
    (hplayers : choices.done + count ≤ players) (source : ρ) :
    (shuffleFrom count choices (arranged players (order number choices.done))).run source =
      (arranged players (order number (choices.done + count)), source) := by
  induction count generalizing choices with
  | zero => rfl
  | succ count ih =>
      obtain ⟨after, hrun, hdone, hafter⟩ := h.run_next hlt (by omega) source
      have hfirst : choices.done < players := by omega
      have hswapped := arranged_swap (order number choices.done) hfirst
        (Nat.lt_of_le_of_lt (digit_le number choices.done) hfirst)
      have hplaces := h.places
      have hplaces' := hafter.places
      rw [run_shuffleFrom_succ, hrun]
      change (shuffleFrom count after
        ((arranged players (order number choices.done)).swapIfInBounds choices.done
          (digit number choices.done))).run source = _
      rw [hswapped, ← order, Nat.succ_eq_add_one, ← hdone,
        ih hafter (by omega) (by omega), hdone, Nat.add_right_comm, Nat.add_assoc]

theorem batch_two : batch 2 = (Nat.factorial 12, 11) := by
  decide

theorem swapIfInBounds_first (number players : Nat) (hpos : 0 < players) :
    (Array.range players).swapIfInBounds 0 0 = arranged players (order number 1) := by
  have hidentity : Array.range players = arranged players 1 := (Array.map_id _).symm
  have hdigit : digit number 0 = 0 := Nat.le_zero.mp (digit_le number 0)
  rw [hidentity, arranged_swap _ hpos hpos, order, hdigit, order]

/-- The first position has no choice, and at the second one a number is drawn. -/
theorem run_shuffled (hbatch : batch 2 = (last.factorial, last - 1)) (htwo : 2 ≤ players)
    (hle : players ≤ last) {source rest : ρ}
    (hdrawn : (RandomSource.below last.factorial).run source = (number, rest)) :
    (shuffled players).run source = (arranged players (order number players), rest) := by
  obtain ⟨count, rfl⟩ := Nat.exists_eq_add_of_le' htwo
  have hlt : number < last.factorial := by
    have hbelow := RandomSource.below_lt (Nat.factorial_pos last) source
    rwa [hdrawn] at hbelow
  have hread : Choices.Read number last ⟨1, number, last - 1⟩ :=
    ⟨Nat.add_sub_cancel' (Nat.le_trans (Nat.succ_pos _) hle), fun _ => (Nat.div_one _).symm⟩
  have hcount : count + 1 ≤ last - 1 := Nat.le_sub_one_of_lt hle
  have hserved := hread.run_shuffleFrom hlt hcount
    (Nat.le_of_eq (Nat.add_comm 1 (count + 1))) rest
  have hstart : (Choices.start.next).run source = ((0, ⟨1, 0, 0⟩), source) := rfl
  rw [run_shuffleFrom_succ] at hserved
  rw [shuffled, run_shuffleFrom_succ, hstart]
  change (shuffleFrom (count + 1) ⟨1, 0, 0⟩
    ((Array.range (count + 2)).swapIfInBounds 0 0)).run source = _
  rw [swapIfInBounds_first number _ (Nat.succ_pos _), run_shuffleFrom_succ,
    Choices.run_next_drawn hbatch (by omega) hdrawn, hserved, Nat.add_comm 1]

theorem eq_of_wires {seating seating' : Seating} (h : seating.wires = seating'.wires) :
    seating = seating' := by
  cases seating
  cases seating'
  cases h
  rfl

theorem run_draw (hbatch : batch 2 = (last.factorial, last - 1)) (htwo : 2 ≤ players)
    (hle : players ≤ last) {source rest : ρ}
    (hdrawn : (RandomSource.below last.factorial).run source = (number, rest)) :
    (draw players).run source = (ofNumber players number, rest) := by
  have hrun := run_shuffled hbatch htwo hle hdrawn
  have hwires : ((draw players).run source).1.wires = (ofNumber players number).wires := by
    rw [wires_draw, hrun, wires_ofNumber, arranged, Array.toList_map, Array.toList_range]
  have hrest : ((draw players).run source).2 = rest := congrArg Prod.snd hrun
  exact Prod.ext (eq_of_wires hwires) hrest

/-- However many players there are and whatever the source yields, no wire is swapped with
one that is not there, and a drawn seating gives each of the players a wire of their own and
passes the check of a seating from outside. For up to twelve players one drawn number decides
it, below the greatest product of two, three and so on that fits into a word of 32 bits; and
every arrangement of the wires is decided by equally many of the numbers that can be drawn. -/
theorem draw_equally_often (players : Nat) :
    (∀ {ρ : Type} [RandomSource ρ] (source : ρ),
      let seating := ((draw players).run source).1
      ((shuffled? players).run source).1 = some seating.wires.toArray ∧
        seating.wires.Perm (List.range players) ∧ ofWires seating.wires = .ok seating) ∧
    (batch 2 = (Nat.factorial 12, 11) ∧
      Nat.factorial 12 < UInt32.size ∧ UInt32.size ≤ Nat.factorial 13) ∧
    (2 ≤ players → players ≤ 12 →
      (∀ {ρ : Type} [RandomSource ρ] (source : ρ),
        let drawn := (RandomSource.below (Nat.factorial 12)).run source
        drawn.1 < Nat.factorial 12 ∧
          (draw players).run source = (ofNumber players drawn.1, drawn.2)) ∧
      ∀ wires : List Nat, wires.Perm (List.range players) →
        ((Finset.range (Nat.factorial 12)).filter fun number =>
          (ofNumber players number).wires = wires).card =
            Nat.factorial 12 / players.factorial) := by
  refine ⟨fun source => ⟨?_, ?_, ofWires_wires _⟩, ⟨batch_two, by decide, by decide⟩,
    fun htwo hle => ⟨fun source => ⟨?_, ?_⟩, fun wires hwires => ?_⟩⟩
  · rw [run_shuffled?]
    rfl
  · exact shuffled_perm players source
  · exact RandomSource.below_lt (Nat.factorial_pos 12) source
  · exact run_draw batch_two htwo hle Prod.mk.eta.symm
  · have hsize : (ofPerm players wires hwires).size = players := by
      rw [size, ofPerm, hwires.length_eq, List.length_range]
    exact card_numbers hle ⟨ofPerm players wires hwires, hsize⟩

theorem draw_equally_often_three_players :
    (draw 3).run (Replay.ofWords [9]) = (⟨[2, 1, 0], by decide, by decide⟩, ⟨[9], 1⟩) ∧
    ofWires [2, 1, 0] = .ok ⟨[2, 1, 0], by decide, by decide⟩ ∧
    ((Finset.range (Nat.factorial 12)).filter fun number =>
      (ofNumber 3 number).wires = [2, 1, 0]).card = 79833600 := by
  obtain ⟨-, -, hthree⟩ := draw_equally_often 3
  obtain ⟨hdrawn, hoften⟩ := hthree (by decide) (by decide)
  obtain ⟨-, hrun⟩ := hdrawn (Replay.ofWords [9])
  have hnumber : (RandomSource.below (Nat.factorial 12)).run (Replay.ofWords [9]) =
      (1, ⟨[9], 1⟩) := by
    have hword : (RandomSource.halfWord : StateM Replay UInt32).run (Replay.ofWords [9]) =
        (9, ⟨[9], 1⟩) := rfl
    have hsmall : ¬ UInt32.size - Nat.factorial 12 <
        (9 : UInt32).toNat * Nat.factorial 12 % UInt32.size := by decide
    have hhigh : (9 : UInt32).toNat * Nat.factorial 12 / UInt32.size = 1 := by decide
    rw [RandomSource.run_below hword rfl, if_neg hsmall, hhigh]
  rw [hnumber] at hrun
  have hwires : (ofNumber 3 1).wires = [2, 1, 0] := by decide
  refine ⟨hrun.trans (Prod.ext (eq_of_wires hwires) rfl), rfl, ?_⟩
  rw [hoften [2, 1, 0] (by decide)]
  decide

end Seating

end GateGame
