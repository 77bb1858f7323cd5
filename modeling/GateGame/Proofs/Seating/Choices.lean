import GateGame.Proofs.Random.Below
import GateGame.Seating.Shuffle
import Mathlib.Data.Nat.Factorial.Basic

namespace GateGame.Seating

/-! The choices of a shuffle. A number is drawn below the product of the numbers of choices
that the next positions have. What one of them takes of it is therefore one of its choices,
and what it leaves is small enough for the others. So however many players there are, and
however often a new number is drawn, no wire is swapped with one that is not there. -/

variable {ρ : Type} [RandomSource ρ] {choices : Choices} {done chunk remaining : Nat}

theorem batchFrom_eq (steps first count : Nat) :
    ∃ more, batchFrom steps (first.ascFactorial count) (first + count) count =
      (first.ascFactorial (count + more), count + more) := by
  induction steps generalizing count with
  | zero => exact ⟨0, rfl⟩
  | succ steps ih =>
      rw [batchFrom, Nat.mul_comm, ← Nat.ascFactorial_succ]
      split
      · obtain ⟨more, hmore⟩ := ih (count + 1)
        refine ⟨more + 1, ?_⟩
        rw [Nat.add_assoc, hmore, Nat.add_right_comm, Nat.add_assoc]
      · exact ⟨0, rfl⟩

theorem ascFactorial_one (first : Nat) : first.ascFactorial 1 = first :=
  Nat.mul_one first

theorem batch_eq (first : Nat) :
    ∃ count, batch first = (first.ascFactorial (count + 1), count + 1) := by
  obtain ⟨more, hmore⟩ := batchFrom_eq 32 first 1
  rw [ascFactorial_one, Nat.add_comm 1] at hmore
  exact ⟨more, hmore⟩

namespace Choices

/-- What is left of the drawn number is small enough for the positions that it serves. -/
def Fits (choices : Choices) : Prop :=
  choices.remaining ≠ 0 → choices.chunk < (choices.done + 1).ascFactorial choices.remaining

theorem fits_start : start.Fits :=
  fun _ => Nat.one_pos

theorem done_take : (take done chunk remaining).2.done = done + 1 := by
  rw [take]
  split <;> rfl

theorem remaining_take : (take done chunk remaining).2.remaining = remaining := by
  rw [take]
  split
  · next hlast => exact hlast.symm
  · rfl

theorem chunk_take (hmore : remaining ≠ 0) :
    (take done chunk remaining).2.chunk = chunk / (done + 1) := by
  rw [take, if_neg hmore]

/-- The last position that a number serves takes all that is left of it. -/
theorem choice_take (h : chunk < (done + 1).ascFactorial (remaining + 1)) :
    (take done chunk remaining).1 = chunk % (done + 1) := by
  rw [take]
  split
  · next hlast =>
    subst hlast
    rw [Nat.zero_add, ascFactorial_one] at h
    exact (Nat.mod_eq_of_lt h).symm
  · rfl

theorem fits_take (h : chunk < (done + 1).ascFactorial (remaining + 1)) :
    (take done chunk remaining).2.Fits := by
  intro hmore
  rw [remaining_take] at hmore
  rw [done_take, remaining_take, chunk_take hmore]
  apply Nat.div_lt_of_lt_mul
  rwa [Nat.succ_ascFactorial, ← Nat.ascFactorial_succ]

theorem run_next_served (hmore : choices.remaining ≠ 0) (source : ρ) :
    choices.next.run source =
      (take choices.done choices.chunk (choices.remaining - 1), source) := by
  rw [next, if_neg hmore]
  rfl

/-- When no number serves any more, the next one is drawn. -/
theorem run_next_drawn {number bound count : Nat} {source rest : ρ}
    (hbatch : batch (done + 1) = (bound, count)) (hcount : count ≠ 0)
    (hdrawn : (RandomSource.below bound).run source = (number, rest)) :
    (next ⟨done, chunk, 0⟩).run source = (next ⟨done, number, count⟩).run rest := by
  simp only [next, hbatch, if_neg hcount, if_true]
  rw [StateT.run_bind, hdrawn]
  rfl

/-- Each choice is taken from a number that is small enough for it, the one that is left or
a new one. -/
theorem Fits.exists_take (h : choices.Fits) (source : ρ) :
    ∃ chunk remaining rest, chunk < (choices.done + 1).ascFactorial (remaining + 1) ∧
      choices.next.run source = (take choices.done chunk remaining, rest) := by
  obtain ⟨done, chunk, remaining⟩ := choices
  cases remaining with
  | zero =>
      obtain ⟨count, hbatch⟩ := batch_eq (done + 1)
      rcases hdrawn : (RandomSource.below ((done + 1).ascFactorial (count + 1))).run source with
        ⟨number, rest⟩
      have hlt := RandomSource.below_lt (Nat.ascFactorial_pos done (count + 1)) source
      rw [hdrawn] at hlt
      refine ⟨number, count, rest, hlt, ?_⟩
      rw [run_next_drawn hbatch (Nat.succ_ne_zero count) hdrawn]
      exact run_next_served (Nat.succ_ne_zero count) rest
  | succ remaining =>
      have hmore := Nat.succ_ne_zero remaining
      exact ⟨chunk, remaining, source, h hmore, run_next_served hmore source⟩

/-- The choice for a position is a position up to it. -/
theorem Fits.next (h : choices.Fits) (source : ρ) :
    let chosen := (choices.next.run source).1
    chosen.1 ≤ choices.done ∧ chosen.2.done = choices.done + 1 ∧ chosen.2.Fits := by
  obtain ⟨chunk, remaining, rest, hlt, hrun⟩ := h.exists_take source
  rw [hrun]
  refine ⟨?_, done_take, fits_take hlt⟩
  rw [choice_take hlt]
  exact Nat.le_of_lt_succ (Nat.mod_lt _ (Nat.succ_pos _))

end Choices

/-- The wires after a swap, if both are there. -/
def swap? (wires : Array Nat) (i j : Nat) : Option (Array Nat) :=
  if h : i < wires.size ∧ j < wires.size then some (wires.swap i j h.1 h.2) else none

theorem swap?_of_lt {wires : Array Nat} {i j : Nat} (hi : i < wires.size) (hj : j < wires.size) :
    swap? wires i j = some (wires.swapIfInBounds i j) := by
  rw [swap?, dif_pos ⟨hi, hj⟩, Array.swapIfInBounds_def, dif_pos hi, dif_pos hj]

/-- The shuffle that is given up at a swap with a wire that is not there. -/
def shuffleFrom? : Nat → Choices → Array Nat → StateM ρ (Option (Array Nat))
  | 0, _, wires => pure (some wires)
  | count + 1, choices, wires => do
      let (j, after) ← choices.next
      match swap? wires choices.done j with
      | some swapped => shuffleFrom? count after swapped
      | none => pure none

def shuffled? (players : Nat) : StateM ρ (Option (Array Nat)) :=
  shuffleFrom? players .start (Array.range players)

theorem run_shuffleFrom_succ (count : Nat) (choices : Choices) (wires : Array Nat) (source : ρ) :
    (shuffleFrom (count + 1) choices wires).run source =
      let chosen := choices.next.run source
      (shuffleFrom count chosen.1.2 (wires.swapIfInBounds choices.done chosen.1.1)).run
        chosen.2 := rfl

theorem run_shuffleFrom?_succ {count : Nat} {wires swapped : Array Nat} {source : ρ}
    (hswap : swap? wires choices.done (choices.next.run source).1.1 = some swapped) :
    (shuffleFrom? (count + 1) choices wires).run source =
      (shuffleFrom? count (choices.next.run source).1.2 swapped).run
        (choices.next.run source).2 := by
  rw [shuffleFrom?, StateT.run_bind]
  change StateT.run (match swap? wires choices.done (choices.next.run source).1.1 with
    | some swapped => shuffleFrom? count (choices.next.run source).1.2 swapped
    | none => pure none) (choices.next.run source).2 = _
  rw [hswap]

theorem run_shuffleFrom? {count : Nat} {wires : Array Nat} (h : choices.Fits)
    (hsize : choices.done + count ≤ wires.size) (source : ρ) :
    (shuffleFrom? count choices wires).run source =
      ((shuffleFrom count choices wires).run source).map some id := by
  induction count generalizing choices wires source with
  | zero => rfl
  | succ count ih =>
      obtain ⟨hle, hdone, hafter⟩ := h.next source
      have hplace : choices.done < wires.size := by omega
      have hswap := swap?_of_lt hplace (Nat.lt_of_le_of_lt hle hplace)
      rw [run_shuffleFrom?_succ hswap, run_shuffleFrom_succ]
      apply ih hafter
      rw [hdone, Array.size_swapIfInBounds]
      omega

/-- No shuffle is given up. -/
theorem run_shuffled? (players : Nat) (source : ρ) :
    (shuffled? players).run source = ((shuffled players).run source).map some id :=
  run_shuffleFrom? Choices.fits_start (by simp [Choices.start]) source

end GateGame.Seating
