import GateGame.Seating.Basic
import GateGame.Random.Source

namespace GateGame.Seating

/-! Seatings at random: the wires are shuffled from the left, each position
swapped with one of those up to and including it. The choices for several
positions are read off one drawn number, digit by digit in growing bases. -/

/-- Multiplies `product` by `factor`, `factor + 1` and so on while the product
stays below `2 ^ 32`, and counts the factors; at most `steps` are tried. -/
def batchFrom : Nat → Nat → Nat → Nat → Nat × Nat
  | 0, product, _, count => (product, count)
  | steps + 1, product, factor, count =>
      if product * factor < UInt32.size then
        batchFrom steps (product * factor) (factor + 1) (count + 1)
      else (product, count)

/-- The longest product of successive numbers from `first` on that stays below
`2 ^ 32`, and its number of factors. No such product has more than 32 factors
beyond the first. -/
def batch (first : Nat) : Nat × Nat :=
  batchFrom 32 first (first + 1) 1

/-- Where the choices stand: how many positions are done, what is left of the
drawn number, and for how many positions it still serves. -/
structure Choices where
  done : Nat
  chunk : Nat
  remaining : Nat

namespace Choices

def start : Choices := ⟨0, 0, 1⟩

/-- The choice for the next position, given the number that serves it and for
how many positions after it that number still serves. -/
def take (done chunk remaining : Nat) : Nat × Choices :=
  if remaining = 0 then (chunk, ⟨done + 1, chunk, 0⟩)
  else (chunk % (done + 1), ⟨done + 1, chunk / (done + 1), remaining⟩)

def next {ρ : Type} [RandomSource ρ] (choices : Choices) : StateM ρ (Nat × Choices) :=
  if choices.remaining = 0 then do
    let (bound, count) := batch (choices.done + 1)
    let chunk ← RandomSource.below bound
    pure (take choices.done chunk (count - 1))
  else pure (take choices.done choices.chunk (choices.remaining - 1))

end Choices

variable {ρ : Type} [RandomSource ρ]

/-- A choice is a position up to the one that it is for, so both wires of a swap are
there. -/
def shuffleFrom : Nat → Choices → Array Nat → StateM ρ (Array Nat)
  | 0, _, wires => pure wires
  | count + 1, choices, wires => do
      let (j, after) ← choices.next
      shuffleFrom count after (wires.swapIfInBounds choices.done j)

/-- The wires in a random order. Of `2 ^ 32 - 1` wires and more each position would get a
number of its own; so many players are not meant. -/
def shuffled (players : Nat) : StateM ρ (Array Nat) :=
  shuffleFrom players .start (Array.range players)

theorem swapIfInBounds_perm (wires : Array Nat) (i j : Nat) :
    (wires.swapIfInBounds i j).Perm wires := by
  rw [Array.swapIfInBounds_def]
  split
  · split
    · exact Array.swap_perm _ _
    · exact .rfl
  · exact .rfl

theorem shuffleFrom_perm (count : Nat) (choices : Choices) (wires : Array Nat) (source : ρ) :
    ((shuffleFrom count choices wires).run source).1.Perm wires := by
  induction count generalizing choices wires source with
  | zero => exact .rfl
  | succ count ih => exact (ih _ _ _).trans (swapIfInBounds_perm wires _ _)

theorem shuffled_perm (players : Nat) (source : ρ) :
    ((shuffled players).run source).1.toList.Perm (List.range players) := by
  have h : ((shuffled players).run source).1.Perm (Array.range players) :=
    shuffleFrom_perm ..
  simpa using Array.perm_iff_toList_perm.mp h

def ofPerm (players : Nat) (wires : List Nat) (h : wires.Perm (List.range players)) :
    Seating where
  wires := wires
  nodup := h.nodup_iff.mpr List.nodup_range
  bounded wire hwire := by
    rw [h.length_eq, List.length_range]
    exact List.mem_range.mp (h.mem_iff.mp hwire)

def draw (players : Nat) : StateM ρ Seating := fun source =>
  let drawn := (shuffled players).run source
  (ofPerm players drawn.1.toList (shuffled_perm players source), drawn.2)

@[simp] theorem wires_draw (players : Nat) (source : ρ) :
    ((draw players).run source).1.wires = ((shuffled players).run source).1.toList := rfl

theorem size_draw (players : Nat) (source : ρ) :
    ((draw players).run source).1.size = players := by
  have hperm := shuffled_perm players source
  rw [size, wires_draw, hperm.length_eq, List.length_range]

end GateGame.Seating
