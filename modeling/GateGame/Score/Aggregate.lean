import GateGame.Histogram.Basic
import GateGame.Score.Basic
import GateGame.Seating.Basic

namespace GateGame.Score

/-! From counted outcomes to a score. An outcome lists the wires from the last to
the first, so the seating is needed to tell whose bit is whose. -/

/-- Whether the player on a wire has won: the byte of its wire, counted from the
end of a register of `players` bits, is a one. -/
def won (players wire : Nat) (outcome : String) : Bool :=
  decide (wire < players) && outcome.toUTF8.data[players - 1 - wire]? == some 0x31

def addOutcome (players : Nat) (seats : List (Nat × Nat)) (score : Score)
    (entry : String × UInt64) : Score :=
  seats.foldl (fun score (player, wire) =>
    if won players wire entry.1 then score.add player entry.2 else score) score

/-- The players that are scored, with their wires: no more than take part, are
seated, or have a slot. -/
def scoredSeats (players : Nat) (seating : Seating) : List (Nat × Nat) :=
  (seating.wires.take (min players scoreSlots)).mapIdx fun player wire => (player, wire)

def ofHistogram (histogram : Histogram) (players : Nat) (seating : Seating) : Score :=
  histogram.entries.foldl (addOutcome players (scoredSeats players seating)) zero

end GateGame.Score
