import GateGame.Proofs.Seating.Wire
import GateGame.Score.Aggregate
import GateGame.Simulator.Readout

namespace GateGame

/-! What the outcome of a shot says about every wire, and what counted outcomes say
about every player. -/

/-- The outcome in which the wires read the bits given. -/
def outcomeOf (wires : Nat) (bit : Nat → Bool) : String :=
  String.ofList (((List.range wires).map bit).reverse.map fun bit => if bit then '1' else '0')

theorem data_toUTF8_bits (bits : List Bool) :
    (String.ofList (bits.map fun bit => if bit then '1' else '0')).toUTF8.data =
      (bits.map fun bit => if bit then 0x31 else 0x30).toArray := by
  have hencode (bit : Bool) : String.utf8EncodeChar (if bit then '1' else '0') =
      [if bit then 0x31 else 0x30] := by
    cases bit <;> rfl
  have hbytes : (bits.map fun bit => if bit then '1' else '0').flatMap String.utf8EncodeChar =
      bits.map fun bit => if bit then 0x31 else 0x30 := by
    simp only [List.flatMap_map, hencode]
    exact (List.map_eq_flatMap ..).symm
  rw [String.toUTF8, String.toByteArray_ofList, List.utf8Encode, hbytes, List.data_toByteArray]

theorem won_outcomeOf {wires wire : Nat} (h : wire < wires) (bit : Nat → Bool) :
    Score.won wires wire (outcomeOf wires bit) = bit wire := by
  have hplace : wires - 1 - (wires - 1 - wire) = wire := by omega
  rw [Score.won, outcomeOf, data_toUTF8_bits]
  have hlength : wires - 1 - wire <
      (((List.range wires).map bit).map fun bit => if bit then (0x31 : UInt8) else 0x30).length := by
    simp
    omega
  rw [List.map_reverse, List.getElem?_toArray, List.getElem?_reverse hlength]
  simp only [List.length_map, List.length_range, hplace]
  cases hbit : bit wire <;> simp [h, hbit]

theorem addSaturating_zero (count : UInt64) : addSaturating 0 count = count := by
  have hlt : (0 : UInt64).toNat + count.toNat < UInt64.size := by
    simpa using count.toNat_lt
  rw [addSaturating, if_pos hlt, UInt64.zero_add]

namespace Score

theorem get_zero (player : Nat) : zero.get player = 0 := by
  rcases Nat.lt_or_ge player scoreSlots with h | h
  · simp [get, zero, h]
  · simp [get, zero, Nat.not_lt.mpr h]

theorem get_add (score : Score) (player other : Nat) (count : UInt64) :
    (score.add player count).get other =
      if player = other ∧ other < scoreSlots then addSaturating (score.get other) count
      else score.get other := by
  rcases Nat.lt_or_ge other scoreSlots with hother | hother
  · rcases eq_or_ne player other with rfl | hne
    · simp [get, add, hother]
    · simp [get, add, hother, hne]
  · simp [get, add, Nat.not_lt.mpr hother]

def scored (players : Nat) (seating : Seating) : Nat :=
  min (min players scoreSlots) seating.size

theorem scored_eq {players : Nat} {seating : Seating} (hslots : players ≤ scoreSlots)
    (hsize : seating.size = players) : scored players seating = players := by
  rw [scored, hsize, Nat.min_eq_left hslots, Nat.min_self]

theorem scoredSeats_eq (players : Nat) (seating : Seating) :
    scoredSeats players seating =
      (List.range (scored players seating)).map fun player => (player, seating.wire player) := by
  apply List.ext_getElem
  · simp [scoredSeats, scored, Seating.size]
  · intro player hleft hright
    have hplayer : player < seating.wires.length := by
      have hscored : player < scored players seating := by simpa using hright
      exact Nat.lt_of_lt_of_le hscored (Nat.min_le_right ..)
    simp [scoredSeats, Seating.wire_eq_getElem hplayer]

theorem get_addOutcome (players : Nat) (seating : Seating) (score : Score)
    (entry : String × UInt64) (player : Nat) :
    (addOutcome players (scoredSeats players seating) score entry).get player =
      if player < scored players seating ∧ won players (seating.wire player) entry.1 = true then
        addSaturating (score.get player) entry.2
      else score.get player := by
  rw [addOutcome, scoredSeats_eq, List.foldl_map]
  have hslots : scored players seating ≤ scoreSlots :=
    Nat.le_trans (Nat.min_le_left ..) (Nat.min_le_right ..)
  generalize scored players seating = count at hslots
  induction count with
  | zero => simp
  | succ count ih =>
      have hrest := ih (by omega)
      rw [List.range_succ, List.foldl_append, List.foldl_cons, List.foldl_nil]
      rcases eq_or_ne player count with rfl | hne
      · have hslot : player < scoreSlots := by omega
        cases hwon : won players (seating.wire player) entry.1 <;>
          simp [hwon, get_add, hslot, hrest]
      · have hiff : player < count + 1 ↔ player < count := by omega
        cases hwon : won players (seating.wire count) entry.1 <;>
          simp [hwon, get_add, hne.symm, hrest, hiff]

theorem get_foldl_addOutcome (players : Nat) (seating : Seating)
    (entries : List (String × UInt64)) (score : Score) (player : Nat) :
    (entries.foldl (addOutcome players (scoredSeats players seating)) score).get player =
      entries.foldl
        (fun sum entry =>
          if player < scored players seating ∧
              won players (seating.wire player) entry.1 = true then
            addSaturating sum entry.2
          else sum) (score.get player) := by
  induction entries generalizing score with
  | nil => rfl
  | cons entry rest ih => rw [List.foldl_cons, List.foldl_cons, ih, get_addOutcome]

/-- The slot of a player adds up the counts of the outcomes in which the player has
won. -/
theorem get_ofHistogram (histogram : Histogram) (players : Nat) (seating : Seating)
    (player : Nat) :
    (ofHistogram histogram players seating).get player =
      histogram.entries.foldl
        (fun sum entry =>
          if player < scored players seating ∧
              won players (seating.wire player) entry.1 = true then
            addSaturating sum entry.2
          else sum) 0 := by
  rw [ofHistogram, get_foldl_addOutcome, get_zero]

/-- A player who has won in no outcome scores zero. -/
theorem get_ofHistogram_eq_zero {histogram : Histogram} {players : Nat} {seating : Seating}
    {player : Nat}
    (h : player < scored players seating → ∀ entry ∈ histogram.entries,
      won players (seating.wire player) entry.1 = false) :
    (ofHistogram histogram players seating).get player = 0 := by
  rw [get_ofHistogram]
  have hskip : ∀ (sum : UInt64), ∀ entry ∈ histogram.entries,
      (if player < scored players seating ∧ won players (seating.wire player) entry.1 = true then
        addSaturating sum entry.2 else sum) = sum := by
    intro sum entry hentry
    apply if_neg
    rintro ⟨hplayer, hwon⟩
    rw [h hplayer entry hentry] at hwon
    cases hwon
  rw [List.foldl_ext _ (fun sum _ => sum) _ hskip, List.foldl_fixed]

end Score

end GateGame
