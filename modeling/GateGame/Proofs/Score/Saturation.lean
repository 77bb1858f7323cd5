import GateGame.Proofs.Score.Seated

namespace GateGame.Score

/-! Scores of any counted outcomes, whatever stands in their strings and however great
their counts are, for any number of players and a seating of any size. Adding up in slots
that cannot overflow comes to the same in every order: the exact sum, cut off once. -/

variable {histogram : Histogram} {players : Nat} {seating : Seating}

theorem won_of_lt {wire : Nat} (h : wire < players) (outcome : String) :
    won players wire outcome =
      decide (outcome.toUTF8.data[players - 1 - wire]? = some '1'.toUInt8) := by
  rw [won, decide_eq_true h, Bool.true_and, beq_eq_decide]
  rfl

theorem won_of_le {wire : Nat} (h : players ≤ wire) (outcome : String) :
    won players wire outcome = false := by
  rw [won, decide_eq_false (Nat.not_lt.mpr h), Bool.false_and]

theorem mem_scoredSeats {seat : Nat × Nat} (h : seat ∈ scoredSeats players seating) :
    seat.1 < scoreSlots ∧ seat.2 < seating.size := by
  rw [scoredSeats_eq] at h
  obtain ⟨player, hplayer, rfl⟩ := List.mem_map.mp h
  have hscored := List.mem_range.mp hplayer
  rw [scored] at hscored
  exact ⟨by omega, Seating.wire_lt (by omega)⟩

theorem get_ofHistogram_of_le {player : Nat} (h : scored players seating ≤ player) :
    (ofHistogram histogram players seating).get player = 0 :=
  get_ofHistogram_eq_zero fun hlt => absurd hlt (Nat.not_lt.mpr h)

theorem foldl_addOutcome_perm {entries : List (String × UInt64)}
    (h : entries.Perm histogram.entries) :
    entries.foldl (addOutcome players (scoredSeats players seating)) zero =
      ofHistogram histogram players seating := by
  apply ext_get
  intro player
  apply UInt64.toNat.inj
  rw [toNat_get_foldl_addOutcome, toNat_get_ofHistogram, Histogram.tally_perm _ h]

/-- What scoring makes of counted outcomes of any kind. As many players are scored as take
part, are seated and have a slot; every slot that is added to exists, and so does the wire
that is looked at. Such a player has the sum of the counts of the outcomes whose byte at
the place of the player's wire, from the end of a register of all players, is a one, or the
greatest word if that is less. Outcomes that are too short do not count, and neither does
anything for a player on a wire outside that register. Nobody else scores. The order in
which the outcomes are scored makes no difference. -/
theorem ofHistogram_saturates (histogram : Histogram) (players : Nat) (seating : Seating) :
    let paid := min (min players seating.size) scoreSlots
    let score := ofHistogram histogram players seating
    (∀ seat ∈ scoredSeats players seating, seat.1 < scoreSlots ∧ seat.2 < seating.size) ∧
    (∀ player < paid, ∃ wire, seating.wire? player = some wire ∧
      (wire < players → (score.get player).toNat =
        min (UInt64.size - 1)
          ((histogram.entries.filter fun entry =>
            entry.1.toUTF8.data[players - 1 - wire]? = some '1'.toUInt8).map
              (·.2.toNat)).sum) ∧
      (players ≤ wire → score.get player = 0)) ∧
    (∀ player, paid ≤ player → score.get player = 0) ∧
    ∀ entries : List (String × UInt64), entries.Perm histogram.entries →
      entries.foldl (addOutcome players (scoredSeats players seating)) zero = score := by
  intro paid score
  have hpaid : paid = scored players seating := by
    simp only [paid, scored]
    omega
  refine ⟨fun seat => mem_scoredSeats, fun player hplayer => ?_, ?_, ?_⟩
  · rw [hpaid] at hplayer
    have hseated : player < seating.size := Nat.lt_of_lt_of_le hplayer (Nat.min_le_right ..)
    refine ⟨seating.wire player, Seating.wire?_of_lt hseated, fun hwire => ?_, fun hwire => ?_⟩
    · rw [toNat_get_ofHistogram, Histogram.tally_eq_sum]
      simp only [hplayer, decide_true, Bool.true_and, won_of_lt hwire]
    · exact get_ofHistogram_eq_zero fun _ entry _ => won_of_le hwire entry.1
  · intro player hplayer
    exact get_ofHistogram_of_le (hpaid ▸ hplayer)
  · intro entries hentries
    exact foldl_addOutcome_perm hentries

/-- Two of three seats take part. The first is on a wire beyond the register; of the
outcomes for the second, one has a foreign character, one is too short, one has the tail of
a long character in its place, and the counts of the two that are left overflow. -/
theorem ofHistogram_saturates_malformed :
    let seating : Seating := ⟨[2, 0, 1], by decide, by decide⟩
    let histogram := Histogram.ofList [("x1", 18446744073709551615), ("1", 7), ("é1", 9), ("01", 5)]
    let score := ofHistogram histogram 2 seating
    score.get 0 = 0 ∧ (score.get 1).toNat = 18446744073709551615 ∧ score.get 2 = 0 ∧
      histogram.entries.reverse.foldl (addOutcome 2 (scoredSeats 2 seating)) zero = score := by
  intro seating histogram score
  obtain ⟨-, hpaid, hrest, hperm⟩ := ofHistogram_saturates histogram 2 seating
  obtain ⟨wire, hwire, -, houtside⟩ := hpaid 0 (by decide)
  obtain ⟨wire', hwire', hinside, -⟩ := hpaid 1 (by decide)
  obtain rfl : 2 = wire := Option.some.inj hwire
  obtain rfl : 0 = wire' := Option.some.inj hwire'
  refine ⟨houtside (by decide), ?_, hrest 2 (by decide), ?_⟩
  · rw [hinside (by decide)]
    decide +kernel
  · exact hperm _ (List.reverse_perm _)

end GateGame.Score
