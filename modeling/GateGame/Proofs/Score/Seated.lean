import GateGame.Proofs.Histogram.Tally
import GateGame.Proofs.Score.Outcome

namespace GateGame

/-! Scores read back through a seating. Rounds that are shown on the wires of the
players, counted and merged in a histogram, come back as the score of each player,
and the seating has left no trace. -/

theorem toNat_addSaturating (a b : UInt64) :
    (addSaturating a b).toNat = min (UInt64.size - 1) (a.toNat + b.toNat) := by
  have ha := a.toNat_lt
  have hsize : UInt64.size = 18446744073709551616 := rfl
  rw [addSaturating]
  split
  · next hfits =>
    have hsum : (a + b).toNat = a.toNat + b.toNat := by
      rw [UInt64.toNat_add]
      exact Nat.mod_eq_of_lt hfits
    omega
  · have hmax : (UInt64.ofNat (UInt64.size - 1)).toNat = UInt64.size - 1 := rfl
    omega

namespace Score

theorem ext_get {score score' : Score} (h : ∀ player, score.get player = score'.get player) :
    score = score' := by
  obtain ⟨slots⟩ := score
  obtain ⟨slots'⟩ := score'
  congr
  apply Vector.ext
  intro player hplayer
  simpa [get, hplayer] using h player

theorem toNat_foldl_addSaturating (outcomes : String → Bool) (entries : List (String × UInt64))
    (sum : UInt64) :
    (entries.foldl
        (fun sum entry => if outcomes entry.1 = true then addSaturating sum entry.2 else sum)
        sum).toNat =
      min (UInt64.size - 1) (sum.toNat + Histogram.tally outcomes entries) := by
  induction entries generalizing sum with
  | nil =>
      have hsum := sum.toNat_lt
      exact (Nat.min_eq_right (Nat.le_sub_one_of_lt hsum)).symm
  | cons entry rest ih =>
      rw [List.foldl_cons, ih, Histogram.tally]
      split
      · rw [toNat_addSaturating]
        omega
      · rw [Nat.zero_add]

/-- In whatever order outcomes are scored, a slot holds the sum of the counts of those in
which the player has won, or the greatest word if that sum does not fit. -/
theorem toNat_get_foldl_addOutcome (players : Nat) (seating : Seating)
    (entries : List (String × UInt64)) (player : Nat) :
    ((entries.foldl (addOutcome players (scoredSeats players seating)) zero).get player).toNat =
      min (UInt64.size - 1)
        (Histogram.tally
          (fun outcome => decide (player < scored players seating) &&
            won players (seating.wire player) outcome) entries) := by
  have hfold := toNat_foldl_addSaturating
    (fun outcome => decide (player < scored players seating) &&
      won players (seating.wire player) outcome) entries 0
  simp only [Bool.and_eq_true, decide_eq_true_eq, UInt64.toNat_zero, Nat.zero_add] at hfold
  rw [get_foldl_addOutcome, get_zero, hfold]

theorem toNat_get_ofHistogram (histogram : Histogram) (players : Nat) (seating : Seating)
    (player : Nat) :
    ((ofHistogram histogram players seating).get player).toNat =
      min (UInt64.size - 1)
        (Histogram.tally
          (fun outcome => decide (player < scored players seating) &&
            won players (seating.wire player) outcome) histogram.entries) :=
  toNat_get_foldl_addOutcome players seating histogram.entries player

end Score

/-- The outcome of a round in which every player's win shows on the player's wire. -/
def Seating.outcome (seating : Seating) (wins : Nat → Bool) : String :=
  outcomeOf seating.size (wins ∘ seating.player)

/-- The counted outcomes of rounds, given who has won and how often. -/
def Seating.histogram (seating : Seating) (rounds : List ((Nat → Bool) × UInt64)) : Histogram :=
  Histogram.ofList (rounds.map fun round => (seating.outcome round.1, round.2))

namespace Seating

variable {seating : Seating} {player : Nat}

theorem length_outcome (seating : Seating) (wins : Nat → Bool) :
    (seating.outcome wins).length = seating.size := by
  simp [outcome, outcomeOf]

theorem getElem?_outcome (hplayer : player < seating.size) (wins : Nat → Bool) :
    (seating.outcome wins).toList[seating.size - 1 - seating.wire player]? =
      some (if wins player then '1' else '0') := by
  have hwire := wire_lt hplayer
  have hlength : seating.size - 1 - seating.wire player <
      ((List.range seating.size).map (wins ∘ seating.player)).length := by
    simp
    omega
  have hplace : seating.size - 1 - (seating.size - 1 - seating.wire player) =
      seating.wire player := by
    omega
  rw [outcome, outcomeOf, String.toList_ofList, List.getElem?_map,
    List.getElem?_reverse hlength]
  simp [hplace, hwire]

theorem won_outcome (hplayer : player < seating.size) (wins : Nat → Bool) :
    Score.won seating.size (seating.wire player) (seating.outcome wins) = wins player := by
  rw [outcome, won_outcomeOf (wire_lt hplayer), Function.comp_apply, player_wire]

theorem tally_outcome (hplayer : player < seating.size)
    (rounds : List ((Nat → Bool) × UInt64)) :
    Histogram.tally (Score.won seating.size (seating.wire player))
        (rounds.map fun round => (seating.outcome round.1, round.2)) =
      ((rounds.filter (·.1 player)).map (·.2.toNat)).sum := by
  induction rounds with
  | nil => rfl
  | cons round rest ih =>
      rw [List.map_cons, Histogram.tally, ih, won_outcome hplayer, List.filter_cons]
      split <;> simp

theorem toNat_get_ofHistogram_histogram {rounds : List ((Nat → Bool) × UInt64)}
    (hseats : seating.size ≤ scoreSlots) (htotal : (rounds.map (·.2.toNat)).sum < UInt64.size)
    (player : Nat) :
    ((Score.ofHistogram (seating.histogram rounds) seating.size seating).get player).toNat =
      if player < seating.size then ((rounds.filter (·.1 player)).map (·.2.toNat)).sum else 0 := by
  let listed := rounds.map fun round => (seating.outcome round.1, round.2)
  have hlisted : (listed.map (·.2.toNat)).sum < UInt64.size := by
    simpa [listed, Function.comp_def] using htotal
  rw [Score.toNat_get_ofHistogram, Score.scored_eq hseats rfl, histogram, Histogram.tally_ofList _ hlisted]
  split
  · next hplayer =>
    have hall := Histogram.tally_le_all (Score.won seating.size (seating.wire player)) listed
    rw [Histogram.tally_all] at hall
    simp only [hplayer, decide_true, Bool.true_and]
    rw [Nat.min_eq_right (Nat.le_sub_one_of_lt (Nat.lt_of_le_of_lt hall hlisted)),
      tally_outcome hplayer]
  · next hplayer =>
    simp only [hplayer, decide_false, Bool.false_and, Histogram.tally_none, Nat.min_zero]

end Seating

/-- Scoring undoes the seating. Every outcome shows the win of each player at the
place of the player's wire, counted from the end. From the counted outcomes of any
rounds, with any repetitions, each player gets the number of rounds that the player
has won, and nobody else gets anything; so every other seating gives the same
score. -/
theorem Score.ofHistogram_seated {players : Nat} {seating : Seating}
    {rounds : List ((Nat → Bool) × UInt64)} (hplayers : players ≤ maxPlayers)
    (hsize : seating.size = players) (htotal : (rounds.map (·.2.toNat)).sum < UInt64.size) :
    (∀ wins, (seating.outcome wins).length = players ∧
      ∀ player wire, seating.wire? player = some wire →
        (seating.outcome wins).toList[players - 1 - wire]? =
          some (if wins player then '1' else '0')) ∧
    (∀ player < players,
      ((ofHistogram (seating.histogram rounds) players seating).get player).toNat =
        ((rounds.filter (·.1 player)).map (·.2.toNat)).sum) ∧
    (∀ player, players ≤ player →
      (ofHistogram (seating.histogram rounds) players seating).get player = 0) ∧
    ∀ seating' : Seating, seating'.size = players →
      ofHistogram (seating'.histogram rounds) players seating' =
        ofHistogram (seating.histogram rounds) players seating := by
  subst hsize
  have hseats := Nat.le_trans hplayers maxPlayers_le_scoreSlots
  have hscore := Seating.toNat_get_ofHistogram_histogram hseats htotal
  refine ⟨fun wins => ⟨seating.length_outcome wins, ?_⟩, ?_, ?_, ?_⟩
  · intro player wire hwire
    have hplayer : player < seating.size := (List.getElem?_eq_some_iff.mp hwire).1
    obtain rfl : seating.wire player = wire :=
      Option.some.inj ((Seating.wire?_of_lt hplayer).symm.trans hwire)
    exact Seating.getElem?_outcome hplayer wins
  · intro player hplayer
    rw [hscore, if_pos hplayer]
  · intro player hplayer
    apply UInt64.toNat.inj
    rw [hscore, if_neg (Nat.not_lt.mpr hplayer), UInt64.toNat_zero]
  · intro seating' hsize'
    apply ext_get
    intro player
    apply UInt64.toNat.inj
    have hscore' := Seating.toNat_get_ofHistogram_histogram (hsize' ▸ hseats) htotal player
    rw [hsize'] at hscore'
    rw [hscore, hscore']

theorem Score.ofHistogram_seated_merged :
    let seating : Seating := ⟨[2, 0, 1], by decide, by decide⟩
    let rounds : List ((Nat → Bool) × UInt64) :=
      [((· = 0), 4), ((· ≠ 0), 2), ((· = 0), 3)]
    (seating.histogram rounds).entries = [("011", 2), ("100", 7)] ∧
      ((ofHistogram (seating.histogram rounds) 3 seating).get 0).toNat = 7 ∧
      (ofHistogram (seating.histogram rounds) 3 seating).get 3 = 0 := by
  intro seating rounds
  obtain ⟨-, hscore, hrest, -⟩ :=
    @ofHistogram_seated 3 seating rounds (by decide) rfl (by decide)
  exact ⟨by decide, (hscore 0 (by decide)).trans rfl, hrest 3 (by decide)⟩

end GateGame
