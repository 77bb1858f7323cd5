import GateGame.Proofs.Game.Exact
import GateGame.Proofs.Register.Untouched

namespace GateGame

open Function (update)

/-! Players who are tied. A player whose value nothing has touched is zero in every
outcome that is possible. A controlled-NOT onto that player makes it follow another one,
and from then on both win the same shots. -/

namespace ExactReading

variable {α : Type} [Scalar α] (reading : ExactReading α) {wave : Wave α}

include reading

/-- Onto a player that is zero for certain, a controlled-NOT copies the value of its
control. -/
theorem within_controlledNot {first second : Nat}
    (h : wave.Within fun values => values second = false) :
    (Operation.act wave (.pair .controlledNot first second)).Within
      fun values => values first = values second := by
  intro values hvalues
  rw [reading.act_pair] at hvalues
  have hsum : update values second (values second ^^ values first) second = false := h _ hvalues
  rw [Function.update_self, bne_eq_false_iff_eq] at hsum
  exact hsum.symm

end ExactReading

/-- Players who win in the same outcomes have the same score. -/
theorem Score.get_ofHistogram_congr {histogram : Histogram} {seating : Seating}
    {player other : Nat} (hslots : seating.size ≤ scoreSlots) (hplayer : player < seating.size)
    (hother : other < seating.size)
    (h : ∀ entry ∈ histogram.entries, ∃ wins : Nat → Bool,
      wins player = wins other ∧ entry.1 = seating.outcome wins) :
    (ofHistogram histogram seating.size seating).get player =
      (ofHistogram histogram seating.size seating).get other := by
  rw [get_ofHistogram, get_ofHistogram, scored_eq hslots rfl]
  apply List.foldl_ext
  intro sum entry hentry
  obtain ⟨wins, hwins, houtcome⟩ := h entry hentry
  simp only [houtcome, Seating.won_outcome hplayer, Seating.won_outcome hother, hplayer, hother,
    hwins, true_and]

theorem Script.within_playerState_tied (α : Type) [Scalar α] [ExactScalar α] {script : String}
    {players first second : Nat} (hvalid : isValid script players = true)
    (hfirst : first < players) (hsecond : second < players) (hne : first ≠ second)
    (hleaves : ∀ operation ∈ playerOperations script players, operation.LeavesValue second) :
    isValid (script ++ written [.pair .controlledNot first second]) players = true ∧
      (playerState α (script ++ written [.pair .controlledNot first second]) players).Within
        fun wins => wins first = wins second := by
  obtain ⟨reading⟩ := ExactScalar.exists_reading (α := α)
  have hfits : ∀ operation ∈ [Operation.pair .controlledNot first second],
      operation.Fits players := by
    simp [hfirst, hsecond, hne]
  obtain ⟨htied, hoperations⟩ := isValid_append_written hvalid hfits
  have hzero := reading.within_actAll hleaves (Register.within_zero hsecond)
  refine ⟨htied, ?_⟩
  rw [playerState, hoperations, Operation.actAll, List.foldl_append]
  exact reading.within_controlledNot hzero

/-- A controlled-NOT onto a player whom nothing has touched ties the player to the
control. Whatever the script does to all other players, and wherever the players sit
and whatever is drawn, playing without noise succeeds, and both have the same score. -/
theorem Game.play_tied {α σ : Type} [Scalar α] [ExactScalar α] {script : String}
    {players first second : Nat} (hvalid : Script.isValid script players = true)
    (hfirst : first < players) (hsecond : second < players) (hne : first ≠ second)
    (hleaves : ∀ operation ∈ Script.playerOperations script players,
      operation.LeavesValue second) :
    let tied := script ++ Script.written [.pair .controlledNot first second]
    (∀ (game : Game α σ) (world : σ), game.config.mode = .ideal →
      ∃ score : Score,
        ((Game.play tied players).run.run game).run world =
          ((.ok score, { game with stream := (RandomSource.word.run game.stream).2 }), world) ∧
        score.get first = score.get second) ∧
    ∀ seating : Seating, seating.size = players → ∀ (seed entropy : UInt64) (shots : UInt32),
      ∃ circuit histogram, Script.circuit tied players seating = .ok circuit ∧
        (⟨some seed, none⟩ : Simulator α).run entropy circuit shots = .ok histogram ∧
        (Score.ofHistogram histogram players seating).get first =
          (Score.ofHistogram histogram players seating).get second := by
  intro tied
  obtain ⟨htied, hwithin⟩ :=
    Script.within_playerState_tied α hvalid hfirst hsecond hne hleaves
  have hnonempty : tied ≠ "" := fun hempty =>
    Script.written_cons_ne_empty _ _ (String.append_eq_empty_iff.mp hempty).2
  have hscored (seating : Seating) (histogram : Histogram) (hsize : seating.size = players)
      (hentries : ∀ entry ∈ histogram.entries, ∃ wins : Nat → Bool,
        Script.playerState α tied players wins ≠ 0 ∧ entry.1 = seating.outcome wins) :
      (Score.ofHistogram histogram players seating).get first =
        (Score.ofHistogram histogram players seating).get second := by
    subst hsize
    apply Score.get_ofHistogram_congr (Script.players_le_scoreSlots htied) hfirst hsecond
    intro entry hentry
    obtain ⟨wins, hwins, houtcome⟩ := hentries entry hentry
    exact ⟨wins, hwithin wins hwins, houtcome⟩
  obtain ⟨hplay, hseated⟩ := @play_possible α _ _ tied players
    (fun score => score.get first = score.get second) hnonempty htied hscored
  exact ⟨hplay, hseated⟩

theorem Game.play_tied_three_players :
    (∃ score : Score,
      (((Game.play "H1Z2C23C12" 3).run.run
        (Game.ofConfig { Config.standard with seed := some 7 } 0 : Game ExactReal Unit)).run
          ()).1.1 = .ok score ∧ score.get 0 = score.get 1) ∧
    ∃ circuit histogram,
      Script.circuit "H1Z2C23C12" 3 ⟨[2, 0, 1], by decide, by decide⟩ = .ok circuit ∧
      (⟨some 7, none⟩ : Simulator ExactReal).run 0 circuit 5 = .ok histogram ∧
      (Score.ofHistogram histogram 3 ⟨[2, 0, 1], by decide, by decide⟩).get 0 =
        (Score.ofHistogram histogram 3 ⟨[2, 0, 1], by decide, by decide⟩).get 1 := by
  have hscript : "H1Z2C23" ++ Script.written [.pair .controlledNot 0 1] = "H1Z2C23C12" := by
    decide
  obtain ⟨hplay, hseated⟩ := @Game.play_tied ExactReal Unit _ _ "H1Z2C23" 3 0 1 (by decide)
    (by decide) (by decide) (by decide) (by decide)
  rw [hscript] at hplay hseated
  obtain ⟨score, hscore, htied⟩ :=
    hplay (Game.ofConfig { Config.standard with seed := some 7 } 0) () rfl
  exact ⟨⟨score, by rw [hscore], htied⟩, hseated _ rfl 7 0 5⟩

end GateGame
