import GateGame.Proofs.Game.Exact
import GateGame.Proofs.Register.Untouched

namespace GateGame

/-! Players who never score. Whatever the others do, a player whose value nothing has
touched wins no shot, and neither does a slot without a player. -/

/-- Nothing in the script touches the value of the player. There need not be such a
player. -/
def Script.Untouched (script : String) (players player : Nat) : Prop :=
  players ≤ player ∨
    ∀ operation ∈ playerOperations script players, operation.LeavesValue player

instance (script : String) (players player : Nat) :
    Decidable (Script.Untouched script players player) :=
  inferInstanceAs (Decidable (_ ∨ _))

variable {α : Type} [Scalar α] [ExactScalar α] {script : String}

theorem Script.within_playerState_untouched (α : Type) [Scalar α] [ExactScalar α]
    {players player : Nat} (hplayer : player < players)
    (huntouched : Untouched script players player) :
    (playerState α script players).Within fun wins => wins player = false := by
  obtain ⟨reading⟩ := ExactScalar.exists_reading (α := α)
  have hleaves := huntouched.resolve_left (Nat.not_le.mpr hplayer)
  exact reading.within_actAll hleaves (Register.within_zero hplayer)

theorem Score.get_ofHistogram_untouched {seating : Seating} {histogram : Histogram}
    (hslots : seating.size ≤ scoreSlots)
    (hentries : ∀ entry ∈ histogram.entries, ∃ wins : Nat → Bool,
      Script.playerState α script seating.size wins ≠ 0 ∧ entry.1 = seating.outcome wins)
    {player : Nat} (huntouched : Script.Untouched script seating.size player) :
    (ofHistogram histogram seating.size seating).get player = 0 := by
  apply get_ofHistogram_eq_zero
  rw [scored_eq hslots rfl]
  intro hplayer entry hentry
  obtain ⟨wins, hwins, houtcome⟩ := hentries entry hentry
  rw [houtcome, Seating.won_outcome hplayer]
  exact Script.within_playerState_untouched α hplayer huntouched wins hwins

/-- A player whose value nothing touches never scores: one who is named at most by I and
Z gates and as the control of a controlled-NOT. Whatever the script does to all other
players, and wherever the players sit and whatever is drawn, playing without noise
succeeds and leaves the slot of that player at zero, and so every slot without a
player. -/
theorem Game.play_untouched {players : Nat} (hscript : script ≠ "")
    (hvalid : Script.isValid script players = true) :
    (∀ {σ : Type} (game : Game α σ) (world : σ), game.config.mode = .ideal →
      ∃ score : Score,
        ((Game.play script players).run.run game).run world =
          ((.ok score, { game with stream := (RandomSource.word.run game.stream).2 }), world) ∧
        ∀ player, Script.Untouched script players player → score.get player = 0) ∧
    ∀ seating : Seating, seating.size = players → ∀ (seed entropy : UInt64) (shots : UInt32),
      ∃ circuit histogram, Script.circuit script players seating = .ok circuit ∧
        (⟨some seed, none⟩ : Simulator α).run entropy circuit shots = .ok histogram ∧
        ∀ player, Script.Untouched script players player →
          (Score.ofHistogram histogram players seating).get player = 0 := by
  apply Game.play_possible hscript hvalid
  rintro seating histogram rfl hentries player huntouched
  exact Score.get_ofHistogram_untouched (Script.players_le_scoreSlots hvalid) hentries huntouched

theorem Game.play_untouched_control :
    (∃ score : Score,
      (((Game.play "H1C12Z3C32" 3).run.run
        (Game.ofConfig { Config.standard with seed := some 7 } 0 : Game ExactReal Unit)).run
          ()).1.1 = .ok score ∧ score.get 2 = 0 ∧ score.get 3 = 0) ∧
    ∃ circuit histogram,
      Script.circuit "H1C12Z3C32" 3 ⟨[2, 0, 1], by decide, by decide⟩ = .ok circuit ∧
      (⟨some 7, none⟩ : Simulator ExactReal).run 0 circuit 5 = .ok histogram ∧
      (Score.ofHistogram histogram 3 ⟨[2, 0, 1], by decide, by decide⟩).get 2 = 0 := by
  obtain ⟨hplay, hseated⟩ :=
    @Game.play_untouched ExactReal _ _ "H1C12Z3C32" 3 (by decide) (by decide)
  have hthird : Script.Untouched "H1C12Z3C32" 3 2 := by decide
  obtain ⟨score, hscore, hzero⟩ :=
    hplay (Game.ofConfig { Config.standard with seed := some 7 } 0) () rfl
  obtain ⟨circuit, histogram, hcircuit, hrun, hseat⟩ :=
    hseated ⟨[2, 0, 1], by decide, by decide⟩ rfl 7 0 5
  exact ⟨⟨score, by rw [hscore], hzero 2 hthird, hzero 3 (by decide)⟩,
    circuit, histogram, hcircuit, hrun, hseat 2 hthird⟩

end GateGame
