import GateGame.Proofs.Double.Units
import GateGame.Proofs.Game.Steps
import GateGame.Proofs.Simulator.Certain

namespace GateGame

/-! Scripts without Hadamard gates. Nothing is left to chance: whatever the seating
and the shots draw, each player's bit decides every shot. -/

theorem Score.get_ofHistogram_certain {players : Nat} {seating : Seating}
    (hplayers : players ≤ maxPlayers) (hsize : seating.size = players) (bits : Nat → Bool)
    (shots player : Nat) :
    (ofHistogram ((fun histogram => histogram.record
        (outcomeOf players (bits ∘ seating.player)) 1)^[shots] Histogram.empty)
      players seating).get player =
      if player < players ∧ bits player = true then UInt64.ofNat shots else 0 := by
  rw [get_ofHistogram, scored_eq (Nat.le_trans hplayers maxPlayers_le_scoreSlots) hsize]
  cases shots with
  | zero => simp [Histogram.empty]
  | succ shots =>
      have hwon : player < players →
          won players (seating.wire player) (outcomeOf players (bits ∘ seating.player)) =
            bits player := by
        intro hplayer
        have hwire : seating.wire player < players := hsize ▸ Seating.wire_lt (hsize ▸ hplayer)
        rw [won_outcomeOf hwire, Function.comp_apply, Seating.player_wire]
      rw [Histogram.entries_record_iterate, List.foldl_cons, List.foldl_nil]
      rcases Nat.lt_or_ge player players with hplayer | hplayer
      · rw [hwon hplayer, addSaturating_zero]
      · simp [Nat.not_lt.mpr hplayer]

namespace Simulator

variable {α : Type} [Scalar α]

theorem run_backend {σ : Type} (simulator : Simulator α) (entropy : UInt64)
    (circuit : Circuit) (shots : UInt32) (world : σ) :
    ((simulator.backend entropy).run circuit shots).run.run world =
      (simulator.run entropy circuit shots, world) := rfl

theorem run_classical [ExactUnits α] {script : String} {players : Nat} {seating : Seating}
    (hvalid : Script.isValid script players = true) (hsize : seating.size = players)
    (hclassical : ∀ operation ∈ Script.playerOperations script players,
      operation.IsClassical) (shots : UInt32) :
    ∃ circuit histogram, Script.circuit script players seating = .ok circuit ∧
      (∀ seed entropy,
        run (⟨some seed, none⟩ : Simulator α) entropy circuit shots = .ok histogram) ∧
      ∀ player, (Score.ofHistogram histogram players seating).get player =
        if player < players ∧ Operation.classicalAll (fun _ => false)
            (Script.playerOperations script players) player = true then shots.toUInt64
        else 0 := by
  subst hsize
  obtain ⟨circuit, state, hcircuit, hstate, hwave⟩ :=
    Script.evolved_of_isValid α hvalid (rfl : seating.size = seating.size)
  have hbuilt := Script.circuit_of_isValid hvalid (rfl : seating.size = seating.size)
  obtain rfl := Except.ok.inj (hcircuit.symm.trans hbuilt)
  have hfits := Script.playerOperations_fit script seating.size
  have hplayers := (Register.isAt_zero (α := α) seating.size).actAll hfits hclassical
  rw [← hwave] at hplayers
  have hrun (seed : UInt64) := runIdeal_certain (Script.seatedCircuit ..) hstate
    hplayers.of_playerWave rfl rfl shots.toNat (KeyStream.ofSeed seed)
  refine ⟨_, _, hbuilt, fun seed entropy => (run_ideal ..).trans (hrun seed), fun player => ?_⟩
  have hscore := Score.get_ofHistogram_certain (Script.isValid_iff.mp hvalid).1.2
    (rfl : seating.size = seating.size) (Operation.classicalAll (fun _ => false)
      (Script.playerOperations script seating.size)) shots.toNat player
  rw [UInt64.ofNat_uInt32ToNat] at hscore
  exact hscore

end Simulator

/-- A game without noise is scored classically when no Hadamard gate is played. The
bits of the players are zero at first and change with every instruction, and a player
whose bit ends up as one has won every shot, all others none. Playing succeeds, and
neither the seating nor anything else that is drawn has an influence on the score. -/
theorem Game.play_classical {σ : Type} (game : Game Float σ) (world : σ) (script : String)
    (players : Nat) (hmode : game.config.mode = .ideal) (hscript : script ≠ "")
    (hvalid : Script.isValid script players = true)
    (hclassical : ∀ instruction ∈ (Script.scan script players).instructions,
      instruction.operation.gate ≠ .single .hadamard) :
    ∃ score : Score,
      ((Game.play script players).run.run game).run world =
        ((.ok score, { game with stream := (RandomSource.word.run game.stream).2 }), world) ∧
      ∀ player, score.get player =
        if player < players ∧ Operation.classicalAll (fun _ => false)
            ((Script.scan script players).instructions.map (·.operation)) player = true then
          game.config.shots.toUInt64
        else 0 := by
  have hplayable : Script.isPlayable script players = true := by
    simp [Script.isPlayable, hvalid, hscript]
  have hoperations : ∀ operation ∈ Script.playerOperations script players,
      operation.IsClassical := by
    intro operation hmem
    obtain ⟨instruction, hinstruction, rfl⟩ := List.mem_map.mp hmem
    exact hclassical instruction hinstruction
  let taken := RandomSource.word.run game.stream
  let drawn := RandomSource.word.run (KeyStream.ofSeed taken.1)
  let seating := ((Seating.draw players).run drawn.2).1
  have hsize : seating.size = players := Seating.size_draw players drawn.2
  obtain ⟨circuit, histogram, hcircuit, hrun, hscore⟩ :=
    Simulator.run_classical (α := Float) hvalid hsize hoperations game.config.shots
  refine ⟨Score.ofHistogram histogram players seating, ?_, hscore⟩
  let simulator : Simulator Float := ⟨some drawn.1, none⟩
  have hexecuted : ((simulator.backend drawn.1).run circuit game.config.shots).run.run world =
      (.ok histogram, world) := by
    rw [Simulator.run_backend, hrun]
  have hplayed := result_playOn_of_ok hplayable hcircuit hexecuted
  have hplay := result_play_ideal hplayable hmode world
  rw [result_simulate] at hplay
  exact hplay.trans (congrArg (fun played => ((played.1.1, _), played.2)) hplayed)

theorem Game.play_classical_three_players :
    ∃ score : Score,
      (((Game.play "x1C12S23" 3).run.run
        (Game.ofConfig Config.standard 7 : Game Float Unit)).run ()).1.1 = .ok score ∧
      score.get 0 = 1024 ∧ score.get 1 = 0 ∧ score.get 2 = 1024 ∧ score.get 3 = 0 := by
  obtain ⟨score, hplay, hscore⟩ :=
    Game.play_classical (Game.ofConfig Config.standard 7) () "x1C12S23" 3 rfl (by decide)
      (by decide) (by decide)
  refine ⟨score, ?_, (hscore 0).trans rfl, (hscore 1).trans rfl, (hscore 2).trans rfl,
    (hscore 3).trans rfl⟩
  rw [hplay]

end GateGame
