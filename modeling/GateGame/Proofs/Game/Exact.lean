import GateGame.Proofs.Game.Runs
import GateGame.Proofs.Register.Passages
import GateGame.Proofs.Simulator.Possible

namespace GateGame

/-! Games without noise, in exact arithmetic. Playing succeeds, and of a script only the
state that it leads to has an influence on the score. -/

open Steps

variable {α : Type} [Scalar α]

namespace Script

variable {script script' : String} {players : Nat} {seating : Seating}

theorem players_le_scoreSlots (hvalid : isValid script players = true) : players ≤ scoreSlots :=
  Nat.le_trans (isValid_iff.mp hvalid).1.2 maxPlayers_le_scoreSlots

/-- Scripts that lead to the same state are the same to the simulator. -/
theorem run_ideal_congr (hvalid : isValid script players = true)
    (hvalid' : isValid script' players = true) (hsize : seating.size = players)
    (hstate : playerState α script players = playerState α script' players)
    (seed entropy : UInt64) (shots : UInt32) :
    (⟨some seed, none⟩ : Simulator α).run entropy
        (circuitOf players seating (playerOperations script players)) shots =
      (⟨some seed, none⟩ : Simulator α).run entropy
        (circuitOf players seating (playerOperations script' players)) shots := by
  obtain ⟨circuit, state, hcircuit, hevolved, hwave⟩ := evolved_of_isValid α hvalid hsize
  obtain ⟨circuit', state', hcircuit', hevolved', hwave'⟩ := evolved_of_isValid α hvalid' hsize
  rw [circuit_eq_circuitOf hvalid hsize] at hcircuit
  rw [circuit_eq_circuitOf hvalid' hsize] at hcircuit'
  cases hcircuit
  cases hcircuit'
  obtain rfl : state = state' := by
    apply Register.ext_wave
    apply seating.playerWave_injective
    rw [hwave, hwave']
    exact hstate
  have hrun {operations : List (Operation Nat)} (hevolved : Register.evolved α players
      (circuitOf players seating operations).operations = .ok state) :=
    @Simulator.runIdeal_of_evolved KeyStream α _ _ (circuitOf players seating operations) state
      hevolved shots.toNat
  rw [Simulator.run_ideal, Simulator.run_ideal, hrun hevolved, hrun hevolved']
  rfl

end Script

namespace Config

variable {config : Config α} {script script' : String} {players : Nat} {seating : Seating}

theorem simulate_ideal (hmode : config.mode = .ideal) (hvalid : Script.isValid script players = true)
    (hsize : seating.size = players) (seed : UInt64) :
    config.simulate seating seed script players =
      ((⟨some seed, none⟩ : Simulator α).run seed
        (Script.circuitOf players seating (Script.playerOperations script players))
        config.shots).map fun histogram => Score.ofHistogram histogram players seating := by
  rw [simulate, hmode, Script.circuit_eq_circuitOf hvalid hsize]
  rfl

theorem simulate_congr (hmode : config.mode = .ideal)
    (hvalid : Script.isValid script players = true)
    (hvalid' : Script.isValid script' players = true) (hsize : seating.size = players)
    (hstate : Script.playerState α script players = Script.playerState α script' players)
    (seed : UInt64) :
    config.simulate seating seed script players = config.simulate seating seed script' players := by
  rw [simulate_ideal hmode hvalid hsize, simulate_ideal hmode hvalid' hsize,
    Script.run_ideal_congr hvalid hvalid' hsize hstate]

theorem simulate_exact [ExactScalar α] (hmode : config.mode = .ideal)
    (hvalid : Script.isValid script players = true) (hsize : seating.size = players)
    (seed : UInt64) :
    ∃ histogram,
      config.simulate seating seed script players =
        .ok (Score.ofHistogram histogram players seating) ∧
      ∀ entry ∈ histogram.entries, ∃ wins : Nat → Bool,
        Script.playerState α script players wins ≠ 0 ∧ entry.1 = seating.outcome wins := by
  subst hsize
  obtain ⟨histogram, hrun, hentries⟩ :=
    Script.run_ideal_exact (α := α) hvalid seed seed config.shots
  refine ⟨histogram, ?_, hentries⟩
  rw [simulate_ideal hmode hvalid rfl, hrun]
  rfl

end Config

/-- What the possible outcomes of a script tell about a score holds of every score that it
is played for without noise: by a game, whatever it draws, and by a run of the simulator
for players whose seating is given. Both succeed. -/
theorem Game.play_possible [ExactScalar α] {script : String} {players : Nat}
    {Scored : Score → Prop} (hscript : script ≠ "") (hvalid : Script.isValid script players = true)
    (hscored : ∀ (seating : Seating) (histogram : Histogram), seating.size = players →
      (∀ entry ∈ histogram.entries, ∃ wins : Nat → Bool,
        Script.playerState α script players wins ≠ 0 ∧ entry.1 = seating.outcome wins) →
      Scored (Score.ofHistogram histogram players seating)) :
    (∀ {σ : Type} (game : Game α σ) (world : σ), game.config.mode = .ideal →
      ∃ score : Score,
        ((Game.play script players).run.run game).run world =
          ((.ok score, { game with stream := (RandomSource.word.run game.stream).2 }), world) ∧
        Scored score) ∧
    ∀ seating : Seating, seating.size = players → ∀ (seed entropy : UInt64) (shots : UInt32),
      ∃ circuit histogram, Script.circuit script players seating = .ok circuit ∧
        (⟨some seed, none⟩ : Simulator α).run entropy circuit shots = .ok histogram ∧
        Scored (Score.ofHistogram histogram players seating) := by
  constructor
  · intro σ game world hmode
    have hsize := size_seating game.config.mode players (runStream game.stream)
    obtain ⟨histogram, hsimulate, hentries⟩ :=
      Config.simulate_exact hmode hvalid hsize (simulatorSeed (runStream game.stream))
    refine ⟨_, ?_, hscored _ histogram hsize hentries⟩
    have hplay := result_play_of_isSelfContained
      (Script.isPlayable_iff.mpr ⟨hscript, hvalid⟩) (.inl hmode) world
    exact hplay.trans (by rw [hsimulate])
  · rintro seating rfl seed entropy shots
    obtain ⟨histogram, hrun, hentries⟩ :=
      Script.run_ideal_exact (α := α) hvalid seed entropy shots
    exact ⟨_, histogram, Script.circuit_eq_circuitOf hvalid rfl, hrun,
      hscored seating histogram rfl hentries⟩

/-- Passages that do the same to every state can be exchanged in a script. The script
before and after them does not matter, nor does what is drawn: a game without noise is
played with success and with the same score. -/
theorem Game.play_exchange {σ : Type} [ExactScalar α] (game : Game α σ) (world : σ)
    (before after : String) {players : Nat} {passage passage' : List (Operation Nat)}
    (hmode : game.config.mode = .ideal) (hbefore : Script.isValid before players = true)
    (hafter : Script.isValid after players = true) (hscript : before ++ after ≠ "")
    (hpassage : Interchangeable players passage passage') :
    ∃ score, ∀ played ∈ [passage, passage'],
      ((Game.play (before ++ Script.written played ++ after) players).run.run game).run world =
        ((.ok score, { game with stream := (RandomSource.word.run game.stream).2 }), world) := by
  obtain ⟨reading⟩ := ExactScalar.exists_reading (α := α)
  let run := runStream game.stream
  let seated := seating game.config.mode players run
  have hsize : seated.size = players := size_seating ..
  have hplay {played : List (Operation Nat)}
      (hvalid : Script.isValid (before ++ Script.written played ++ after) players = true) :
      result (play (before ++ Script.written played ++ after) players) game world =
        ((game.config.simulate seated (simulatorSeed run)
            (before ++ Script.written played ++ after) players,
          { game with stream := (RandomSource.word.run game.stream).2 }), world) := by
    have hnonempty : before ++ Script.written played ++ after ≠ "" := by
      intro hempty
      obtain ⟨hfirst, hlast⟩ := String.append_eq_empty_iff.mp hempty
      exact hscript (String.append_eq_empty_iff.mpr
        ⟨(String.append_eq_empty_iff.mp hfirst).1, hlast⟩)
    exact result_play_of_isSelfContained (Script.isPlayable_iff.mpr ⟨hnonempty, hvalid⟩)
      (.inl hmode) world
  obtain ⟨hvalid, hoperations⟩ := Script.isValid_insert hbefore hafter hpassage.fits.1
  obtain ⟨hvalid', hoperations'⟩ := Script.isValid_insert hbefore hafter hpassage.fits.2
  have hstate : Script.playerState α (before ++ Script.written passage ++ after) players =
      Script.playerState α (before ++ Script.written passage' ++ after) players := by
    rw [Script.playerState, Script.playerState, hoperations, hoperations']
    exact hpassage.actAll_insert reading ..
  have hsame := Config.simulate_congr hmode hvalid hvalid' hsize hstate (simulatorSeed run)
  obtain ⟨histogram, hscore, -⟩ :=
    Config.simulate_exact hmode hvalid hsize (simulatorSeed run)
  refine ⟨Score.ofHistogram histogram players seated, fun played hmem => ?_⟩
  obtain rfl | rfl : played = passage ∨ played = passage' := by simpa using hmem
  · exact (hplay hvalid).trans (by rw [hscore])
  · exact (hplay hvalid').trans (by rw [← hsame, hscore])

theorem Game.play_exchange_controlledNot :
    let game : Game ExactReal Unit :=
      ofConfig { Config.standard with seed := some 7 } 0
    ∃ score,
      (((play "H1C21H2" 3).run.run game).run ()).1.1 = .ok score ∧
      (((play "H1H1H2C12H1H2H2" 3).run.run game).run ()).1.1 = .ok score := by
  intro game
  have hscript : "H1" ++ Script.written [.pair .controlledNot 1 0] ++ "H2" = "H1C21H2" := by
    decide
  have hscript' : "H1" ++ Script.written [.single .hadamard 0, .single .hadamard 1,
      .pair .controlledNot 0 1, .single .hadamard 0, .single .hadamard 1] ++ "H2" =
        "H1H1H2C12H1H2H2" := by
    decide
  obtain ⟨score, hplay⟩ := Game.play_exchange game () "H1" "H2" rfl
    (by decide) (by decide) (by decide)
    (@Interchangeable.controlledNot_symm 3 0 1 (by decide) (by decide) (by decide))
  have hfirst := hplay _ List.mem_cons_self
  have hsecond := hplay _ (List.mem_cons_of_mem _ List.mem_cons_self)
  rw [hscript] at hfirst
  rw [hscript'] at hsecond
  exact ⟨score, by rw [hfirst], by rw [hsecond]⟩

end GateGame
