import GateGame.Proofs.Double.Order
import GateGame.Proofs.Game.Devices
import GateGame.Proofs.Noise.Averages
import GateGame.Proofs.Noise.Zero
import GateGame.Proofs.Simulator.Shots

namespace GateGame

open Steps

/-! Noisy games whose noise is not valid. Settings and devices are not checked when they
are made, and a profile that is not valid must not come to be used: neither as it is, nor
because it passes for no noise at all. -/

namespace Noise

theorem not_isProbability_iff {p : Float} :
    ¬ IsProbability p ↔ p.isNaN = true ∨ p < 0 ∨ 1 < p := by
  have hzero : (0 : Float).isNaN = false := by rfl
  have hone : (1 : Float).isNaN = false := by rfl
  rw [IsProbability, not_and_or, Double.not_le_iff, Double.not_le_iff, hzero, hone]
  simp only [Bool.false_eq_true, false_or]
  tauto

/-- Zeros are probabilities, so noise that is not valid is never taken for none. -/
theorem isIdeal_of_not_valid {noise : Noise Float} (h : ¬ noise.Valid) :
    noise.isIdeal = false := by
  rw [Bool.eq_false_iff]
  exact fun hideal => h (isIdeal_iff.mp hideal).valid

end Noise

namespace Simulator

variable {noise : Noise Float} {field : NoiseField}

theorem runWith_of_fault {ρ : Type} [RandomSource ρ] (h : noise.fault? = some field)
    (seed : Option UInt64) (circuit : Circuit) (shots : UInt32) :
    ((⟨seed, some noise⟩ : Simulator Float).runWith circuit shots : Sampling ρ Histogram) =
      ofExcept (.error
        (.invalidNoise (.notProbability field (Scalar.text (noise.get field))))) := by
  have heffective : (⟨seed, some noise⟩ : Simulator Float).effectiveNoise = some noise :=
    effectiveNoise_eq_some.mpr ⟨rfl, Noise.isIdeal_of_not_valid (Noise.not_valid_of_fault h)⟩
  rw [runWith_of_some heffective, Noise.validate_of_fault h, ofExcept_error_bind]

end Simulator

theorem Config.simulate_of_fault {config : Config Float} {noise : Noise Float}
    {field : NoiseField} (hmode : config.mode = .noisy) (hfault : noise.fault? = some field)
    {script : String} {players : Nat} {seating : Seating}
    (hvalid : Script.isValid script players = true) (hsize : seating.size = players)
    (seed : UInt64) :
    { config with noise := some noise }.simulate seating seed script players =
      .error (.invalidNoise (.notProbability field (Scalar.text (noise.get field)))) := by
  rw [simulate, Script.circuit_of_isValid hvalid hsize]
  simp only [hmode, if_true, ok_bind, Simulator.run, Simulator.runWith_of_fault hfault]
  rfl

namespace Game

variable {σ : Type} {game : Game Float σ} {world : σ} {profile : Noise Float}

/-- The profile that a noisy game is to be played with, whether it is valid or not: the
one of its settings, else the averages of what its device reports, else the typical one. -/
inductive Resolves (game : Game Float σ) (world : σ) : Noise Float → Prop
  | configured {profile : Noise Float} (hnoise : game.config.noise = some profile) :
      Resolves game world profile
  | reported {session : Session Float σ} {device : Device Float σ}
      {calibration : Calibration Float} (hnoise : game.config.noise = none)
      (hsession : game.session = some session)
      (hdevice : (session.ensure.run world).1.1 = .ok device)
      (hreport :
        (device.calibration.run.run (session.ensure.run world).2).1 = .ok calibration) :
      Resolves game world (Noise.averages calibration)
  | typical (hnoise : game.config.noise = none) (hsession : game.session = none) :
      Resolves game world .typical

/-- A configured profile is not checked on the way to the simulator, a reported one is. -/
theorem Resolves.result_noise (h : game.Resolves world profile) :
    (result noise game world).1.1 = .ok profile ∨
      (result noise game world).1.1 = profile.validate.map fun _ => profile := by
  cases h with
  | configured hnoise => rw [result_noise_of_some hnoise]; exact .inl rfl
  | reported hnoise hsession hdevice hreport =>
      rw [result_noise_of_session hnoise hsession]
      simp only [hdevice, hreport, ok_bind]
      exact .inr (Noise.ofCalibration_eq _)
  | typical hnoise hsession => rw [result_noise_of_none hnoise hsession]; exact .inl rfl

theorem resolves_of_result_noise (h : (result noise game world).1.1 = .ok profile) :
    game.Resolves world profile := by
  cases hnoise : game.config.noise with
  | some configured =>
      rw [result_noise_of_some hnoise] at h
      obtain rfl := Except.ok.inj h
      exact .configured hnoise
  | none =>
      cases hsession : game.session with
      | none =>
          rw [result_noise_of_none hnoise hsession] at h
          obtain rfl := Except.ok.inj h
          exact .typical hnoise hsession
      | some session =>
          rw [result_noise_of_session hnoise hsession] at h
          cases hdevice : (session.ensure.run world).1.1 with
          | error error => simp [hdevice] at h
          | ok device =>
              simp only [hdevice] at h
              cases hreport : (device.calibration.run.run (session.ensure.run world).2).1 with
              | error error => simp [hreport] at h
              | ok calibration =>
                  rw [hreport, ok_bind, Noise.ofCalibration_eq] at h
                  obtain rfl : Noise.averages calibration = profile := by
                    cases hcheck : (Noise.averages calibration).validate with
                    | error error => simp [hcheck, Except.map] at h
                    | ok => simpa [hcheck, Except.map] using h
                  exact .reported hnoise hsession hdevice hreport

/-- The score of a noisy game is that of the simulation with the noise that is found. -/
theorem score_play_noisy {script : String} {players : Nat}
    (hplayable : Script.isPlayable script players = true) (hnoisy : game.config.mode = .noisy)
    (world : σ) :
    (result (play script players) game world).1.1 =
      (result noise game world).1.1 >>= fun profile =>
        { game.config with noise := some profile }.simulate
          (seating .noisy players (runStream game.stream))
          (simulatorSeed (runStream game.stream)) script players := by
  let after : Game Float σ := { game with stream := (RandomSource.word.run game.stream).2 }
  have hafter : after.config.mode = .noisy := hnoisy
  rw [result_play hplayable, result_playSeated_noisy hafter, streamless_noise, hnoisy]

/-- A playable script is refused when the profile of its noise is not valid, whatever the
script and however many shots. The error names the first field that is not a probability,
and so no score comes of noise that is not valid: it does not pass for no noise either. Of
doubles, those that are not a number are no probabilities. In exact arithmetic a device
whose figures are probabilities always has its profile accepted, and each field of it is
spanned by the figures it is the mean of. -/
theorem play_invalid_noise {script : String} {players : Nat}
    (hplayable : Script.isPlayable script players = true) (hnoisy : game.config.mode = .noisy)
    (world : σ) :
    let score := (result (play script players) game world).1.1
    (∀ profile, game.Resolves world profile → ¬ profile.Valid →
      ∃ field, profile.fault? = some field ∧ score = .error
        (.invalidNoise (.notProbability field (Scalar.text (profile.get field))))) ∧
    (∀ total, score = .ok total → ∃ profile, game.Resolves world profile ∧ profile.Valid) ∧
    (∀ profile : Noise Float, ¬ profile.Valid → profile.isIdeal = false) ∧
    (∀ p : Float, ¬ Noise.IsProbability p ↔ p.isNaN = true ∨ p < 0 ∨ 1 < p) ∧
    ∀ {α : Type} [Scalar α] [ExactScalar α] (calibration : Calibration α),
      (∀ field, ∀ figure ∈ calibration.get field, Noise.IsProbability figure) →
        Noise.ofCalibration calibration = .ok (Noise.averages calibration) ∧
        ∀ field, Noise.Spanned (calibration.get field)
          ((Noise.averages calibration).get field) := by
  intro score
  have hvalid := (Script.isPlayable_iff.mp hplayable).2
  have hsize := size_seating .noisy players (runStream game.stream)
  have hscore : score = _ := score_play_noisy hplayable hnoisy world
  have hrefused : ∀ profile, game.Resolves world profile → ¬ profile.Valid →
      ∃ field, profile.fault? = some field ∧ score = .error
        (.invalidNoise (.notProbability field (Scalar.text (profile.get field)))) := by
    intro profile hresolves hinvalid
    obtain ⟨field, hfault⟩ := Noise.exists_fault_of_not_valid hinvalid
    refine ⟨field, hfault, ?_⟩
    rcases hresolves.result_noise with hfound | hfound
    · rw [hscore, hfound, ok_bind, Config.simulate_of_fault hnoisy hfault hvalid hsize]
    · rw [hscore, hfound, Noise.validate_of_fault hfault]
      rfl
  refine ⟨hrefused, fun total htotal => ?_, fun _ => Noise.isIdeal_of_not_valid,
    fun _ => Noise.not_isProbability_iff, fun _ => Noise.ofCalibration_of_probabilities⟩
  cases hfound : (result noise game world).1.1 with
  | error error =>
      rw [hscore, hfound] at htotal
      cases htotal
  | ok profile =>
      have hresolves := resolves_of_result_noise hfound
      refine ⟨profile, hresolves, by_contra fun hinvalid => ?_⟩
      obtain ⟨field, -, herror⟩ := hrefused profile hresolves hinvalid
      rw [herror] at htotal
      cases htotal

theorem play_invalid_noise_configured_or_reported :
    let device : Device Float Unit :=
      ⟨⟨"faulty", fun _ _ => pure Histogram.empty⟩, pure ⟨[0], [2, 0.5], [-1]⟩⟩
    let session : Session Float Unit :=
      { provider := ⟨fun _ _ => pure device⟩
        loadCredentials := ExceptT.mk (pure (Credentials.ofToken "secret"))
        target := .standard
        device := none }
    let noisy : Config Float := { Config.standard with mode := .noisy, shots := 0 }
    let configured : Game Float Unit := ofConfig { noisy with noise := some ⟨0, 0 / 0, 2⟩ } 7
    let reported : Game Float Unit := (ofConfig noisy 7).withSession session
    (result (play "H1C12" 2) configured ()).1.1 =
        .error (.invalidNoise (.notProbability .pair "NaN")) ∧
      (result (play "H1C12" 2) reported ()).1.1 =
        .error (.invalidNoise (.notProbability .pair "1.25")) ∧
      Noise.ofCalibration (⟨[0, 1], [], [1]⟩ : Calibration ExactReal) =
        .ok (Noise.averages ⟨[0, 1], [], [1]⟩) := by
  intro device session noisy configured reported
  obtain ⟨hconfigured, -, -, -, hexact⟩ :=
    @play_invalid_noise Unit configured "H1C12" 2 (by decide) rfl ()
  obtain ⟨hreported, -⟩ := @play_invalid_noise Unit reported "H1C12" 2 (by decide) rfl ()
  refine ⟨?_, ?_, (hexact _ ?_).1⟩
  · have hfault : (⟨0, 0 / 0, 2⟩ : Noise Float).fault? = some .pair := by decide +kernel
    have htext : Scalar.text (0 / 0 : Float) = "NaN" := by decide +kernel
    obtain ⟨field, hfield, herror⟩ :=
      hconfigured _ (.configured rfl) (Noise.not_valid_of_fault hfault)
    obtain rfl := Option.some.inj (hfault.symm.trans hfield)
    rw [herror, Noise.get, htext]
  · have hfault : (Noise.averages ⟨[(0 : Float)], [2, 0.5], [-1]⟩).fault? = some .pair := by
      decide +kernel
    have htext : Scalar.text (Scalar.mean [(2 : Float), 0.5]) = "1.25" := by decide +kernel
    obtain ⟨field, hfield, herror⟩ :=
      hreported _ (.reported rfl rfl rfl rfl) (Noise.not_valid_of_fault hfault)
    obtain rfl := Option.some.inj (hfault.symm.trans hfield)
    rw [herror, Noise.get, Noise.averages, htext]
  · have hzero : Noise.IsProbability (0 : ExactReal) := by
      rw [ExactReal.reading.isProbability_iff, ExactReal.reading.value_zero]
      exact ⟨le_refl 0, zero_le_one⟩
    have hone : Noise.IsProbability (1 : ExactReal) := by
      rw [ExactReal.reading.isProbability_iff, ExactReal.reading.value_one]
      exact ⟨zero_le_one, le_refl 1⟩
    intro field figure hfigure
    cases field with
    | single =>
        rcases List.mem_pair.mp hfigure with rfl | rfl
        · exact hzero
        · exact hone
    | pair => cases hfigure
    | readout => exact List.mem_singleton.mp hfigure ▸ hone

end Game

end GateGame
