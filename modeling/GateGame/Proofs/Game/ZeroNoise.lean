import GateGame.Proofs.Game.Clones
import GateGame.Proofs.Game.Devices
import GateGame.Proofs.Noise.Zero

namespace GateGame

open Steps

/-! Noisy games whose noise is zero. They are played as games without noise are: the same
words are drawn, and the same scores come of them. -/

section Simulate

variable {α : Type} [Scalar α] {noise : Noise α}

theorem Simulator.effectiveNoise_of_isIdeal (h : noise.isIdeal = true) (seed : Option UInt64) :
    (⟨seed, some noise⟩ : Simulator α).effectiveNoise = none := by
  simp [effectiveNoise, h]

theorem Simulator.runWith_of_isIdeal {ρ : Type} [RandomSource ρ] (h : noise.isIdeal = true)
    (seed : Option UInt64) (circuit : Circuit) (shots : UInt32) :
    ((⟨seed, some noise⟩ : Simulator α).runWith circuit shots : Sampling ρ Histogram) =
      (⟨seed, none⟩ : Simulator α).runWith circuit shots := by
  rw [runWith, effectiveNoise_of_isIdeal h]
  rfl

theorem Config.simulate_of_isIdeal (hzero : noise.isIdeal = true) {noisy ideal : Config α}
    (hnoisy : noisy.mode = .noisy) (hideal : ideal.mode = .ideal)
    (hshots : ideal.shots = noisy.shots) (seating : Seating) (seed : UInt64) (script : String)
    (players : Nat) :
    { noisy with noise := some noise }.simulate seating seed script players =
      ideal.simulate seating seed script players := by
  rw [simulate, simulate]
  simp only [hnoisy, hideal, hshots, if_true, Simulator.run, Simulator.runWith_of_isIdeal hzero]
  rfl

end Simulate

namespace Game

variable {σ : Type} {game : Game Float σ} {world : σ}

/-- How the noise of a noisy game can turn out to be zero: it has been configured so, or
the device of the session reports figures that cancel. -/
inductive FindsZero (game : Game Float σ) (world : σ) : Prop
  | configured {profile : Noise Float} (hnoise : game.config.noise = some profile)
      (hzero : profile.IsZero)
  | reported {session : Session Float σ} {device : Device Float σ}
      {calibration : Calibration Float} (hnoise : game.config.noise = none)
      (hsession : game.session = some session)
      (hdevice : (session.ensure.run world).1.1 = .ok device)
      (hreport :
        (device.calibration.run.run (session.ensure.run world).2).1 = .ok calibration)
      (hzero : calibration.IsZero)

theorem FindsZero.exists_noise (h : game.FindsZero world) :
    ∃ profile, (result noise game world).1.1 = .ok profile ∧ profile.isIdeal = true := by
  cases h with
  | configured hnoise hzero =>
      rw [result_noise_of_some hnoise]
      exact ⟨_, rfl, Noise.isIdeal_iff.mpr hzero⟩
  | reported hnoise hsession hdevice hreport hzero =>
      obtain ⟨profile, hprofile, hideal⟩ := Noise.ofCalibration_of_isZero hzero
      refine ⟨profile, ?_, Noise.isIdeal_iff.mpr hideal⟩
      rw [result_noise_of_session hnoise hsession]
      simp only [hdevice, hreport]
      exact hprofile

/-- A noisy run that finds its noise to be zero scores as a run without noise does. -/
theorem FindsZero.score_playSeated (h : game.FindsZero world) (hnoisy : game.config.mode = .noisy)
    {ideal : Config Float} (hideal : ideal.mode = .ideal)
    (hshots : ideal.shots = game.config.shots) (seating : Seating) (seed : UInt64)
    (script : String) (players : Nat) :
    (result (playSeated seating seed script players) game world).1.1 =
      ideal.simulate seating seed script players := by
  obtain ⟨profile, hfound, hzero⟩ := h.exists_noise
  rw [result_playSeated_noisy hnoisy]
  dsimp only
  rw [hfound]
  exact Config.simulate_of_isIdeal hzero hnoisy hideal hshots seating seed script players

end Game

namespace Clones

variable {σ τ : Type} {noisy ideal : Config Float}

/-- One call, made to a noisy clone and to one without noise that have come equally far. -/
theorem At.score_play_zero_noise {seed : UInt64} {runs : Nat} {clones : Clones Float σ}
    {clones' : Clones Float τ} (hat : At noisy seed runs clones) (hat' : At ideal seed runs clones')
    (hnoisy : noisy.mode = .noisy) (hideal : ideal.mode = .ideal)
    (hshots : ideal.shots = noisy.shots) {call : Call} {world : σ}
    (hzero : call.isPlayable = true → (clones.clone call).FindsZero world) (world' : τ) :
    (clones.play call world).1.1 = (clones'.play call world').1.1 := by
  cases hplayable : call.isPlayable with
  | false => rw [play_of_not_isPlayable hplayable, play_of_not_isPlayable hplayable]
  | true =>
      have hconfig : (clones.clone call).config = noisy := hat.config_eq
      have hconfig' : (clones'.clone call).config = ideal := hat'.config_eq
      have hself : (clones'.clone call).config.IsSelfContained := .inl (hconfig' ▸ hideal)
      rw [(hat.play_of_isPlayable hplayable world).1, (hat'.play_of_isPlayable hplayable world').1,
        Game.result_playSeated_of_isSelfContained hself, hconfig',
        (hzero hplayable).score_playSeated (hconfig ▸ hnoisy) hideal (hconfig ▸ hshots),
        Game.seatingAt, Game.seatingAt, hnoisy, hideal]
      rfl

/-- A noisy game whose noise is zero is played as a game without noise. Made to either,
the same calls have the same scores, call by call, as long as the number of shots and the
seed are the same; whichever sessions the two have, a call has the same score whenever the
noise is found to be zero for it. They draw the same words, and so do simulators, whose
histograms are the same for any circuit. -/
theorem playAll_zero_noise (hnoisy : noisy.mode = .noisy) (hideal : ideal.mode = .ideal)
    (hshots : ideal.shots = noisy.shots) {entropy entropy' : UInt64}
    (hseed : ideal.seed.getD entropy' = noisy.seed.getD entropy)
    (sessions : List (Session Float σ)) (sessions' : List (Session Float τ))
    (calls : List Call) (world : σ) (world' : τ) :
    let clones := ofConfig noisy entropy sessions
    let played := clones.playAll calls world
    let exact := (ofConfig ideal entropy' sessions').playAll calls world'
    (∀ before call after, calls = before ++ call :: after →
      let reached := clones.playAll before world
      (call.isPlayable = true → (reached.1.2.clone call).FindsZero reached.2) →
        played.1.1[before.length]? = exact.1.1[before.length]?) ∧
    ((∀ before call after, calls = before ++ call :: after → call.isPlayable = true →
        let reached := clones.playAll before world
        (reached.1.2.clone call).FindsZero reached.2) →
      played.1.1 = exact.1.1) ∧
    played.1.2.stream = exact.1.2.stream ∧
    (∀ {ρ : Type} [RandomSource ρ] (noise : Noise Float), noise.IsZero →
      ∀ (seed : Option UInt64) (circuit : Circuit) (shots : UInt32) (source : ρ),
        ((⟨seed, some noise⟩ : Simulator Float).runWith circuit shots).run.run source =
          ((⟨seed, none⟩ : Simulator Float).runWith circuit shots).run.run source) := by
  intro clones played exact
  have hstart : At noisy (noisy.seed.getD entropy) 0 clones := at_ofConfig noisy entropy sessions
  have hstart' := at_ofConfig ideal entropy' sessions'
  rw [hseed] at hstart'
  have hcall : ∀ before call after, calls = before ++ call :: after →
      let reached := clones.playAll before world
      (call.isPlayable = true → (reached.1.2.clone call).FindsZero reached.2) →
        played.1.1[before.length]? = exact.1.1[before.length]? := by
    rintro before call after rfl reached hzero
    simp only [played, exact, getElem?_playAll]
    rw [(hstart.playAll before world).score_play_zero_noise (hstart'.playAll before world') hnoisy
      hideal hshots hzero]
  refine ⟨hcall, fun hzero => List.ext_getElem? fun i => ?_, ?_, ?_⟩
  · rcases Nat.lt_or_ge i calls.length with hlt | hge
    · have hsplit : calls = calls.take i ++ calls[i] :: calls.drop (i + 1) := by simp
      have hscore := hcall _ _ _ hsplit (hzero _ _ _ hsplit)
      rwa [List.length_take_of_le hlt.le] at hscore
    · rw [List.getElem?_eq_none ((length_playAll ..).trans_le hge),
        List.getElem?_eq_none ((length_playAll ..).trans_le hge)]
  · exact (hstart.playAll calls world).stream_eq.trans
      (hstart'.playAll calls world').stream_eq.symm
  · intro ρ _ noise hzero seed circuit shots source
    rw [Simulator.runWith_of_isIdeal (Noise.isIdeal_iff.mpr hzero)]

theorem playAll_zero_noise_of_either_sign :
    let device : Device Float Unit :=
      ⟨⟨"quiet", fun _ _ => pure Histogram.empty⟩, pure ⟨[0.5, -0.5], [], [-0]⟩⟩
    let session : Session Float Unit :=
      { provider := ⟨fun _ _ => pure device⟩
        loadCredentials := ExceptT.mk (pure (Credentials.ofToken "secret"))
        target := .standard
        device := none }
    let ideal : Config Float := { Config.standard with seed := some 7 }
    let configured : Config Float := { ideal with mode := .noisy, noise := some ⟨-0, 0, -0⟩ }
    let reported : Config Float := { ideal with mode := .noisy }
    let calls : List Call := [⟨some 0, "H1C12", 2⟩, ⟨none, "C11", 2⟩, ⟨none, "H1H2", 2⟩]
    let exact := (ofConfig ideal 0 ([] : List (Session Float Unit))).playAll calls ()
    ((ofConfig configured 0 [session]).playAll calls ()).1.1 = exact.1.1 ∧
      ((ofConfig reported 0 [session]).playAll calls ()).1.1[0]? = exact.1.1[0]? := by
  intro device session ideal configured reported calls exact
  have hconfigured : Noise.IsZero (⟨-0, 0, -0⟩ : Noise Float) :=
    Noise.isIdeal_iff.mp (by decide +kernel)
  have hreported : Calibration.IsZero (⟨[0.5, -0.5], [], [-0]⟩ : Calibration Float) :=
    ⟨.inr (Double.mem_zeros_iff.mpr (by decide +kernel)), .inl rfl,
      .inr (Double.mem_zeros_iff.mpr (by decide +kernel))⟩
  obtain ⟨-, hall, -, -⟩ :=
    @playAll_zero_noise Unit Unit configured ideal rfl rfl rfl 0 0 rfl [session] [] calls () ()
  obtain ⟨hcall, -, -, -⟩ :=
    @playAll_zero_noise Unit Unit reported ideal rfl rfl rfl 0 0 rfl [session] [] calls () ()
  refine ⟨hall fun before call after _ _ => ?_, hcall [] _ _ rfl fun _ => ?_⟩
  · refine .configured ?_ hconfigured
    rw [clone, ((at_ofConfig configured 0 [session]).playAll before ()).config_eq]
  · exact .reported rfl rfl rfl rfl hreported

end Clones

end GateGame
