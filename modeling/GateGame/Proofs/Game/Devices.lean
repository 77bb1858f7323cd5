import GateGame.Proofs.Device.Requests
import GateGame.Proofs.Game.Runs

namespace GateGame

open Steps

/-! Runs that need a device: those that it executes, and simulations that take their noise
from what it reports. Every other call leaves the session of the game alone. -/

variable {α σ : Type}

theorem Config.not_isSelfContained_iff {config : Config α} :
    ¬ config.IsSelfContained ↔
      config.mode = .device ∨ config.mode = .noisy ∧ config.noise = none := by
  cases hmode : config.mode <;> cases hnoise : config.noise <;>
    simp [IsSelfContained, hmode, hnoise]

namespace Game

section Steps

variable [Scalar α] {game : Game α σ} {session : Session α σ} {seating : Seating}
  {script : String} {players : Nat}

theorem result_playSeated_device {circuit : Circuit} (hmode : game.config.mode = .device)
    (hsession : game.session = some session)
    (hcircuit : Script.circuit script players seating = .ok circuit) (seed : UInt64) (world : σ) :
    result (playSeated seating seed script players) game world =
      let ensured := session.ensure.run world
      let after : Game α σ := { game with session := some ensured.1.2 }
      match ensured.1.1 with
      | .error error => ((.error error, after), ensured.2)
      | .ok device =>
          let executed := (device.run circuit game.config.shots).run.run ensured.2
          ((executed.1.map fun histogram => Score.ofHistogram histogram players seating, after),
            executed.2) := by
  rw [playSeated, result_bind, result_get]
  simp only [hmode]
  rw [result_bind, result_device?_of_some hsession]
  dsimp only
  cases (session.ensure.run world).1.1 with
  | error error => rfl
  | ok device => exact result_execute_of_ok hcircuit ..

theorem result_noise_of_none (hnoise : game.config.noise = none) (hsession : game.session = none)
    (world : σ) : result noise game world = ((.ok .typical, game), world) := by
  rw [noise, result_bind, result_get]
  simp only [hnoise]
  rw [result_bind, result_device?_of_none hsession]
  rfl

/-- Without noise of its own a game takes that of the device: the session is asked for
the device, and the device for its figures. -/
theorem result_noise_of_session (hnoise : game.config.noise = none)
    (hsession : game.session = some session) (world : σ) :
    result noise game world =
      let ensured := session.ensure.run world
      let after : Game α σ := { game with session := some ensured.1.2 }
      match ensured.1.1 with
      | .error error => ((.error error, after), ensured.2)
      | .ok device =>
          let reported := device.calibration.run.run ensured.2
          ((reported.1 >>= Noise.ofCalibration, after), reported.2) := by
  rw [noise, result_bind, result_get]
  simp only [hnoise]
  rw [result_bind, result_device?_of_some hsession]
  dsimp only
  cases (session.ensure.run world).1.1 with
  | error error => rfl
  | ok device =>
      change result (outside device.calibration >>= fun calibration => _) _ _ = _
      rw [result_bind, outside, result_mk_lift]
      dsimp only
      cases (device.calibration.run.run (session.ensure.run world).2).1 <;> rfl

theorem config_result_noise (game : Game α σ) (world : σ) :
    (result noise game world).1.2.config = game.config := by
  cases hnoise : game.config.noise with
  | some profile => rw [result_noise_of_some hnoise]
  | none =>
      cases hsession : game.session with
      | none => rw [result_noise_of_none hnoise hsession]
      | some session =>
          rw [result_noise_of_session hnoise hsession]
          dsimp only
          cases (session.ensure.run world).1.1 <;> rfl

theorem result_playSeated_noisy (hmode : game.config.mode = .noisy) (seating : Seating)
    (seed : UInt64) (script : String) (players : Nat) (world : σ) :
    result (playSeated seating seed script players) game world =
      let found := result noise game world
      ((found.1.1 >>= fun profile =>
          { game.config with noise := some profile }.simulate seating seed script players,
        found.1.2), found.2) := by
  have hconfig := config_result_noise game world
  rw [playSeated, result_bind, result_get]
  simp only [hmode]
  rw [result_bind]
  rcases hfound : result noise game world with ⟨⟨error | profile, after⟩, outside⟩
  · rfl
  · rw [hfound] at hconfig
    dsimp only at hconfig ⊢
    rw [result_execute_backend, hconfig, ok_bind, Config.simulate]
    rfl

/-- Without a session only the settings, the seating and the seed have a say. -/
theorem exists_score_of_no_session {config : Config α} (hneeds : ¬ config.IsSelfContained)
    (seating : Seating) (seed : UInt64) (script : String) (players : Nat) :
    ∃ score, ∀ {τ : Type} {game : Game α τ} (world : τ), game.config = config →
      game.session = none →
        result (playSeated seating seed script players) game world = ((score, game), world) := by
  rcases Config.not_isSelfContained_iff.mp hneeds with hmode | ⟨hmode, hnoise⟩
  · refine ⟨.error (.deviceUnavailable .noSession), fun world hconfig hsession => ?_⟩
    subst hconfig
    rw [playSeated, result_bind, result_get]
    simp only [hmode]
    rw [result_bind, result_device?_of_none hsession]
    rfl
  · refine ⟨({ config with noise := some .typical } : Config α).simulate seating seed script players,
      fun world hconfig hsession => ?_⟩
    subst hconfig
    rw [result_playSeated_noisy hmode, result_noise_of_none hnoise hsession]
    rfl

end Steps

def logged (game : Game α σ) : Game α (Logged α σ) where
  config := game.config
  session := game.session.map Session.logged
  stream := game.stream

/-- How a call to play can go for the session of a game: what is requested, the score, and
the session afterwards. -/
inductive Turn [Scalar α] (config : Config α) (session? : Option (Session α σ))
    (seating : Seating) (seed : UInt64) (script : String) (players : Nat) :
    List (Request α σ) → Except Error Score → Option (Session α σ) → Prop
  /-- Nothing is played, or nothing outside has a say, or there is no session. -/
  | apart {score : Except Error Score}
      (h : Script.isPlayable script players = false ∨ config.IsSelfContained ∨ session? = none) :
      Turn config session? seating seed script players [] score session?
  /-- The session has no device to answer with. -/
  | refused {session after : Session α σ} {requests : List (Request α σ)} {error : Error}
      (hplayable : Script.isPlayable script players = true) (hneeds : ¬ config.IsSelfContained)
      (hsession : session? = some session)
      (hattempt : session.Attempt requests (.error error) after) :
      Turn config session? seating seed script players requests (.error error) (some after)
  /-- The device executes the circuit of the script. -/
  | executed {session after : Session α σ} {requests : List (Request α σ)}
      {device : Device α σ} {circuit : Circuit} {answer : Except Error Histogram}
      (hplayable : Script.isPlayable script players = true) (hmode : config.mode = .device)
      (hsession : session? = some session)
      (hattempt : session.Attempt requests (.ok device) after)
      (hcircuit : Script.circuit script players seating = .ok circuit) :
      Turn config session? seating seed script players
        (requests ++ [.execute device circuit config.shots answer])
        (answer.map fun histogram => Score.ofHistogram histogram players seating) (some after)
  /-- The device reports its figures, and the script is simulated with that noise. -/
  | reported {session after : Session α σ} {requests : List (Request α σ)}
      {device : Device α σ} {answer : Except Error (Calibration α)}
      (hplayable : Script.isPlayable script players = true) (hmode : config.mode = .noisy)
      (hnoise : config.noise = none) (hsession : session? = some session)
      (hattempt : session.Attempt requests (.ok device) after) :
      Turn config session? seating seed script players (requests ++ [.calibrate device answer])
        (answer >>= Noise.ofCalibration >>= fun profile =>
          { config with noise := some profile }.simulate seating seed script players)
        (some after)

section Turns

variable [Scalar α] {game : Game α σ} {session : Session α σ} {seating : Seating}
  {script : String} {players : Nat}

theorem exists_turn_device (hplayable : Script.isPlayable script players = true)
    (hsize : seating.size = players) (hmode : game.config.mode = .device)
    (hsession : game.session = some session) (seed : UInt64) (world : σ) :
    let played := result (playSeated seating seed script players) game world
    ∃ requests,
      Turn game.config game.session seating seed script players requests played.1.1
        played.1.2.session ∧
      ∀ log, result (playSeated seating seed script players) game.logged (world, log) =
        ((played.1.1, played.1.2.logged), (played.2, log ++ requests)) := by
  have hcircuit := Script.circuit_of_isValid (Script.isPlayable_iff.mp hplayable).2 hsize
  have hlogged : game.logged.session = some session.logged := congrArg (Option.map _) hsession
  have hmode' : game.logged.config.mode = .device := hmode
  have hneeds : ¬ game.config.IsSelfContained := Config.not_isSelfContained_iff.mpr (.inl hmode)
  obtain ⟨requests, hattempt, hsame⟩ := session.exists_attempt world
  rw [result_playSeated_device hmode hsession hcircuit]
  rcases hensure : session.ensure.run world with ⟨⟨error | device, after⟩, outside⟩
  · rw [hensure] at hattempt hsame
    refine ⟨requests, .refused hplayable hneeds hsession hattempt, fun log => ?_⟩
    rw [result_playSeated_device hmode' hlogged hcircuit, hsame]
    rfl
  · rw [hensure] at hattempt hsame
    refine ⟨_, .executed hplayable hmode hsession hattempt hcircuit, fun log => ?_⟩
    rw [result_playSeated_device hmode' hlogged hcircuit, hsame, ← List.append_assoc]
    rfl

theorem exists_turn_reported (hplayable : Script.isPlayable script players = true)
    (hmode : game.config.mode = .noisy) (hnoise : game.config.noise = none)
    (hsession : game.session = some session) (seating : Seating) (seed : UInt64) (world : σ) :
    let played := result (playSeated seating seed script players) game world
    ∃ requests,
      Turn game.config game.session seating seed script players requests played.1.1
        played.1.2.session ∧
      ∀ log, result (playSeated seating seed script players) game.logged (world, log) =
        ((played.1.1, played.1.2.logged), (played.2, log ++ requests)) := by
  have hlogged : game.logged.session = some session.logged := congrArg (Option.map _) hsession
  have hmode' : game.logged.config.mode = .noisy := hmode
  have hnoise' : game.logged.config.noise = none := hnoise
  have hneeds : ¬ game.config.IsSelfContained :=
    Config.not_isSelfContained_iff.mpr (.inr ⟨hmode, hnoise⟩)
  obtain ⟨requests, hattempt, hsame⟩ := session.exists_attempt world
  rw [result_playSeated_noisy hmode, result_noise_of_session hnoise hsession]
  rcases hensure : session.ensure.run world with ⟨⟨error | device, after⟩, outside⟩
  · rw [hensure] at hattempt hsame
    refine ⟨requests, .refused hplayable hneeds hsession hattempt, fun log => ?_⟩
    rw [result_playSeated_noisy hmode', result_noise_of_session hnoise' hlogged, hsame]
    rfl
  · rw [hensure] at hattempt hsame
    refine ⟨_, .reported hplayable hmode hnoise hsession hattempt, fun log => ?_⟩
    rw [result_playSeated_noisy hmode', result_noise_of_session hnoise' hlogged, hsame,
      ← List.append_assoc]
    rfl

/-- Every run is such a turn, and with the log kept it goes the same way. -/
theorem exists_turn_playSeated (hplayable : Script.isPlayable script players = true)
    (hsize : seating.size = players) (game : Game α σ) (seed : UInt64) (world : σ) :
    let played := result (playSeated seating seed script players) game world
    ∃ requests,
      Turn game.config game.session seating seed script players requests played.1.1
        played.1.2.session ∧
      ∀ log, result (playSeated seating seed script players) game.logged (world, log) =
        ((played.1.1, played.1.2.logged), (played.2, log ++ requests)) := by
  by_cases hself : game.config.IsSelfContained
  · have hself' : game.logged.config.IsSelfContained := hself
    rw [result_playSeated_of_isSelfContained hself]
    refine ⟨[], .apart (.inr (.inl hself)), fun log => ?_⟩
    rw [result_playSeated_of_isSelfContained hself', List.append_nil]
    rfl
  · rcases Option.eq_none_or_eq_some game.session with hsession | ⟨session, hsession⟩
    · have hlogged : game.logged.session = none := congrArg (Option.map _) hsession
      obtain ⟨score, hscore⟩ :=
        exists_score_of_no_session hself seating seed script players
      rw [hscore world rfl hsession]
      refine ⟨[], .apart (.inr (.inr hsession)), fun log => ?_⟩
      rw [hscore (world, log) rfl hlogged, List.append_nil]
    · rcases Config.not_isSelfContained_iff.mp hself with hmode | ⟨hmode, hnoise⟩
      · exact exists_turn_device hplayable hsize hmode hsession seed world
      · exact exists_turn_reported hplayable hmode hnoise hsession seating seed world

theorem exists_turn_play (game : Game α σ) (script : String) (players : Nat) (world : σ) :
    let played := result (play script players) game world
    let run := runStream game.stream
    ∃ requests,
      Turn game.config game.session (Game.seating game.config.mode players run)
        (simulatorSeed run) script players requests played.1.1 played.1.2.session ∧
      ∀ log, result (play script players) game.logged (world, log) =
        ((played.1.1, played.1.2.logged), (played.2, log ++ requests)) := by
  cases hplayable : Script.isPlayable script players with
  | false =>
      rw [result_play_of_not_isPlayable hplayable]
      refine ⟨[], .apart (.inl hplayable), fun log => ?_⟩
      rw [result_play_of_not_isPlayable hplayable, List.append_nil]
  | true =>
      have hsize := size_seating game.config.mode players (runStream game.stream)
      rw [result_play hplayable]
      obtain ⟨requests, hturn, hsame⟩ := exists_turn_playSeated hplayable hsize
        { game with stream := (RandomSource.word.run game.stream).2 }
        (simulatorSeed (runStream game.stream)) world
      refine ⟨requests, hturn, fun log => ?_⟩
      rw [result_play hplayable]
      exact hsame log

end Turns

namespace Turn

variable [Scalar α] {config : Config α} {session? after? : Option (Session α σ)}
  {seating : Seating} {seed : UInt64} {script : String} {players : Nat}
  {requests : List (Request α σ)} {score : Except Error Score}

theorem isSome_eq (h : Turn config session? seating seed script players requests score after?) :
    after?.isSome = session?.isSome := by
  cases h with
  | apart => rfl
  | refused _ _ hsession | executed _ _ hsession | reported _ _ _ hsession => rw [hsession]; rfl

theorem requests_eq_nil
    (h : Turn config session? seating seed script players requests score after?)
    (hneedless : Script.isPlayable script players = false ∨ config.IsSelfContained) :
    requests = [] ∧ after? = session? := by
  have habsurd (hplayable : Script.isPlayable script players = true)
      (hneeds : ¬ config.IsSelfContained) : False := by
    rcases hneedless with hunplayable | hself
    · rw [hplayable] at hunplayable
      cases hunplayable
    · exact hneeds hself
  cases h with
  | apart => exact ⟨rfl, rfl⟩
  | refused hplayable hneeds => exact (habsurd hplayable hneeds).elim
  | executed hplayable hmode =>
      exact (habsurd hplayable (Config.not_isSelfContained_iff.mpr (.inl hmode))).elim
  | reported hplayable hmode hnoise =>
      exact (habsurd hplayable (Config.not_isSelfContained_iff.mpr (.inr ⟨hmode, hnoise⟩))).elim

/-- A turn connects at most the device that the session then has. -/
theorem countP_isConnection
    (h : Turn config session? seating seed script players requests score after?) :
    (session?.any Session.isInitialized).toNat + requests.countP Request.isConnection =
      (after?.any Session.isInitialized).toNat := by
  cases h with
  | apart => rfl
  | refused _ _ hsession hattempt =>
      rw [hsession]
      exact hattempt.countP_isConnection
  | executed _ _ hsession hattempt | reported _ _ _ hsession hattempt =>
      rw [hsession, List.countP_append]
      exact hattempt.countP_isConnection

end Turn

end Game

end GateGame
