import GateGame.Device.Session
import GateGame.Proofs.Except

namespace GateGame

/-! What a session asks of its collaborators. Around each of them a log can be kept of
what it was asked and how it answered, and nothing else changes. -/

variable {α σ β : Type}

/-- A request to a collaborator, with the answer. -/
inductive Request (α σ : Type) where
  | load (answer : Except Error Credentials)
  | connect (credentials : Credentials) (target : Target) (answer : Except Error (Device α σ))
  | calibrate (device : Device α σ) (answer : Except Error (Calibration α))
  | execute (device : Device α σ) (circuit : Circuit) (shots : UInt32)
      (answer : Except Error Histogram)

namespace Request

def isLoad : Request α σ → Bool
  | load _ => true
  | _ => false

/-- The provider has been asked for a device and has answered with one. -/
def isConnection : Request α σ → Bool
  | connect _ _ (.ok _) => true
  | _ => false

end Request

/-- The world together with a log of the requests so far. -/
abbrev Logged (α σ : Type) := σ × List (Request α σ)

def logging (action : Outside σ β) (request : Except Error β → Request α σ) :
    Outside (Logged α σ) β :=
  ExceptT.mk fun (world, log) =>
    let (answer, world) := action.run.run world
    (answer, (world, log ++ [request answer]))

theorem run_logging (action : Outside σ β) (request : Except Error β → Request α σ) (world : σ)
    (log : List (Request α σ)) :
    (logging action request).run.run (world, log) =
      ((action.run.run world).1,
        ((action.run.run world).2, log ++ [request (action.run.run world).1])) := rfl

def Device.logged (device : Device α σ) : Device α (Logged α σ) where
  name := device.name
  run circuit shots := logging (device.run circuit shots) (.execute device circuit shots)
  calibration := logging device.calibration (.calibrate device)

namespace Session

def logged (session : Session α σ) : Session α (Logged α σ) where
  provider := ⟨fun credentials target => do
    let device ← logging (session.provider.connect credentials target)
      (.connect credentials target)
    pure device.logged⟩
  loadCredentials := logging session.loadCredentials .load
  target := session.target
  device := session.device.map Device.logged

theorem ensure_of_some {session : Session α σ} {device : Device α σ}
    (h : session.device = some device) (world : σ) :
    session.ensure.run world = ((.ok device, session), world) := by
  rw [ensure, h]
  rfl

theorem ensure_of_none {session : Session α σ} (h : session.device = none) (world : σ) :
    session.ensure.run world =
      match session.open?.run.run world with
      | (.ok device, world) => ((.ok device, { session with device := some device }), world)
      | (.error error, world) => ((.error error, session), world) := by
  rw [ensure, h, StateT.run_bind]
  rcases session.open?.run.run world with ⟨error | device, after⟩ <;> rfl

theorem run_open? (session : Session α σ) (world : σ) :
    session.open?.run.run world =
      match session.loadCredentials.run.run world with
      | (.ok credentials, world) =>
          (session.provider.connect credentials session.target).run.run world
      | (.error error, world) => (.error error, world) := by
  rw [open?, run_bind]
  rcases session.loadCredentials.run.run world with ⟨error | credentials, after⟩ <;> rfl

theorem run_open?_logged (session : Session α σ) (world : σ) (log : List (Request α σ)) :
    session.logged.open?.run.run (world, log) =
      match session.loadCredentials.run.run world with
      | (.ok credentials, world) =>
          let connected := (session.provider.connect credentials session.target).run.run world
          (connected.1.map Device.logged, (connected.2, log ++ [.load (.ok credentials),
            .connect credentials session.target connected.1]))
      | (.error error, world) => (.error error, (world, log ++ [.load (.error error)])) := by
  rw [run_open?, logged, run_logging]
  rcases session.loadCredentials.run.run world with ⟨error | credentials, after⟩
  · rfl
  · dsimp only
    rw [run_bind, run_logging, List.append_assoc]
    rcases (session.provider.connect credentials session.target).run.run after with
      ⟨error | device, last⟩ <;> rfl

/-- How a session can be asked for its device: what it requests then, its answer, and the
session afterwards. -/
inductive Attempt (session : Session α σ) :
    List (Request α σ) → Except Error (Device α σ) → Session α σ → Prop
  | kept {device : Device α σ} (h : session.device = some device) :
      Attempt session [] (.ok device) session
  | notLoaded {error : Error} (h : session.device = none) :
      Attempt session [.load (.error error)] (.error error) session
  | notConnected {credentials : Credentials} {error : Error} (h : session.device = none) :
      Attempt session
        [.load (.ok credentials), .connect credentials session.target (.error error)]
        (.error error) session
  | connected {credentials : Credentials} {device : Device α σ} (h : session.device = none) :
      Attempt session
        [.load (.ok credentials), .connect credentials session.target (.ok device)]
        (.ok device) { session with device := some device }

/-- Every call is such an attempt, and with the log kept it goes the same way. -/
theorem exists_attempt (session : Session α σ) (world : σ) :
    ∃ requests,
      session.Attempt requests (session.ensure.run world).1.1 (session.ensure.run world).1.2 ∧
      ∀ log, session.logged.ensure.run (world, log) =
        (((session.ensure.run world).1.1.map Device.logged,
          (session.ensure.run world).1.2.logged),
          ((session.ensure.run world).2, log ++ requests)) := by
  cases hdevice : session.device with
  | some device =>
      have hlogged : session.logged.device = some device.logged := by rw [logged, hdevice]; rfl
      rw [ensure_of_some hdevice]
      refine ⟨[], .kept hdevice, fun log => ?_⟩
      rw [ensure_of_some hlogged, List.append_nil]
      rfl
  | none =>
      have hlogged : session.logged.device = none := by rw [logged, hdevice]; rfl
      simp only [ensure_of_none hdevice, ensure_of_none hlogged, run_open?_logged]
      rw [run_open?]
      rcases session.loadCredentials.run.run world with ⟨error | credentials, after⟩
      · exact ⟨_, .notLoaded hdevice, fun _ => rfl⟩
      · dsimp only
        rcases (session.provider.connect credentials session.target).run.run after with
          ⟨error | device, last⟩
        · exact ⟨_, .notConnected hdevice, fun _ => rfl⟩
        · exact ⟨_, .connected hdevice, fun _ => rfl⟩

namespace Attempt

variable {session after : Session α σ} {requests : List (Request α σ)}
  {answer : Except Error (Device α σ)}

/-- A session that has a device answers with it and asks nobody. -/
theorem eq_of_device (h : session.Attempt requests answer after) {device : Device α σ}
    (hdevice : session.device = some device) :
    requests = [] ∧ answer = .ok device ∧ after = session := by
  cases h with
  | kept hkept =>
      rw [hdevice] at hkept
      cases hkept
      exact ⟨rfl, rfl, rfl⟩
  | notLoaded hnone | notConnected hnone | connected hnone =>
      rw [hdevice] at hnone
      cases hnone

/-- A session has the device that it had before or has answered with. -/
theorem device_eq_some_iff (h : session.Attempt requests answer after) (device : Device α σ) :
    after.device = some device ↔ session.device = some device ∨ answer = .ok device := by
  cases h with
  | kept hkept => simp [hkept]
  | notLoaded hnone | notConnected hnone => simp
  | connected hnone => simp [hnone]

theorem isOk_of_isInitialized (h : session.Attempt requests answer after)
    (hinitialized : session.isInitialized = true) : answer.isOk = true := by
  obtain ⟨device, hdevice⟩ := Option.isSome_iff_exists.mp hinitialized
  obtain ⟨-, rfl, -⟩ := h.eq_of_device hdevice
  rfl

theorem isInitialized_eq (h : session.Attempt requests answer after) :
    after.isInitialized = answer.isOk := by
  cases h with
  | kept hkept => rw [isInitialized, hkept]; rfl
  | notLoaded hnone | notConnected hnone => rw [isInitialized, hnone]; rfl
  | connected hnone => rfl

/-- The credentials are loaded once, unless the session has a device. -/
theorem countP_isLoad (h : session.Attempt requests answer after) :
    requests.countP Request.isLoad = (!session.isInitialized).toNat := by
  cases h with
  | kept hkept => rw [isInitialized, hkept]; rfl
  | notLoaded hnone | notConnected hnone | connected hnone => rw [isInitialized, hnone]; rfl

/-- A connection is what makes the session have a device. -/
theorem countP_isConnection (h : session.Attempt requests answer after) :
    session.isInitialized.toNat + requests.countP Request.isConnection =
      after.isInitialized.toNat := by
  cases h with
  | kept hkept => rfl
  | notLoaded hnone | notConnected hnone => rfl
  | connected hnone => rw [isInitialized, hnone]; rfl

end Attempt

end Session

end GateGame
