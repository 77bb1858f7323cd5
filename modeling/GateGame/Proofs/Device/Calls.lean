import GateGame.Proofs.Device.Requests

namespace GateGame.Session

/-! A session that is asked for its device again and again. It connects when it is first
asked with success, and from then on keeps the device and leaves its collaborators
alone. -/

variable {α σ : Type}

/-- The answers to some calls for the device, made one after another, and the session
after them. -/
def ensureAll (session : Session α σ) :
    Nat → StateM σ (List (Except Error (Device α σ)) × Session α σ)
  | 0 => pure ([], session)
  | calls + 1 => do
      let (answers, reached) ← session.ensureAll calls
      let (answer, after) ← reached.ensure
      pure (answers ++ [answer], after)

section Run

variable (session : Session α σ) (calls : Nat) (world : σ)

def answers : List (Except Error (Device α σ)) :=
  ((session.ensureAll calls).run world).1.1

def reached : Session α σ :=
  ((session.ensureAll calls).run world).1.2

/-- The requests of the session during some calls, as a log around its collaborators
shows them. -/
def requests : List (Request α σ) :=
  ((session.logged.ensureAll calls).run (world, [])).2.2

/-- How many calls have failed before the first that has not; all of them, if there is
none. -/
def failures : Nat :=
  (session.answers calls world).findIdx (·.isOk)

theorem run_ensureAll_succ :
    (session.ensureAll (calls + 1)).run world =
      let earlier := (session.ensureAll calls).run world
      let last := earlier.1.2.ensure.run earlier.2
      ((earlier.1.1 ++ [last.1.1], last.1.2), last.2) := rfl

/-- With the log kept, calls go as they do without it. -/
theorem run_ensureAll_logged :
    (session.logged.ensureAll calls).run (world, []) =
      (((session.answers calls world).map (·.map Device.logged),
        (session.reached calls world).logged),
        (((session.ensureAll calls).run world).2, session.requests calls world)) := by
  induction calls with
  | zero => rfl
  | succ calls ih =>
      obtain ⟨asked, -, hlogged⟩ := (session.reached calls world).exists_attempt
        ((session.ensureAll calls).run world).2
      have hanswers : session.answers (calls + 1) world = session.answers calls world ++
          [((session.reached calls world).ensure.run
            ((session.ensureAll calls).run world).2).1.1] := rfl
      rw [requests, run_ensureAll_succ, ih, hanswers, List.map_append]
      dsimp only
      rw [hlogged]
      rfl

/-- Each further call is an attempt, made on the session that the earlier ones have
left. -/
theorem exists_attempt_succ :
    ∃ asked answer,
      (session.reached calls world).Attempt asked answer (session.reached (calls + 1) world) ∧
      session.answers (calls + 1) world = session.answers calls world ++ [answer] ∧
      session.requests (calls + 1) world = session.requests calls world ++ asked := by
  obtain ⟨asked, hattempt, hlogged⟩ := (session.reached calls world).exists_attempt
    ((session.ensureAll calls).run world).2
  refine ⟨asked, _, hattempt, rfl, ?_⟩
  rw [requests, run_ensureAll_succ, run_ensureAll_logged]
  dsimp only
  rw [hlogged]

theorem length_answers : (session.answers calls world).length = calls := by
  induction calls with
  | zero => rfl
  | succ calls ih =>
      obtain ⟨asked, answer, -, hanswers, -⟩ := session.exists_attempt_succ calls world
      rw [hanswers, List.length_append, ih, List.length_singleton]

/-- A session that has got a device keeps it, answers with it and asks nobody. -/
theorem run_of_reached {device : Device α σ}
    (h : (session.reached calls world).device = some device) (more : Nat) :
    session.answers (calls + more) world =
        session.answers calls world ++ List.replicate more (.ok device) ∧
      session.requests (calls + more) world = session.requests calls world ∧
      session.reached (calls + more) world = session.reached calls world := by
  induction more with
  | zero => simp
  | succ more ih =>
      obtain ⟨hanswers, hrequests, hreached⟩ := ih
      obtain ⟨asked, answer, hattempt, hanswers', hrequests'⟩ :=
        session.exists_attempt_succ (calls + more) world
      rw [hreached] at hattempt
      obtain ⟨rfl, rfl, hafter⟩ := hattempt.eq_of_device h
      refine ⟨?_, ?_, hafter⟩
      · rw [← Nat.add_assoc, hanswers', hanswers, List.append_assoc, List.replicate_succ']
      · rw [← Nat.add_assoc, hrequests', hrequests, List.append_nil]

theorem countP_isConnection :
    session.isInitialized.toNat +
        (session.requests calls world).countP Request.isConnection =
      (session.reached calls world).isInitialized.toNat := by
  induction calls with
  | zero => rfl
  | succ calls ih =>
      obtain ⟨asked, answer, hattempt, -, hrequests⟩ := session.exists_attempt_succ calls world
      rw [hrequests, List.countP_append, ← Nat.add_assoc, ih, hattempt.countP_isConnection]

variable {session}

/-- A new session has got the device that it has answered with. -/
theorem device_reached_iff (hnew : session.device = none) (device : Device α σ) :
    (session.reached calls world).device = some device ↔
      .ok device ∈ session.answers calls world := by
  induction calls with
  | zero =>
      have hreached : (session.reached 0 world).device = none := hnew
      have hanswers : session.answers 0 world = [] := rfl
      simp [hreached, hanswers]
  | succ calls ih =>
      obtain ⟨asked, answer, hattempt, hanswers, -⟩ := session.exists_attempt_succ calls world
      rw [hattempt.device_eq_some_iff, ih, hanswers, List.mem_append, List.mem_singleton,
        eq_comm (a := answer)]

theorem isInitialized_reached_iff (hnew : session.device = none) :
    (session.reached calls world).isInitialized = true ↔
      ∃ device, .ok device ∈ session.answers calls world := by
  rw [isInitialized, Option.isSome_iff_exists]
  exact exists_congr (device_reached_iff calls world hnew)

/-- The credentials are loaded for each failure before the first success, and once for
that. -/
theorem countP_isLoad (hnew : session.device = none) :
    (session.requests calls world).countP Request.isLoad =
      if (session.reached calls world).isInitialized then session.failures calls world + 1
      else calls := by
  have hlength (calls : Nat) := session.length_answers calls world
  induction calls with
  | zero =>
      have hreached : (session.reached 0 world).isInitialized = false := congrArg Option.isSome hnew
      rw [hreached]
      rfl
  | succ calls ih =>
      obtain ⟨asked, answer, hattempt, hanswers, hrequests⟩ :=
        session.exists_attempt_succ calls world
      have hfirst := isInitialized_reached_iff calls world hnew
      rw [hrequests, List.countP_append, ih, hattempt.countP_isLoad, hattempt.isInitialized_eq,
        failures, failures, hanswers, List.findIdx_append, hlength]
      cases hreached : (session.reached calls world).isInitialized with
      | true =>
          obtain ⟨device, hdevice⟩ := hfirst.mp hreached
          have hearlier := (List.findIdx_lt_length (p := (·.isOk))).mpr ⟨_, hdevice, rfl⟩
          rw [hlength] at hearlier
          simp [hattempt.isOk_of_isInitialized hreached, hearlier]
      | false =>
          have hfailed : ∀ answer ∈ session.answers calls world, answer.isOk = false := by
            rintro (error | device) hmem
            · rfl
            · rw [hfirst.mpr ⟨device, hmem⟩] at hreached
              cases hreached
          have hnone := List.findIdx_eq_length.mpr hfailed
          rw [hlength] at hnone
          cases hok : answer.isOk <;> simp [hnone, hok]

end Run

/-- A session connects when it is first needed, and at most once, whatever its
collaborators answer from call to call. While it has no device, each call loads the
credentials once and, if there are any, once asks the provider with them for the target;
an error is passed on and leaves the session as it is, and a device is kept. The session
has a device once it has answered with one, and from then on it answers with that very
device and asks nobody. So at most one device is ever connected, and the credentials are
loaded once for each failure before the first success and once for that, or in every call
if there is none. Keeping the log changes nothing. -/
theorem ensureAll_connects_once {session : Session α σ} (hnew : session.device = none)
    (calls : Nat) (world : σ) :
    (∃ asked answer,
      (session.reached calls world).Attempt asked answer (session.reached (calls + 1) world) ∧
      session.answers (calls + 1) world = session.answers calls world ++ [answer] ∧
      session.requests (calls + 1) world = session.requests calls world ++ asked) ∧
    ((session.reached calls world).isInitialized = true ↔
      ∃ device, .ok device ∈ session.answers calls world) ∧
    (∀ device, .ok device ∈ session.answers calls world →
      (session.reached calls world).device = some device ∧
      ∀ more,
        session.answers (calls + more) world =
          session.answers calls world ++ List.replicate more (.ok device) ∧
        session.requests (calls + more) world = session.requests calls world ∧
        session.reached (calls + more) world = session.reached calls world) ∧
    (session.requests calls world).countP Request.isConnection ≤ 1 ∧
    ((session.requests calls world).countP Request.isLoad =
      if (session.reached calls world).isInitialized then session.failures calls world + 1
      else calls) ∧
    (session.logged.ensureAll calls).run (world, []) =
      (((session.answers calls world).map (·.map Device.logged),
        (session.reached calls world).logged),
        (((session.ensureAll calls).run world).2, session.requests calls world)) := by
  refine ⟨session.exists_attempt_succ calls world, isInitialized_reached_iff calls world hnew,
    ?_, ?_, countP_isLoad calls world hnew, session.run_ensureAll_logged calls world⟩
  · intro device hanswer
    have hdevice := (device_reached_iff calls world hnew device).mpr hanswer
    exact ⟨hdevice, session.run_of_reached calls world hdevice⟩
  · have hconnections := session.countP_isConnection calls world
    have hreached := Bool.toNat_le (session.reached calls world).isInitialized
    omega

theorem ensureAll_connects_once_after_failures :
    let idle : Device Float Nat := ⟨⟨"idle", fun _ _ => pure Histogram.empty⟩, pure .empty⟩
    let session : Session Float Nat :=
      { provider := ⟨fun _ _ => ExceptT.mk fun tries =>
          (if tries < 3 then .error (.deviceUnavailable (.reported "busy")) else .ok idle, tries)⟩
        loadCredentials := ExceptT.mk fun tries =>
          (if tries = 0 then .error (.credential .tokenNotSet) else Credentials.ofToken "secret",
            tries + 1)
        target := .standard
        device := none }
    (session.requests 5 0).countP Request.isLoad = 3 ∧
      (session.requests 5 0).countP Request.isConnection ≤ 1 ∧
      (session.reached 5 0).device = some idle ∧
      session.answers 9 0 = session.answers 5 0 ++ List.replicate 4 (.ok idle) := by
  intro idle session
  obtain ⟨-, -, hkept, hconnections, hloads, -⟩ :=
    @ensureAll_connects_once Float Nat session rfl 5 0
  have hmem : .ok idle ∈ session.answers 5 0 := by
    have hthird : (session.answers 5 0)[2]? = some (.ok idle) := rfl
    exact List.mem_of_getElem? hthird
  obtain ⟨hdevice, hmore⟩ := hkept idle hmem
  exact ⟨hloads, hconnections, hdevice, (hmore 4).1⟩

end GateGame.Session
