import GateGame.Proofs.Game.Clones
import GateGame.Proofs.Game.Devices

namespace GateGame.Clones

open Steps

/-! Device sessions of games that are played again and again. A session is asked only in
runs that need its device, and connects at most once. -/

variable {α σ : Type}

def logged (clones : Clones α σ) : Clones α (Logged α σ) where
  config := clones.config
  sessions := clones.sessions.map Session.logged
  stream := clones.stream

theorem clone_logged (clones : Clones α σ) (call : Call) :
    clones.logged.clone call = (clones.clone call).logged := by
  obtain ⟨session | k, script, players⟩ := call
  · rfl
  · simp [clone, logged, Game.logged]

theorem share_logged (clones : Clones α σ) (call : Call) (game : Game α σ) :
    clones.logged.share call game.logged = (clones.share call game).logged := by
  obtain ⟨session | k, script, players⟩ := call
  · rfl
  · rcases game with ⟨config, session | session, stream⟩
    · rfl
    · simp [share, logged, Game.logged, List.map_set]

theorem length_sessions_share (clones : Clones α σ) (call : Call) (game : Game α σ) :
    (clones.share call game).sessions.length = clones.sessions.length := by
  rw [share]
  dsimp only
  split
  · rw [List.length_set]
  · rfl

/-- A clone that has played leaves its session in the place where it was, if it has one. -/
theorem sessions_share {clones : Clones α σ} {call : Call} {game : Game α σ}
    (h : game.session.isSome = (clones.clone call).session.isSome) :
    (game.session = none ∧ (clones.clone call).session = none ∧
      (clones.share call game).sessions = clones.sessions) ∨
    ∃ k, ∃ hk : k < clones.sessions.length, ∃ session,
      call.session = some k ∧ (clones.clone call).session = some clones.sessions[k] ∧
      game.session = some session ∧
      (clones.share call game).sessions = clones.sessions.set k session := by
  cases hgame : game.session with
  | none =>
      rw [hgame] at h
      have hnone := Option.isSome_eq_false_iff.mp h.symm
      refine .inl ⟨rfl, Option.isNone_iff_eq_none.mp hnone, ?_⟩
      rw [share, hgame]
      cases call.session <;> rfl
  | some session =>
      rw [hgame] at h
      obtain ⟨before, hbefore⟩ := Option.isSome_iff_exists.mp h.symm
      obtain ⟨k, hcall, hread⟩ := Option.bind_eq_some_iff.mp hbefore
      obtain ⟨hk, rfl⟩ := List.getElem?_eq_some_iff.mp hread
      refine .inr ⟨k, hk, session, hcall, hbefore, rfl, ?_⟩
      rw [share, hcall, hgame]

theorem session_clone_share {clones : Clones α σ} {call : Call} {game : Game α σ}
    (h : game.session.isSome = (clones.clone call).session.isSome) :
    ((clones.share call game).clone call).session = game.session := by
  rcases sessions_share h with
    ⟨hgame, hclone, hsessions⟩ | ⟨k, hk, session, hcall, -, hgame, hsessions⟩
  · rw [clone] at hclone ⊢
    rw [hsessions, hgame]
    exact hclone
  · rw [clone, hsessions, hcall, hgame]
    exact List.getElem?_set_self hk

theorem countP_set_add {β : Type} (p : β → Bool) {items : List β} {k : Nat}
    (hk : k < items.length) (item : β) :
    (items.set k item).countP p + (p items[k]).toNat = items.countP p + (p item).toNat := by
  have hcounted : p items[k] = true → 0 < items.countP p := fun h =>
    List.countP_pos_iff.mpr ⟨_, List.getElem_mem hk, h⟩
  rw [List.countP_set hk]
  cases hold : p items[k] with
  | false => cases p item <;> rfl
  | true =>
      -- The count includes the item that goes, so nothing is cut off when one is taken away.
      have hpositive := hcounted hold
      cases p item
      · simp only [if_true, Bool.false_eq_true, if_false, Bool.toNat_true, Bool.toNat_false]
        omega
      · simp only [if_true, Bool.toNat_true]
        omega

/-- If the session of a clone comes to have as many devices more as are given, then so do
the sessions of all clones. -/
theorem countP_sessions_share {clones : Clones α σ} {call : Call} {game : Game α σ} {more : Nat}
    (h : game.session.isSome = (clones.clone call).session.isSome)
    (hmore : ((clones.clone call).session.any Session.isInitialized).toNat + more =
      (game.session.any Session.isInitialized).toNat) :
    clones.sessions.countP Session.isInitialized + more =
      (clones.share call game).sessions.countP Session.isInitialized := by
  rcases sessions_share h with
    ⟨hgame, hclone, hsessions⟩ | ⟨k, hk, session, -, hclone, hgame, hsessions⟩
  · rw [hgame, hclone] at hmore
    have hnone : more = 0 := by simpa using hmore
    rw [hsessions, hnone, Nat.add_zero]
  · rw [hgame, hclone, Option.any_some, Option.any_some] at hmore
    have hset := countP_set_add Session.isInitialized hk session
    rw [hsessions]
    omega

variable [Scalar α]

/-- The requests that calls have made, as a log around the collaborators shows them. -/
def requests (clones : Clones α σ) (calls : List Call) (world : σ) : List (Request α σ) :=
  (clones.logged.playAll calls (world, [])).2.2

/-- Every call is a turn of the clone that it is made to, and with the log kept it goes
the same way. -/
theorem turn_play (clones : Clones α σ) (call : Call) (world : σ) :
    let played := clones.play call world
    let run := Game.runStream clones.stream
    let asked := clones.requests [call] world
    Game.Turn clones.config (clones.clone call).session
        (Game.seating clones.config.mode call.players run) (Game.simulatorSeed run)
        call.script call.players asked played.1.1 (played.1.2.clone call).session ∧
      clones.sessions.countP Session.isInitialized + asked.countP Request.isConnection =
        played.1.2.sessions.countP Session.isInitialized ∧
      ∀ log, clones.logged.play call (world, log) =
        ((played.1.1, played.1.2.logged), (played.2, log ++ asked)) := by
  obtain ⟨asked, hturn, hsame⟩ :=
    Game.exists_turn_play (clones.clone call) call.script call.players world
  have hlogged (log : List (Request α σ)) : clones.logged.play call (world, log) =
      (((clones.play call world).1.1, (clones.play call world).1.2.logged),
        ((clones.play call world).2, log ++ asked)) := by
    rw [play, clone_logged, hsame, play, ← share_logged]
  have hasked : clones.requests [call] world = asked := by
    rw [requests, playAll, hlogged]
    rfl
  rw [hasked]
  refine ⟨?_, countP_sessions_share hturn.isSome_eq hturn.countP_isConnection, hlogged⟩
  rw [play, session_clone_share hturn.isSome_eq]
  exact hturn

theorem playAll_logged (clones : Clones α σ) (calls : List Call) (world : σ)
    (log : List (Request α σ)) :
    clones.logged.playAll calls (world, log) =
      let played := clones.playAll calls world
      ((played.1.1, played.1.2.logged), (played.2, log ++ clones.requests calls world)) := by
  -- Later calls are logged behind those of the first, so the log must be arbitrary.
  induction calls generalizing clones world log with
  | nil => simp [playAll, requests]
  | cons call rest ih =>
      obtain ⟨-, -, hsame⟩ := clones.turn_play call world
      let next := clones.play call world
      have hrequests : clones.requests (call :: rest) world =
          clones.requests [call] world ++ next.1.2.requests rest next.2 := by
        rw [requests, playAll, hsame]
        dsimp only
        rw [ih, List.nil_append]
      rw [hrequests, ← List.append_assoc, playAll, hsame]
      dsimp only
      rw [ih]
      rfl

theorem requests_append (clones : Clones α σ) (before after : List Call) (world : σ) :
    clones.requests (before ++ after) world =
      let reached := clones.playAll before world
      clones.requests before world ++ reached.1.2.requests after reached.2 := by
  rw [requests, playAll_append, playAll_logged]
  dsimp only
  rw [playAll_logged]
  rfl

/-- However many calls are made, what they connect are the devices that the sessions then
have and did not have before. -/
theorem countP_isConnection_requests (clones : Clones α σ) (calls : List Call) (world : σ) :
    clones.sessions.countP Session.isInitialized +
        (clones.requests calls world).countP Request.isConnection =
      (clones.playAll calls world).1.2.sessions.countP Session.isInitialized := by
  induction calls generalizing clones world with
  | nil => rfl
  | cons call rest ih =>
      obtain ⟨-, hcount, -⟩ := clones.turn_play call world
      have hrest := ih (clones.play call world).1.2 (clones.play call world).2
      have hrequests := clones.requests_append [call] rest world
      rw [List.singleton_append] at hrequests
      rw [hrequests, List.countP_append, ← Nat.add_assoc, hcount]
      exact hrest

theorem length_sessions_playAll (clones : Clones α σ) (calls : List Call) (world : σ) :
    (clones.playAll calls world).1.2.sessions.length = clones.sessions.length := by
  induction calls generalizing clones world with
  | nil => rfl
  | cons call rest ih => rw [playAll, ih, play, length_sessions_share]

/-- Nothing but a run that needs a device asks for one. Every call is a turn: it asks
nobody if there is nothing to play, or if the run is simulated without noise or with the
noise that is configured. Otherwise the session of the clone is asked for its device, if
there is one, and passes on the error of the loader or of the provider. A device that is
got executes the circuit of the script once with the shots configured, or else, in a
noisy game, reports its figures once and executes nothing; its error is passed on. Over
all calls no more devices are connected than there were sessions without one, so games
with a single session connect at most once. Keeping the log changes nothing. -/
theorem playAll_asks_for_device (config : Config α) (entropy : UInt64)
    (sessions : List (Session α σ)) (calls : List Call) (world : σ) :
    let seed := config.seed.getD entropy
    let clones := ofConfig config entropy sessions
    let played := clones.playAll calls world
    (∀ before call after, calls = before ++ call :: after →
      let reached := clones.playAll before world
      let runs := before.countP Call.isPlayable
      let next := reached.1.2.play call reached.2
      ∃ asked,
        Game.Turn config (reached.1.2.clone call).session
          (Game.seatingAt config.mode call.players seed runs) (Game.simulatorSeedAt seed runs)
          call.script call.players asked next.1.1 (next.1.2.clone call).session ∧
        clones.requests (before ++ [call]) world = clones.requests before world ++ asked ∧
        played.1.1[before.length]? = some next.1.1 ∧
        (call.isPlayable = false ∨ config.IsSelfContained →
          asked = [] ∧ (next.1.2.clone call).session = (reached.1.2.clone call).session)) ∧
    (clones.requests calls world).countP Request.isConnection ≤
      sessions.countP (fun session => !session.isInitialized) ∧
    clones.logged.playAll calls (world, []) =
      ((played.1.1, played.1.2.logged), (played.2, clones.requests calls world)) := by
  intro seed clones played
  refine ⟨?_, ?_, playAll_logged clones calls world []⟩
  · rintro before call after rfl reached runs next
    obtain ⟨hconfig, hstream⟩ := (at_ofConfig config entropy sessions).playAll before world
    obtain ⟨hturn, -, -⟩ := reached.1.2.turn_play call reached.2
    rw [hconfig, hstream, Nat.zero_add] at hturn
    exact ⟨_, hturn, requests_append clones before [call] world,
      getElem?_playAll clones before call after world, hturn.requests_eq_nil⟩
  · have hconnected : sessions.countP Session.isInitialized +
        (clones.requests calls world).countP Request.isConnection =
          played.1.2.sessions.countP Session.isInitialized :=
      countP_isConnection_requests clones calls world
    have hafter : played.1.2.sessions.countP Session.isInitialized ≤ sessions.length :=
      Nat.le_trans List.countP_le_length
        (Nat.le_of_eq (length_sessions_playAll clones calls world))
    have hsplit := List.length_eq_countP_add_countP Session.isInitialized (l := sessions)
    simp only [Bool.not_eq_true, Bool.decide_eq_false] at hsplit
    omega

theorem playAll_asks_for_device_after_invalid_script :
    let idle : Device Float Nat := ⟨⟨"idle", fun _ _ => pure Histogram.empty⟩, pure .empty⟩
    let session : Session Float Nat :=
      { provider := ⟨fun _ _ => pure idle⟩
        loadCredentials := ExceptT.mk fun tries =>
          (if tries = 0 then .error (.credential .tokenNotSet) else Credentials.ofToken "secret",
            tries + 1)
        target := .standard
        device := none }
    let config : Config Float := { Config.standard with mode := .device, seed := some 7 }
    let clones := ofConfig config 0 [session]
    let invalid : Call := ⟨some 0, "C11", 2⟩
    let valid : Call := ⟨some 0, "H1C12", 2⟩
    let next := (clones.playAll [invalid, valid] 0).1.2
    clones.requests [invalid] 0 = [] ∧
      Game.Turn config (some session) (Game.seatingAt .device 2 7 0) (Game.simulatorSeedAt 7 0)
        "H1C12" 2 (clones.requests [invalid, valid] 0) (clones.play valid 0).1.1
        (next.clone valid).session ∧
      (clones.requests [invalid, valid, invalid, valid, valid] 0).countP Request.isConnection ≤
        1 := by
  intro idle session config clones invalid valid next
  have hinvalid : invalid.isPlayable = false := by decide
  have hcount : [invalid].countP Call.isPlayable = 0 := by decide
  have hreached : clones.playAll [invalid] 0 = (([.ok Score.zero], clones), 0) := by
    rw [playAll, play_of_not_isPlayable hinvalid]
    rfl
  obtain ⟨hcalls, -, -⟩ := playAll_asks_for_device config 0 [session] [invalid, valid] 0
  obtain ⟨-, hconnections, -⟩ :=
    playAll_asks_for_device config 0 [session] [invalid, valid, invalid, valid, valid] 0
  obtain ⟨first, -, hfirst, -, hnobody⟩ := hcalls [] invalid [valid] rfl
  obtain ⟨second, hturn, hsecond, -⟩ := hcalls [invalid] valid [] rfl
  rw [(hnobody (.inl hinvalid)).1] at hfirst
  have hinvalidAsked : clones.requests [invalid] 0 = [] := hfirst
  have hboth : clones.requests [invalid, valid] 0 = second := by
    rw [hinvalidAsked] at hsecond
    exact hsecond
  rw [hcount, hreached] at hturn
  refine ⟨hinvalidAsked, ?_, hconnections⟩
  have hnext : next = (clones.play valid 0).1.2 := by
    change (clones.playAll ([invalid] ++ [valid]) 0).1.2 = _
    rw [playAll_append, hreached]
    rfl
  rw [hboth, hnext]
  exact hturn

end GateGame.Clones
