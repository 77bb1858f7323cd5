import GateGame.Proofs.Game.Runs
import Mathlib.Logic.Function.Iterate

namespace GateGame

open Steps

/-! Games that are played again and again. A game and its clones take their runs from one
stream, in the order in which they play. Calls that play nothing take nothing from it, so
they could as well not have been made. -/

/-- What is left of a stream when some words have been taken from it. -/
def KeyStream.skip (stream : KeyStream) (count : Nat) : KeyStream :=
  (fun stream => (RandomSource.word.run stream).2)^[count] stream

theorem KeyStream.skip_succ (stream : KeyStream) (count : Nat) :
    stream.skip (count + 1) = (RandomSource.word.run (stream.skip count)).2 :=
  Function.iterate_succ_apply' _ count stream

namespace Game

/-- The stream of a run, given the seed of the game and how many runs it has played
before. -/
def runStreamAt (seed : UInt64) (runs : Nat) : KeyStream :=
  runStream ((KeyStream.ofSeed seed).skip runs)

def seatingAt (mode : Mode) (players : Nat) (seed : UInt64) (runs : Nat) : Seating :=
  seating mode players (runStreamAt seed runs)

def simulatorSeedAt (seed : UInt64) (runs : Nat) : UInt64 :=
  simulatorSeed (runStreamAt seed runs)

end Game

/-- A game and its clones. They have the same settings and share one stream; each may
have been given a device session, and clones with the same session share it. -/
structure Clones (α σ : Type) where
  config : Config α
  sessions : List (Session α σ)
  stream : KeyStream

/-- A request to play a script, made to the clone with the session given, or to one
without a session. -/
structure Call where
  session : Option Nat
  script : String
  players : Nat

def Call.isPlayable (call : Call) : Bool :=
  Script.isPlayable call.script call.players

namespace Clones

variable {α σ : Type}

def ofConfig (config : Config α) (entropy : UInt64) (sessions : List (Session α σ)) :
    Clones α σ where
  config := config
  sessions := sessions
  stream := KeyStream.ofSeed (config.seed.getD entropy)

/-- The clone that a call is made to. -/
def clone (clones : Clones α σ) (call : Call) : Game α σ where
  config := clones.config
  session := call.session.bind fun k => clones.sessions[k]?
  stream := clones.stream

/-- What a clone that has played leaves to all of them. -/
def share (clones : Clones α σ) (call : Call) (game : Game α σ) : Clones α σ where
  config := clones.config
  sessions :=
    match call.session, game.session with
    | some k, some session => clones.sessions.set k session
    | _, _ => clones.sessions
  stream := game.stream

variable [Scalar α]

def play (clones : Clones α σ) (call : Call) (world : σ) :
    (Except Error Score × Clones α σ) × σ :=
  let played := result (Game.play call.script call.players) (clones.clone call) world
  ((played.1.1, clones.share call played.1.2), played.2)

/-- The scores of calls made one after another, and how they leave the clones and the
world outside. -/
def playAll (clones : Clones α σ) : List Call → σ →
    (List (Except Error Score) × Clones α σ) × σ
  | [], world => (([], clones), world)
  | call :: rest, world =>
      let first := clones.play call world
      let last := first.1.2.playAll rest first.2
      ((first.1.1 :: last.1.1, last.1.2), last.2)

theorem playAll_append (clones : Clones α σ) (before after : List Call) (world : σ) :
    clones.playAll (before ++ after) world =
      let first := clones.playAll before world
      let last := first.1.2.playAll after first.2
      ((first.1.1 ++ last.1.1, last.1.2), last.2) := by
  induction before generalizing clones world with
  | nil => rfl
  | cons call rest ih =>
      rw [List.cons_append, playAll, ih]
      rfl

theorem length_playAll (clones : Clones α σ) (calls : List Call) (world : σ) :
    (clones.playAll calls world).1.1.length = calls.length := by
  induction calls generalizing clones world with
  | nil => rfl
  | cons call rest ih => rw [playAll, List.length_cons, List.length_cons, ih]

/-- The clones are in the middle of a sequence: they have the settings given, and so many
runs have been played with the seed. -/
structure At (config : Config α) (seed : UInt64) (runs : Nat) (clones : Clones α σ) : Prop where
  config_eq : clones.config = config
  stream_eq : clones.stream = (KeyStream.ofSeed seed).skip runs

variable {config : Config α} {seed : UInt64} {runs : Nat} {clones : Clones α σ} {call : Call}

omit [Scalar α] in
theorem at_ofConfig (config : Config α) (entropy : UInt64) (sessions : List (Session α σ)) :
    At config (config.seed.getD entropy) 0 (ofConfig config entropy sessions) :=
  ⟨rfl, rfl⟩

theorem play_of_not_isPlayable (h : call.isPlayable = false) (clones : Clones α σ) (world : σ) :
    clones.play call world =
      ((.ok Score.zero, clones.share call (clones.clone call)), world) := by
  rw [play, Game.result_play_of_not_isPlayable h]

/-- A call that is played has the seating and the seed of its run, and takes one word
from the stream, whether it succeeds or fails. -/
theorem At.play_of_isPlayable (h : At config seed runs clones) (hplayable : call.isPlayable = true)
    (world : σ) :
    (clones.play call world).1.1 =
        (result (Game.playSeated (Game.seatingAt config.mode call.players seed runs)
          (Game.simulatorSeedAt seed runs) call.script call.players)
          (clones.clone call) world).1.1 ∧
      (clones.play call world).1.2.stream = (KeyStream.ofSeed seed).skip (runs + 1) := by
  obtain ⟨rfl, hstream⟩ := h
  have hplay := Game.result_play hplayable (clones.clone call) world
  rw [Game.streamless_playSeated] at hplay
  rw [play, hplay, KeyStream.skip_succ, Game.seatingAt, Game.simulatorSeedAt, Game.runStreamAt,
    ← hstream]
  exact ⟨rfl, rfl⟩

/-- One call: a word is taken from the stream if it is played, and none if it is not. -/
theorem At.play (h : At config seed runs clones) (call : Call) (world : σ) :
    At config seed (runs + if call.isPlayable then 1 else 0) (clones.play call world).1.2 := by
  cases hplayable : call.isPlayable with
  | true => exact ⟨h.config_eq, (h.play_of_isPlayable hplayable world).2⟩
  | false =>
      rw [play_of_not_isPlayable hplayable]
      exact ⟨h.config_eq, h.stream_eq⟩

/-- Any number of calls: as many words are taken as there are calls that are played. -/
theorem At.playAll (h : At config seed runs clones) (calls : List Call) (world : σ) :
    At config seed (runs + calls.countP Call.isPlayable) (clones.playAll calls world).1.2 := by
  induction calls generalizing clones runs world with
  | nil => exact h
  | cons call rest ih =>
      have hrest := ih (h.play call world) (clones.play call world).2
      rwa [Nat.add_assoc, Nat.add_comm (ite ..), ← List.countP_cons] at hrest

theorem getElem?_playAll (clones : Clones α σ) (before : List Call) (call : Call)
    (after : List Call) (world : σ) :
    (clones.playAll (before ++ call :: after) world).1.1[before.length]? =
      some ((clones.playAll before world).1.2.play call (clones.playAll before world).2).1.1 := by
  rw [playAll_append]
  dsimp only
  rw [List.getElem?_append_right (Nat.le_of_eq (length_playAll ..)), length_playAll, Nat.sub_self]
  rfl

/-- The score of every call when so many runs have been played before. -/
def scoresFrom (config : Config α) (seed : UInt64) : Nat → List Call → List (Except Error Score)
  | _, [] => []
  | runs, call :: rest =>
      if call.isPlayable then
        config.simulate (Game.seatingAt config.mode call.players seed runs)
          (Game.simulatorSeedAt seed runs) call.script call.players ::
            scoresFrom config seed (runs + 1) rest
      else .ok Score.zero :: scoresFrom config seed runs rest

theorem scoresFrom_append (config : Config α) (seed : UInt64) (runs : Nat)
    (before after : List Call) :
    scoresFrom config seed runs (before ++ after) =
      scoresFrom config seed runs before ++
        scoresFrom config seed (runs + before.countP Call.isPlayable) after := by
  induction before generalizing runs with
  | nil => rfl
  | cons call rest ih =>
      rw [List.cons_append, scoresFrom, scoresFrom, List.countP_cons]
      cases call.isPlayable <;> simp [ih, Nat.add_assoc, Nat.add_comm 1]

theorem scoresFrom_of_not_isPlayable (config : Config α) (seed : UInt64) (runs : Nat)
    {calls : List Call} (h : ∀ call ∈ calls, call.isPlayable = false) :
    scoresFrom config seed runs calls = calls.map fun _ => .ok Score.zero := by
  induction calls with
  | nil => rfl
  | cons call rest ih =>
      rw [scoresFrom, if_neg (by simp [h call]), List.map_cons,
        ih fun other hother => h other (by simp [hother])]

theorem length_scoresFrom (config : Config α) (seed : UInt64) (runs : Nat) (calls : List Call) :
    (scoresFrom config seed runs calls).length = calls.length := by
  induction calls generalizing runs with
  | nil => rfl
  | cons call rest ih => rw [scoresFrom]; split <;> simp [ih]

/-- What self-contained games score is settled by their settings, their seed and the
calls. -/
theorem At.scores_playAll {config : Config α} {seed : UInt64} {runs : Nat} {clones : Clones α σ}
    (h : At config seed runs clones) (hself : config.IsSelfContained) (calls : List Call)
    (world : σ) :
    (clones.playAll calls world).1.1 = scoresFrom config seed runs calls := by
  induction calls generalizing clones runs world with
  | nil => rfl
  | cons call rest ih =>
      have hrest := ih (h.play call world) (clones.play call world).2
      rw [Clones.playAll, scoresFrom]
      cases hplayable : call.isPlayable with
      | true =>
          rw [hplayable] at hrest
          have hclone : (clones.clone call).config = config := h.config_eq
          have hscore := (h.play_of_isPlayable hplayable world).1
          rw [Game.result_playSeated_of_isSelfContained (hclone.symm ▸ hself), hclone] at hscore
          rw [hscore, hrest]
          rfl
      | false =>
          rw [hplayable] at hrest
          rw [hrest, play_of_not_isPlayable hplayable]
          rfl

/-- Calls that play nothing do not disturb the sequence of a seeded game. However many
calls are made to a game and its clones, and whether they succeed or fail, as many words
are taken from the stream as there were scripts to play. A call that has nothing to play
scores zero; every other one is played with a seating and a seed that the mode, the
number of players, the seed of the game and the number of runs before it settle. So as
long as nothing outside has a say, calls that play nothing can be put in or left out
anywhere and every other score stays as it was, and the same calls to another game with
the same settings and seed have the same scores. -/
theorem playAll_takes_words {σ : Type} (config : Config α) (entropy : UInt64)
    (sessions : List (Session α σ)) (calls : List Call) (world : σ) :
    let seed := config.seed.getD entropy
    let clones := ofConfig config entropy sessions
    let played := clones.playAll calls world
    played.1.2.stream = (KeyStream.ofSeed seed).skip (calls.countP Call.isPlayable) ∧
    (∀ before call after, calls = before ++ call :: after →
      let reached := clones.playAll before world
      let runs := before.countP Call.isPlayable
      (call.isPlayable = false → played.1.1[before.length]? = some (.ok Score.zero)) ∧
      (call.isPlayable = true → played.1.1[before.length]? =
        some (result (Game.playSeated (Game.seatingAt config.mode call.players seed runs)
          (Game.simulatorSeedAt seed runs) call.script call.players)
          (reached.1.2.clone call) reached.2).1.1)) ∧
    (config.IsSelfContained →
      (∀ before inserted after, calls = before ++ after →
        (∀ call ∈ inserted, call.isPlayable = false) →
          (clones.playAll (before ++ inserted ++ after) world).1.1 =
            played.1.1.take before.length ++ inserted.map (fun _ => .ok Score.zero) ++
              played.1.1.drop before.length) ∧
      ∀ (entropy' : UInt64) (sessions' : List (Session α σ)) (world' : σ),
        config.seed.getD entropy' = seed →
          ((ofConfig config entropy' sessions').playAll calls world').1.1 = played.1.1) := by
  intro seed clones played
  have hstart : At config seed 0 clones := at_ofConfig config entropy sessions
  refine ⟨?_, ?_, fun hself => ⟨?_, ?_⟩⟩
  · have hstream := (hstart.playAll calls world).stream_eq
    rwa [Nat.zero_add] at hstream
  · rintro before call after rfl reached runs
    have hreached := hstart.playAll before world
    rw [Nat.zero_add] at hreached
    simp only [played, getElem?_playAll]
    refine ⟨fun hunplayable => ?_, fun hplayable => ?_⟩
    · rw [play_of_not_isPlayable hunplayable]
    · rw [(hreached.play_of_isPlayable hplayable _).1]
  · rintro before inserted after rfl hinserted
    have hlength := length_scoresFrom config seed 0 before
    have hcount : inserted.countP Call.isPlayable = 0 := by
      rw [List.countP_eq_zero]
      intro call hcall
      simp [hinserted call hcall]
    simp only [played, hstart.scores_playAll hself, scoresFrom_append,
      scoresFrom_of_not_isPlayable config seed _ hinserted, List.countP_append, hcount,
      Nat.add_zero]
    rw [← hlength, List.take_left, List.drop_left]
  · intro entropy' sessions' world' hseed
    have hstart' := at_ofConfig config entropy' sessions'
    rw [hseed] at hstart'
    exact (hstart'.scores_playAll hself calls world').trans
      (hstart.scores_playAll hself calls world).symm

theorem playAll_takes_words_around_invalid_script :
    let config : Config Float := { Config.standard with seed := some 7 }
    let clones : Clones Float Unit := ofConfig config 0 []
    let valid : Call := ⟨none, "H1C12", 2⟩
    let invalid : Call := ⟨none, "C11", 2⟩
    let scores := (clones.playAll [valid, valid] ()).1.1
    (clones.playAll [valid, invalid, valid] ()).1.2.stream = (KeyStream.ofSeed 7).skip 2 ∧
      (clones.playAll [valid, invalid, valid] ()).1.1 =
        scores.take 1 ++ [.ok Score.zero] ++ scores.drop 1 ∧
      ((ofConfig config 5 [] : Clones Float Unit).playAll [valid, valid] ()).1.1 = scores := by
  intro config clones valid invalid scores
  have hinvalid : invalid.isPlayable = false := by decide
  have hcount : [valid, invalid, valid].countP Call.isPlayable = 2 := by decide
  obtain ⟨hstream, -⟩ := playAll_takes_words config 0 [] [valid, invalid, valid] ()
  obtain ⟨-, -, hself⟩ := playAll_takes_words config 0 [] [valid, valid] ()
  obtain ⟨hinsert, hagain⟩ := hself (.inl rfl)
  rw [hcount] at hstream
  refine ⟨hstream, ?_, hagain 5 [] () rfl⟩
  exact hinsert [valid] [invalid] [valid] rfl (by simp [hinvalid])

end Clones

end GateGame
