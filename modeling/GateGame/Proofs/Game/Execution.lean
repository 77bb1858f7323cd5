import GateGame.Proofs.Game.Steps
import GateGame.Proofs.Script.Circuit
import GateGame.Random.Replay

namespace GateGame

/-! What playing asks of a backend. A log of the circuits that a backend was given
shows that a script which plays nothing never reaches it, and that every other one
reaches it once. -/

open Steps

variable {ρ σ : Type} [RandomSource ρ]

/-- A backend that also keeps a log of the circuits it was given to execute, and for
how many shots. Otherwise it does what the backend does. -/
def Backend.logged (backend : Backend σ) : Backend (σ × List (Circuit × UInt32)) where
  name := backend.name
  run circuit shots := ExceptT.mk fun (world, log) =>
    let (result, world) := (backend.run circuit shots).run.run world
    (result, (world, log ++ [(circuit, shots)]))

theorem Backend.run_logged (backend : Backend σ) (circuit : Circuit) (shots : UInt32)
    (world : σ) (log : List (Circuit × UInt32)) :
    (backend.logged.run circuit shots).run.run (world, log) =
      (((backend.run circuit shots).run.run world).1,
        (((backend.run circuit shots).run.run world).2, log ++ [(circuit, shots)])) := rfl

theorem Script.isPlayable_iff {script : String} {players : Nat} :
    isPlayable script players = true ↔ script ≠ "" ∧ isValid script players = true := by
  simp [isPlayable]

theorem Script.isPlayable_eq_false_iff {script : String} {players : Nat} :
    isPlayable script players = false ↔ script = "" ∨ isValid script players = false := by
  rw [← Bool.not_eq_true, isPlayable_iff, not_and_or, not_not, Bool.not_eq_true]

theorem result_playOn_of_not_isPlayable {backend : Backend σ} {script : String}
    {players : Nat} (h : Script.isPlayable script players = false) (shots : UInt32)
    (source : ρ) (world : σ) :
    result (playOn backend shots script players) source world =
      ((.ok Score.zero, source), world) := by
  rw [result_playOn, h]
  rfl

/-- Nothing between the check of a script and the backend can fail: the seating that
is drawn has the right size, so the circuit is built. -/
theorem result_playOn_of_isPlayable {script : String} {players : Nat}
    (h : Script.isPlayable script players = true) (source : ρ) :
    ∃ circuit, Script.circuit script players ((Seating.draw players).run source).1 = .ok circuit ∧
      ∀ {σ : Type} (backend : Backend σ) (shots : UInt32) (world : σ),
        result (playOn backend shots script players) source world =
          (((((backend.run circuit shots).run.run world).1).map fun histogram =>
              Score.ofHistogram histogram players ((Seating.draw players).run source).1,
            ((Seating.draw players).run source).2),
            ((backend.run circuit shots).run.run world).2) := by
  have hcircuit := Script.circuit_of_isValid (Script.isPlayable_iff.mp h).2
    (Seating.size_draw players source)
  refine ⟨_, hcircuit, fun backend shots world => ?_⟩
  rw [result_playOn, if_pos h]
  simp only [hcircuit]

/-- Playing on a backend fails only if the backend fails. A script that is empty or
not valid scores zero, and neither the backend nor the random source is touched. For
every other script a seating is drawn, its circuit is built, and the backend is given
this one circuit for the shots of the game; its error is passed on as it is, and its
outcomes are scored for the very same seating. Keeping the log changes nothing. -/
theorem playOn_fails_only_with_backend (backend : Backend σ) (shots : UInt32)
    (script : String) (players : Nat) (source : ρ) (world : σ)
    (log : List (Circuit × UInt32)) :
    (script = "" ∨ Script.isValid script players = false →
      result (playOn backend.logged shots script players) source (world, log) =
        ((.ok Score.zero, source), (world, log))) ∧
    (script ≠ "" → Script.isValid script players = true →
      ∃ seating rest circuit executed world',
        (Seating.draw players).run source = (seating, rest) ∧
        Script.circuit script players seating = .ok circuit ∧
        (backend.run circuit shots).run.run world = (executed, world') ∧
        result (playOn backend.logged shots script players) source (world, log) =
          match executed with
          | .ok histogram =>
              ((.ok (Score.ofHistogram histogram players seating), rest),
                (world', log ++ [(circuit, shots)]))
          | .error error => ((.error error, rest), (world', log ++ [(circuit, shots)]))) ∧
    result (playOn backend shots script players) source world =
      ((result (playOn backend.logged shots script players) source (world, log)).1,
        (result (playOn backend.logged shots script players) source (world, log)).2.1) ∧
    ∀ error,
      (result (playOn backend shots script players) source world).1.1 = .error error →
        ∃ circuit, ((backend.run circuit shots).run.run world).1 = .error error := by
  cases hplayable : Script.isPlayable script players with
  | false =>
      have hlogged : result (playOn backend.logged shots script players) source (world, log) = _ :=
        result_playOn_of_not_isPlayable hplayable ..
      have hplain : result (playOn backend shots script players) source world = _ :=
        result_playOn_of_not_isPlayable hplayable ..
      have hnot := Script.isPlayable_eq_false_iff.mp hplayable
      refine ⟨fun _ => hlogged, ?_, by rw [hlogged, hplain], by rw [hplain]; simp⟩
      intro hscript hvalid
      rcases hnot with hempty | hinvalid
      · exact absurd hempty hscript
      · exact absurd hvalid (by simp [hinvalid])
  | true =>
      obtain ⟨hscript, hvalid⟩ := Script.isPlayable_iff.mp hplayable
      obtain ⟨circuit, hcircuit, hplayed⟩ := result_playOn_of_isPlayable hplayable source
      have hlogged := hplayed backend.logged shots (world, log)
      have hplain := hplayed backend shots world
      rw [Backend.run_logged] at hlogged
      rcases hrun : (backend.run circuit shots).run.run world with ⟨executed, world'⟩
      rw [hrun] at hlogged hplain
      refine ⟨?_, fun _ _ => ?_, by rw [hlogged, hplain], ?_⟩
      · rintro (hempty | hinvalid)
        · exact absurd hempty hscript
        · exact absurd hvalid (by simp [hinvalid])
      · refine ⟨_, _, circuit, executed, world', rfl, hcircuit, hrun, ?_⟩
        rw [hlogged]
        cases executed <;> rfl
      · intro error herror
        refine ⟨circuit, ?_⟩
        rw [hplain] at herror
        rw [hrun]
        cases executed with
        | ok histogram => simp [Except.map] at herror
        | error reason => simpa [Except.map] using herror

theorem playOn_fails_only_with_busy_backend :
    let busy : Backend Nat := ⟨"busy", fun _ _ => ExceptT.mk fun world =>
      (.error (.executionFailed "busy"), world + 1)⟩
    result (playOn busy.logged 3 "C11" 2) (Replay.ofWords [5]) (0, []) =
        ((.ok Score.zero, Replay.ofWords [5]), (0, [])) ∧
      ∃ rest circuit,
        result (playOn busy.logged 3 "x1C12" 2) (Replay.ofWords [5]) (0, []) =
          ((.error (.executionFailed "busy"), rest), (1, [(circuit, 3)])) := by
  intro busy
  obtain ⟨hnothing, -⟩ :=
    playOn_fails_only_with_backend busy 3 "C11" 2 (Replay.ofWords [5]) 0 []
  obtain ⟨-, honce, -⟩ :=
    playOn_fails_only_with_backend busy 3 "x1C12" 2 (Replay.ofWords [5]) 0 []
  refine ⟨hnothing (.inr (by decide)), ?_⟩
  obtain ⟨_, rest, circuit, executed, world', -, -, hrun, hplayed⟩ :=
    honce (by decide) (by decide)
  obtain ⟨rfl, rfl⟩ := Prod.mk.inj hrun
  exact ⟨rest, circuit, hplayed⟩

end GateGame
