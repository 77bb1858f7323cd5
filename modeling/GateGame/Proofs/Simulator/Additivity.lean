import GateGame.Proofs.Histogram.Merge
import GateGame.Proofs.Simulator.Shots

namespace GateGame.Simulator

/-! Runs one after the other. A shot leaves nothing behind but its outcome and what it has
drawn, so a run can be cut between any two of its shots: two runs on the same source, their
histograms added up, are one run of as many shots. -/

section Record

variable {ρ : Type}

theorem recordShots_add (shot : Sampling ρ String) (first second : Nat) (histogram : Histogram) :
    recordShots shot (first + second) histogram =
      recordShots shot first histogram >>= recordShots shot second := by
  induction first generalizing histogram with
  | zero => rw [Nat.zero_add, recordShots, pure_bind]
  | succ first ih =>
      rw [Nat.succ_add, recordShots, recordShots, bind_assoc]
      apply bind_congr
      intro outcome
      exact ih (histogram.record outcome 1)

/-- What has been recorded before the shots has no part in them. -/
theorem recordShots_merge (shot : Sampling ρ String) (shots : Nat) (one two : Histogram) :
    recordShots shot shots (one.merge two) =
      recordShots shot shots two >>= fun after => pure (one.merge after) := by
  induction shots generalizing two with
  | zero => rw [recordShots, recordShots, pure_bind]
  | succ shots ih =>
      rw [recordShots, recordShots, bind_assoc]
      apply bind_congr
      intro outcome
      rw [← Histogram.merge_record, ih]

theorem recordShots_add_merge (shot : Sampling ρ String) (first second : Nat) :
    recordShots shot (first + second) Histogram.empty =
      recordShots shot first Histogram.empty >>= fun one =>
        recordShots shot second Histogram.empty >>= fun two => pure (one.merge two) := by
  rw [recordShots_add]
  apply bind_congr
  intro one
  rw [← recordShots_merge, Histogram.merge_empty]

end Record

variable {α ρ : Type} [Scalar α] [RandomSource ρ] {circuit : Circuit}

theorem runNoisy_add (noise : Noise α) (circuit : Circuit) (first second : Nat) :
    (runNoisy noise circuit (first + second) : Sampling ρ Histogram) =
      runNoisy noise circuit first >>= fun one =>
        runNoisy noise circuit second >>= fun two => pure (one.merge two) :=
  recordShots_add_merge (noisyShot noise circuit) first second

/-- The second run evolves the register again, to the same state. -/
theorem runIdeal_add (α : Type) [Scalar α] (circuit : Circuit) (first second : Nat) :
    (runIdeal α circuit (first + second) : Sampling ρ Histogram) =
      runIdeal α circuit first >>= fun one =>
        runIdeal α circuit second >>= fun two => pure (one.merge two) := by
  unfold runIdeal
  cases (finalState circuit : Except Error (Register α circuit.wires)) with
  | error error => rw [ofExcept_error_bind, ofExcept_error_bind, ofExcept_error_bind]
  | ok register =>
      rw [ofExcept_ok_bind, ofExcept_ok_bind, ofExcept_ok_bind]
      exact recordShots_add_merge _ first second

/-- A run and then another come to what one run of all the shots comes to, and end at the
same place of the source, on any circuit and also when they fail. -/
theorem runWith_add (simulator : Simulator α) (circuit : Circuit) {first second : UInt32}
    (hshots : first.toNat + second.toNat < UInt32.size) :
    (simulator.runWith circuit (first + second) : Sampling ρ Histogram) =
      simulator.runWith circuit first >>= fun one =>
        simulator.runWith circuit second >>= fun two => pure (one.merge two) := by
  have hsum : (first + second).toNat = first.toNat + second.toNat := by
    rw [UInt32.toNat_add]
    exact Nat.mod_eq_of_lt hshots
  cases heffective : simulator.effectiveNoise with
  | none => simp only [runWith_of_none heffective, hsum, runIdeal_add]
  | some noise =>
      simp only [runWith_of_some heffective, hsum, runNoisy_add]
      cases noise.validate with
      | error error => rw [ofExcept_error_bind, ofExcept_error_bind, ofExcept_error_bind]
      | ok => rw [ofExcept_ok_bind, ofExcept_ok_bind, ofExcept_ok_bind]

/-- Runs that account for all of their shots: the counts of any two, the second where the
first has left the source, are the counts of one run. -/
theorem exists_runs_add {simulator : Simulator α}
    (hends : ∀ shots, Ends (simulator.runWith circuit shots : Sampling ρ Histogram)
      (Accounts circuit shots) fun _ => False)
    {first second : UInt32} (hshots : first.toNat + second.toNat < UInt32.size) (source : ρ) :
    ∃ one rest two last,
      (simulator.runWith circuit first).run.run source = (.ok one, rest) ∧
      (simulator.runWith circuit second).run.run rest = (.ok two, last) ∧
      (simulator.runWith circuit (first + second)).run.run source =
        (.ok (one.merge two), last) ∧
      ∀ outcome,
        ((one.merge two).count outcome).toNat =
          (one.count outcome).toNat + (two.count outcome).toNat ∧
        (outcome ∈ (one.merge two).entries.map (·.1) ↔
          outcome ∈ one.entries.map (·.1) ∨ outcome ∈ two.entries.map (·.1)) := by
  obtain ⟨one, rest, hone, haccounts⟩ := (hends first).exists_run source
  obtain ⟨two, last, htwo, haccounts'⟩ := (hends second).exists_run rest
  refine ⟨one, rest, two, last, hone, htwo, ?_, fun outcome => ⟨?_, ?_⟩⟩
  · rw [runWith_add simulator circuit hshots, run_bind, hone]
    dsimp only
    rw [run_bind, htwo]
    rfl
  · have hle := Histogram.toNat_count_le one outcome
    have hle' := Histogram.toNat_count_le two outcome
    have hsize : UInt32.size < 18446744073709551616 := by decide
    rw [Histogram.tally_all, haccounts.total] at hle
    rw [Histogram.tally_all, haccounts'.total] at hle'
    rw [Histogram.count_merge, UInt64.toNat_add]
    exact Nat.mod_eq_of_lt (by omega)
  · exact Histogram.mem_merge one two outcome

/-- Runs are additive in their shots. On a circuit that can be built, of no more wires than
the simulator allows, one run and then another, going on with the source, have the
histograms that, added up, one run of all the shots has, and they leave the source where it
does. To add histograms up is to add the counts of each outcome. All of that holds with
noise and without it, of any arithmetic, except that rounding can make a circuit fail the
check of the norm; then every run of it fails before it has drawn anything. The shots alone
are additive from any state, so also where nothing checks the norm. -/
theorem runWith_add_shots (simulator : Simulator α) (hbuilt : circuit.Built)
    (hwires : circuit.wires ≤ maxWires)
    (hnoise : ∀ noise, simulator.noise = some noise → noise.isIdeal = true ∨ noise.Valid)
    {first second : UInt32} (hshots : first.toNat + second.toNat < UInt32.size) (source : ρ) :
    ((∃ one rest two last,
      (simulator.runWith circuit first).run.run source = (.ok one, rest) ∧
      (simulator.runWith circuit second).run.run rest = (.ok two, last) ∧
      (simulator.runWith circuit (first + second)).run.run source =
        (.ok (one.merge two), last) ∧
      ∀ outcome,
        ((one.merge two).count outcome).toNat =
          (one.count outcome).toNat + (two.count outcome).toNat ∧
        (outcome ∈ (one.merge two).entries.map (·.1) ↔
          outcome ∈ one.entries.map (·.1) ∨ outcome ∈ two.entries.map (·.1))) ∨
    (¬ ExactScalar α ∧ simulator.effectiveNoise = none ∧ ∃ sum tolerance, ∀ shots,
      (simulator.runWith circuit shots).run.run source =
        (.error (.simulation (.notNormalized sum tolerance)), source))) ∧
    ∀ state : Register α circuit.wires,
      let shot : Sampling ρ String := ExceptT.lift (idealShot circuit state.probabilities)
      recordShots shot (first.toNat + second.toNat) Histogram.empty =
        recordShots shot first.toNat Histogram.empty >>= fun one =>
          recordShots shot second.toNat Histogram.empty >>= fun two => pure (one.merge two) := by
  constructor
  · rcases ends_runWith_or_rounds (ρ := ρ) hwires hbuilt.wellFormed
      (valid_of_effectiveNoise hnoise) with hends | hrounds
    · exact .inl (exists_runs_add hends hshots source)
    · obtain ⟨hnone, error, ⟨hinexact, sum, tolerance, rfl⟩, hfails⟩ := hrounds
      refine .inr ⟨hinexact, hnone, sum, tolerance, fun shots => ?_⟩
      rw [hfails, run_ofExcept]
  · intro state shot
    exact recordShots_add_merge shot first.toNat second.toNat

/-- With noise that strikes in every shot, and without noise. -/
theorem runWith_add_shots_bell :
    let circuit : Circuit :=
      ⟨2, 2, [.single .hadamard 0, .pair .controlledNot 0 1], [⟨0, 0⟩, ⟨1, 1⟩]⟩
    (∃ one rest two last,
      ((⟨none, some ⟨1, 0, 1⟩⟩ : Simulator Float).runWith circuit 2).run.run
        (KeyStream.ofSeed 7) = (.ok one, rest) ∧
      ((⟨none, some ⟨1, 0, 1⟩⟩ : Simulator Float).runWith circuit 3).run.run rest =
        (.ok two, last) ∧
      ((⟨none, some ⟨1, 0, 1⟩⟩ : Simulator Float).runWith circuit 5).run.run
        (KeyStream.ofSeed 7) = (.ok (one.merge two), last)) ∧
    ∃ one rest two last,
      ((⟨none, none⟩ : Simulator ExactReal).runWith circuit 2).run.run
        (KeyStream.ofSeed 7) = (.ok one, rest) ∧
      ((⟨none, none⟩ : Simulator ExactReal).runWith circuit 3).run.run rest =
        (.ok two, last) ∧
      ((⟨none, none⟩ : Simulator ExactReal).runWith circuit 5).run.run
        (KeyStream.ofSeed 7) = (.ok (one.merge two), last) := by
  intro circuit
  have hbuilt : circuit.Built := @Circuit.Built.draft
    ⟨2, 2, [.single .hadamard 0, .pair .controlledNot 0 1], true⟩ circuit rfl
  constructor
  · obtain ⟨hruns, -⟩ := @runWith_add_shots Float KeyStream _ _ circuit
      ⟨none, some ⟨1, 0, 1⟩⟩ hbuilt (by decide) (by rintro _ ⟨⟩; exact .inr valid_units) 2 3
      (by decide) (KeyStream.ofSeed 7)
    obtain ⟨one, rest, two, last, hone, htwo, hboth, -⟩ | ⟨-, hnone, -⟩ := hruns
    · exact ⟨one, rest, two, last, hone, htwo, hboth⟩
    · rw [effectiveNoise_units] at hnone
      cases hnone
  · obtain ⟨hruns, -⟩ := @runWith_add_shots ExactReal KeyStream _ _ circuit
      ⟨none, none⟩ hbuilt (by decide) (by rintro _ ⟨⟩) 2 3 (by decide) (KeyStream.ofSeed 7)
    obtain ⟨one, rest, two, last, hone, htwo, hboth, -⟩ | ⟨hinexact, -⟩ := hruns
    · exact ⟨one, rest, two, last, hone, htwo, hboth⟩
    · exact absurd (inferInstanceAs (ExactScalar ExactReal)) hinexact

end GateGame.Simulator
