import GateGame.Proofs.Except
import GateGame.Proofs.Histogram.Tally
import GateGame.Proofs.Register.Reseating
import GateGame.Simulator.Basic

namespace GateGame.Simulator

/-! Computations that draw and may fail, and how they can end whatever is drawn. Ends
compose, so what one shot does tells what all of them do. -/

variable {ρ β γ : Type}

theorem run_ofExcept (result : Except Error β) (source : ρ) :
    (ofExcept result : Sampling ρ β).run.run source = (result, source) := rfl

theorem ofExcept_ok_bind (value : β) (next : β → Sampling ρ γ) :
    (ofExcept (.ok value) >>= next : Sampling ρ γ) = next value := rfl

theorem ofExcept_error_bind (error : Error) (next : β → Sampling ρ γ) :
    (ofExcept (.error error) >>= next : Sampling ρ γ) = ofExcept (.error error) := rfl

/-- Whatever is drawn, the computation yields a result of the kind given, or fails in
one of the ways given. -/
def Ends (sampling : Sampling ρ β) (Result : β → Prop) (Failure : Error → Prop) : Prop :=
  ∀ source, match (sampling.run.run source).1 with
    | .ok value => Result value
    | .error error => Failure error

variable {Result : β → Prop} {Failure : Error → Prop}

theorem ends_pure {value : β} (h : Result value) :
    Ends (pure value : Sampling ρ β) Result Failure :=
  fun _ => h

theorem ends_lift {action : StateM ρ β} (h : ∀ source, Result (action.run source).1) :
    Ends (ExceptT.lift action) Result Failure :=
  fun source => h source

theorem ends_error {error : Error} (h : Failure error) :
    Ends (ofExcept (.error error) : Sampling ρ β) Result Failure :=
  fun _ => h

theorem ends_any {action : StateM ρ β} :
    Ends (ExceptT.lift action) (fun _ => True) Failure :=
  ends_lift fun _ => trivial

theorem Ends.bind {first : Sampling ρ β} {next : β → Sampling ρ γ} {Last : γ → Prop}
    (hfirst : Ends first Result Failure)
    (hnext : ∀ value, Result value → Ends (next value) Last Failure) :
    Ends (first >>= next) Last Failure := by
  intro source
  have hvalue := hfirst source
  rw [run_bind]
  rcases hrun : first.run.run source with ⟨result, rest⟩
  rw [hrun] at hvalue
  cases result with
  | ok value => exact hnext value hvalue rest
  | error error => exact hvalue

theorem Ends.mono {sampling : Sampling ρ β} {Result' : β → Prop} {Failure' : Error → Prop}
    (h : Ends sampling Result Failure) (hresult : ∀ value, Result value → Result' value)
    (hfailure : ∀ error, Failure error → Failure' error) :
    Ends sampling Result' Failure' := by
  intro source
  have hend := h source
  cases hrun : (sampling.run.run source).1 with
  | ok value =>
      rw [hrun] at hend
      exact hresult value hend
  | error error =>
      rw [hrun] at hend
      exact hfailure error hend

theorem Ends.exists_run {sampling : Sampling ρ β} (h : Ends sampling Result fun _ => False)
    (source : ρ) : ∃ value rest, sampling.run.run source = (.ok value, rest) ∧ Result value := by
  have hend := h source
  rcases hrun : sampling.run.run source with ⟨result, rest⟩
  rw [hrun] at hend
  cases result with
  | ok value => exact ⟨value, rest, rfl, hend⟩
  | error error => exact hend.elim

theorem Ends.exists_ok {sampling : Sampling ρ β} (h : Ends sampling Result fun _ => False)
    (source : ρ) : ∃ value, (sampling.run.run source).1 = .ok value ∧ Result value := by
  obtain ⟨value, rest, hrun, hvalue⟩ := h.exists_run source
  exact ⟨value, congrArg Prod.fst hrun, hvalue⟩

/-- Every shot that is recorded adds one to the sum of all counts, and nothing is
recorded but what shots show. -/
theorem Ends.recordShots {shot : Sampling ρ String} {Shown : String → Prop}
    (hshot : Ends shot Shown Failure) {shots : Nat} {histogram : Histogram}
    (hshown : ∀ entry ∈ histogram.entries, Shown entry.1)
    (hfits : Histogram.tally (fun _ => true) histogram.entries + shots < UInt64.size) :
    Ends (recordShots shot shots histogram)
      (fun after => Histogram.tally (fun _ => true) after.entries =
          Histogram.tally (fun _ => true) histogram.entries + shots ∧
        ∀ entry ∈ after.entries, Shown entry.1) Failure := by
  induction shots generalizing histogram with
  | zero => exact ends_pure ⟨rfl, hshown⟩
  | succ shots ih =>
      apply hshot.bind
      intro outcome houtcome
      have hone : Histogram.tally (fun _ => true) (histogram.record outcome 1).entries =
          Histogram.tally (fun _ => true) histogram.entries + 1 :=
        Histogram.tally_record (fun _ => true)
          (Nat.lt_of_le_of_lt (Nat.add_le_add_left (Nat.le_add_left 1 shots) _) hfits)
      have hrecorded : ∀ entry ∈ (histogram.record outcome 1).entries, Shown entry.1 := by
        intro entry hentry
        rcases Histogram.upsert_key hentry with heq | ⟨old, hold, heq⟩
        · exact heq ▸ houtcome
        · exact heq ▸ hshown old hold
      have hrest := ih hrecorded (by rw [hone]; omega)
      rw [hone] at hrest
      simpa only [Nat.add_assoc, Nat.add_comm 1] using hrest

/-- So all shots of a run are recorded, and nothing is recorded but what shots show. -/
theorem Ends.recordAll {shot : Sampling ρ String} {Shown : String → Prop}
    (hshot : Ends shot Shown Failure) (shots : UInt32) :
    Ends (Simulator.recordShots shot shots.toNat Histogram.empty)
      (fun histogram => Histogram.tally (fun _ => true) histogram.entries = shots.toNat ∧
        ∀ entry ∈ histogram.entries, Shown entry.1) Failure := by
  have hfits : Histogram.tally (fun _ => true) Histogram.empty.entries + shots.toNat <
      UInt64.size := by
    have hshots : shots.toNat < UInt32.size := shots.toNat_lt_size
    have hsize : UInt32.size < UInt64.size := by decide
    simp only [Histogram.empty, Histogram.tally]
    omega
  refine (hshot.recordShots (by simp [Histogram.empty]) hfits).mono ?_ fun _ h => h
  rintro histogram ⟨htotal, hshown⟩
  refine ⟨?_, hshown⟩
  rw [htotal, Histogram.empty, Histogram.tally, Nat.zero_add]

theorem finalState_eq {α : Type} [Scalar α] (circuit : Circuit) :
    (finalState circuit : Except Error (Register α circuit.wires)) =
      Register.evolved α circuit.wires circuit.operations >>= fun register =>
        register.checkNormalization Register.defaultTolerance >>= fun _ => .ok register := by
  rw [finalState, Register.evolved]
  cases (Register.init circuit.wires : Except Error (Register α circuit.wires)) <;> rfl

/-- The check of the norm may fail, but it never changes the state. -/
theorem evolved_of_finalState {α : Type} [Scalar α] {circuit : Circuit}
    {final : Register α circuit.wires} (h : finalState circuit = .ok final) :
    Register.evolved α circuit.wires circuit.operations = .ok final := by
  rw [finalState_eq] at h
  cases hevolved : Register.evolved α circuit.wires circuit.operations with
  | error failure =>
      rw [hevolved, error_bind] at h
      cases h
  | ok state =>
      rw [hevolved, ok_bind] at h
      cases hcheck : state.checkNormalization Register.defaultTolerance with
      | error failure =>
          rw [hcheck, error_bind] at h
          cases h
      | ok =>
          rw [hcheck, ok_bind] at h
          exact h

theorem runIdeal_of_evolved {α : Type} [Scalar α] [RandomSource ρ] {circuit : Circuit}
    {state : Register α circuit.wires}
    (h : Register.evolved α circuit.wires circuit.operations = .ok state) (shots : Nat) :
    (runIdeal α circuit shots : Sampling ρ Histogram) =
      ofExcept (state.checkNormalization Register.defaultTolerance) >>= fun _ =>
        recordShots (ExceptT.lift (idealShot circuit state.probabilities)) shots
          Histogram.empty := by
  rw [runIdeal, finalState_eq, h, ok_bind]
  cases state.checkNormalization Register.defaultTolerance <;> rfl

theorem run_ideal {α : Type} [Scalar α] (seed entropy : UInt64) (circuit : Circuit)
    (shots : UInt32) :
    run (⟨some seed, none⟩ : Simulator α) entropy circuit shots =
      ((runIdeal α circuit shots.toNat).run.run (KeyStream.ofSeed seed)).1 := rfl

end GateGame.Simulator
