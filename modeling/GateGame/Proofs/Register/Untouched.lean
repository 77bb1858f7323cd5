import GateGame.Proofs.Register.Passages

namespace GateGame

open Function (update)

/-! Players whose value nothing touches. Such a player is zero in every assignment whose
amplitude is not zero, however the other players are entangled. -/

/-- Does not touch the value of a player: no Hadamard, X or Y gate and no swap on the
player, and no controlled-NOT onto it. -/
def Operation.LeavesValue (player : Nat) : Operation Nat → Prop
  | .single .identity _ | .single .pauliZ _ => True
  | .single .pauliX target | .single .pauliY target | .single .hadamard target =>
      target ≠ player
  | .pair .controlledNot _ second => second ≠ player
  | .pair .swap first second => first ≠ player ∧ second ≠ player

instance (player : Nat) : (operation : Operation Nat) → Decidable (operation.LeavesValue player)
  | .single .identity _ | .single .pauliZ _ => inferInstanceAs (Decidable True)
  | .single .pauliX target | .single .pauliY target | .single .hadamard target =>
      inferInstanceAs (Decidable (target ≠ player))
  | .pair .controlledNot _ second => inferInstanceAs (Decidable (second ≠ player))
  | .pair .swap first second => inferInstanceAs (Decidable (first ≠ player ∧ second ≠ player))

/-- All assignments whose amplitude is not zero have the property. -/
def Wave.Within {α : Type} [Scalar α] (property : (Nat → Bool) → Prop) (wave : Wave α) : Prop :=
  ∀ values, wave values ≠ 0 → property values

namespace ExactReading

variable {α : Type} [Scalar α] (reading : ExactReading α) {wave : Wave α}

include reading

/-- An amplitude after a gate on one wire comes from one before it, by an entry of the
matrix that is not zero. -/
theorem exists_of_act_single_ne_zero {gate : SingleGate} {target : Nat} {values : Nat → Bool}
    (h : Operation.act wave (.single gate target) values ≠ 0) :
    ∃ value, (gate.entry (values target) value : Amplitude α) ≠ 0 ∧
      wave (update values target value) ≠ 0 := by
  by_contra hnone
  have hterm (value : Bool) : reading.complex (gate.entry (values target) value) *
      reading.complex (wave (update values target value)) = 0 := by
    rw [mul_eq_zero, complex_eq_zero, complex_eq_zero]
    by_contra hboth
    exact hnone ⟨value, not_or.mp hboth⟩
  apply h
  apply reading.complex_injective
  rw [complex_act_single, hterm, hterm, add_zero, complex_zero]

/-- A player that is zero for certain stays so under all that leaves its value. -/
theorem within_act {player : Nat} {operation : Operation Nat}
    (hleaves : operation.LeavesValue player)
    (h : wave.Within fun values => values player = false) :
    (operation.act wave).Within fun values => values player = false := by
  intro values hne
  cases operation with
  | single gate target =>
      obtain ⟨value, hentry, hwave⟩ := reading.exists_of_act_single_ne_zero hne
      have hvalue : update values target value player = false := h _ hwave
      rcases eq_or_ne target player with rfl | htarget
      · rw [Function.update_self] at hvalue
        subst hvalue
        cases hplayer : values target with
        | false => rfl
        | true =>
            rw [hplayer] at hentry
            cases gate with
            | identity => exact absurd rfl hentry
            | pauliZ => exact absurd rfl hentry
            | pauliX => exact absurd rfl hleaves
            | pauliY => exact absurd rfl hleaves
            | hadamard => exact absurd rfl hleaves
      · rwa [Function.update_of_ne htarget.symm] at hvalue
  | pair gate first second =>
      rw [reading.act_pair] at hne
      have hvalue : Operation.classical values (.pair gate first second) player = false :=
        h _ hne
      cases gate with
      | controlledNot =>
          rwa [Operation.classical, Function.update_of_ne (Ne.symm hleaves)] at hvalue
      | swap =>
          obtain ⟨hfirst, hsecond⟩ := hleaves
          rwa [Operation.classical, Function.update_of_ne hsecond.symm,
            Function.update_of_ne hfirst.symm] at hvalue

theorem within_actAll {player : Nat} {operations : List (Operation Nat)}
    (hleaves : ∀ operation ∈ operations, operation.LeavesValue player)
    (h : wave.Within fun values => values player = false) :
    (Operation.actAll wave operations).Within fun values => values player = false := by
  induction operations generalizing wave with
  | nil => exact h
  | cons operation rest ih =>
      have hnext := reading.within_act (hleaves operation (by simp)) h
      exact ih (fun other hother => hleaves other (by simp [hother])) hnext

end ExactReading

theorem Register.within_zero {α : Type} [Scalar α] {players player : Nat}
    (hplayer : player < players) :
    (Register.zero players : Register α players).wave.Within
      fun values => values player = false := by
  intro values hne
  rw [wave_zero] at hne
  by_contra hvalue
  exact hne (if_neg fun hzero => hvalue (hzero player hplayer))

end GateGame
