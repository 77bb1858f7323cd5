import GateGame.Proofs.Amplitude.Complex
import GateGame.Proofs.Register.Classical

namespace GateGame

open Function (update)

/-! Passages of operations that do the same to every state, entangled or not. The
arithmetic has to be exact, since some of them come back to a state by way of another. -/

namespace ExactReading

variable {α : Type} [Scalar α] (reading : ExactReading α)

theorem complex_act_single (wave : Wave α) (gate : SingleGate) (target : Nat)
    (values : Nat → Bool) :
    reading.complex (Operation.act wave (.single gate target) values) =
      reading.complex (gate.entry (values target) false) *
          reading.complex (wave (update values target false)) +
        reading.complex (gate.entry (values target) true) *
          reading.complex (wave (update values target true)) := by
  rw [Operation.act, complex_add, complex_mul, complex_mul]

/-- The matrix of a gate on one wire is its own inverse. -/
theorem complex_entry_square (gate : SingleGate) (row column : Bool) :
    reading.complex (gate.entry row false) * reading.complex (gate.entry false column) +
        reading.complex (gate.entry row true) * reading.complex (gate.entry true column) =
      if row = column then 1 else 0 := by
  have hhalf := reading.complex_invSqrt2
  cases gate <;> cases row <;> cases column <;>
    simp [SingleGate.entry, reading.value_neg]
  all_goals linear_combination hhalf

include reading

theorem act_identity (wave : Wave α) (target : Nat) :
    Operation.act wave (.single .identity target) = wave := by
  funext values
  apply reading.complex_injective
  rw [complex_act_single]
  have hself := Function.update_eq_self target values
  cases hvalue : values target <;> rw [hvalue] at hself <;> simp [SingleGate.entry, hself]

/-- Every gate on one wire undoes itself. -/
theorem act_single_twice (wave : Wave α) (gate : SingleGate) (target : Nat) :
    Operation.act (Operation.act wave (.single gate target)) (.single gate target) = wave := by
  funext values
  apply reading.complex_injective
  let entry (row column : Bool) : ℂ := reading.complex (gate.entry row column)
  let moved (value : Bool) : ℂ := reading.complex (wave (update values target value))
  have hself := Function.update_eq_self target values
  simp only [complex_act_single, Function.update_self, Function.update_idem]
  calc
    _ = (entry (values target) false * entry false false +
            entry (values target) true * entry true false) * moved false +
          (entry (values target) false * entry false true +
            entry (values target) true * entry true true) * moved true := by ring
    _ = (if values target = false then 1 else 0) * moved false +
          (if values target = true then 1 else 0) * moved true := by
      rw [reading.complex_entry_square, reading.complex_entry_square]
    _ = reading.complex (wave values) := by
      cases hvalue : values target <;> rw [hvalue] at hself <;> simp [moved, hself]

/-- A gate on two wires moves amplitudes and changes none of them. -/
theorem act_pair (wave : Wave α) (gate : PairGate) (first second : Nat) :
    Operation.act wave (.pair gate first second) =
      fun values => wave (Operation.classical values (.pair gate first second)) := by
  funext values
  rw [PairGate.classical_eq]
  apply reading.complex_injective
  cases gate <;> cases hfirst : values first <;> cases hsecond : values second <;>
    simp [Operation.act, Register.quadValues, PairGate.entry, PairGate.image, hfirst, hsecond]

theorem act_pair_twice (wave : Wave α) (gate : PairGate) {first second : Nat}
    (hne : first ≠ second) :
    Operation.act (Operation.act wave (.pair gate first second)) (.pair gate first second) =
      wave := by
  funext values
  have hfits : (Operation.pair gate first second).Fits (max first second + 1) :=
    Operation.fits_pair.mpr ⟨by omega, by omega, hne⟩
  simp only [reading.act_pair, Operation.classical_classical hfits]

/-- A swap is three controlled-NOTs. -/
theorem act_swap (wave : Wave α) {first second : Nat} (hne : first ≠ second) :
    Operation.act wave (.pair .swap first second) =
      Operation.actAll wave [.pair .controlledNot first second,
        .pair .controlledNot second first, .pair .controlledNot first second] := by
  funext values
  simp only [Operation.actAll, List.foldl_cons, List.foldl_nil, reading.act_pair]
  congr 1
  funext wire
  rcases eq_or_ne wire first with rfl | hfirst
  · cases hvalue : values wire <;> cases hother : values second <;>
      simp [Operation.classical, hne, hne.symm, hvalue, hother]
  · rcases eq_or_ne wire second with rfl | hsecond
    · cases hvalue : values wire <;> cases hother : values first <;>
        simp [Operation.classical, hne, hne.symm, hvalue, hother]
    · simp [Operation.classical, hfirst, hsecond]

theorem act_swap_symm (wave : Wave α) {first second : Nat} (hne : first ≠ second) :
    Operation.act wave (.pair .swap first second) =
      Operation.act wave (.pair .swap second first) := by
  rw [reading.act_pair, reading.act_pair]
  funext values
  simp only [Operation.classical, Function.update_comm hne]

/-- The amplitude of the assignment in which two wires have the values given. -/
def cell (values : Nat → Bool) (first second : Nat) (wave : Wave α) (a b : Bool) : ℂ :=
  reading.complex (wave (update (update values first a) second b))

theorem cell_single_first (values : Nat → Bool) {first second : Nat} (hne : first ≠ second)
    (wave : Wave α) (gate : SingleGate) (a b : Bool) :
    reading.cell values first second (Operation.act wave (.single gate first)) a b =
      reading.complex (gate.entry a false) * reading.cell values first second wave false b +
        reading.complex (gate.entry a true) * reading.cell values first second wave true b := by
  simp only [cell, complex_act_single, Function.update_comm hne, Function.update_self,
    Function.update_idem]

theorem cell_single_second (values : Nat → Bool) (first second : Nat)
    (wave : Wave α) (gate : SingleGate) (a b : Bool) :
    reading.cell values first second (Operation.act wave (.single gate second)) a b =
      reading.complex (gate.entry b false) * reading.cell values first second wave a false +
        reading.complex (gate.entry b true) * reading.cell values first second wave a true := by
  simp only [cell, complex_act_single, Function.update_self, Function.update_idem]

theorem cell_controlledNot (values : Nat → Bool) {first second : Nat} (hne : first ≠ second)
    (wave : Wave α) (a b : Bool) :
    reading.cell values first second
        (Operation.act wave (.pair .controlledNot first second)) a b =
      reading.cell values first second wave a (b ^^ a) := by
  simp only [cell, reading.act_pair, Operation.classical, Function.update_self,
    Function.update_idem, Function.update_of_ne hne]

theorem cell_controlledNot_symm (values : Nat → Bool) {first second : Nat} (hne : first ≠ second)
    (wave : Wave α) (a b : Bool) :
    reading.cell values first second
        (Operation.act wave (.pair .controlledNot second first)) a b =
      reading.cell values first second wave (a ^^ b) b := by
  simp only [cell, reading.act_pair, Operation.classical, Function.update_self,
    Function.update_comm hne, Function.update_idem, Function.update_of_ne hne.symm]

/-- Hadamard gates on both wires turn a controlled-NOT around. -/
theorem act_controlledNot_symm (wave : Wave α) {first second : Nat} (hne : first ≠ second) :
    Operation.act wave (.pair .controlledNot second first) =
      Operation.actAll wave [.single .hadamard first, .single .hadamard second,
        .pair .controlledNot first second, .single .hadamard first,
        .single .hadamard second] := by
  have hhalf := reading.complex_invSqrt2
  funext values
  apply reading.complex_injective
  have hcell (wave : Wave α) : reading.complex (wave values) =
      reading.cell values first second wave (values first) (values second) := by
    rw [cell, Function.update_eq_self, Function.update_eq_self]
  rw [hcell, hcell]
  simp only [Operation.actAll, List.foldl_cons, List.foldl_nil, reading.cell_single_first _ hne,
    reading.cell_single_second, reading.cell_controlledNot _ hne,
    reading.cell_controlledNot_symm _ hne]
  generalize reading.cell values first second wave = c
  generalize values first = a
  generalize values second = b
  let s : ℂ := reading.value Scalar.invSqrt2
  cases a <;> cases b <;>
    simp only [SingleGate.entry, complex_ofScalar, reading.value_neg, Complex.ofReal_neg,
      Bool.xor_false, Bool.xor_true, Bool.not_false, Bool.not_true]
  · linear_combination -(2 * s * s + 1) * c false false * hhalf
  · linear_combination -(2 * s * s + 1) * c true true * hhalf
  · linear_combination -(2 * s * s + 1) * c true false * hhalf
  · linear_combination -(2 * s * s + 1) * c false true * hhalf

end ExactReading

/-- Passages that can be exchanged for each other, on so many wires. -/
inductive Interchangeable (wires : Nat) : List (Operation Nat) → List (Operation Nat) → Prop
  | identity {target : Nat} (htarget : target < wires) :
      Interchangeable wires [.single .identity target] []
  | single_twice (gate : SingleGate) {target : Nat} (htarget : target < wires) :
      Interchangeable wires [.single gate target, .single gate target] []
  | pair_twice (gate : PairGate) {first second : Nat} (hfirst : first < wires)
      (hsecond : second < wires) (hne : first ≠ second) :
      Interchangeable wires [.pair gate first second, .pair gate first second] []
  | swap {first second : Nat} (hfirst : first < wires) (hsecond : second < wires)
      (hne : first ≠ second) :
      Interchangeable wires [.pair .swap first second]
        [.pair .controlledNot first second, .pair .controlledNot second first,
          .pair .controlledNot first second]
  | swap_symm {first second : Nat} (hfirst : first < wires) (hsecond : second < wires)
      (hne : first ≠ second) :
      Interchangeable wires [.pair .swap first second] [.pair .swap second first]
  | controlledNot_symm {first second : Nat} (hfirst : first < wires) (hsecond : second < wires)
      (hne : first ≠ second) :
      Interchangeable wires [.pair .controlledNot second first]
        [.single .hadamard first, .single .hadamard second, .pair .controlledNot first second,
          .single .hadamard first, .single .hadamard second]

namespace Interchangeable

variable {wires : Nat} {passage passage' : List (Operation Nat)}

theorem fits (h : Interchangeable wires passage passage') :
    (∀ operation ∈ passage, operation.Fits wires) ∧
      ∀ operation ∈ passage', operation.Fits wires := by
  cases h with
  | identity htarget => simp [htarget]
  | single_twice gate htarget => simp [htarget]
  | pair_twice gate hfirst hsecond hne => simp [hfirst, hsecond, hne]
  | swap hfirst hsecond hne => simp [hfirst, hsecond, hne, hne.symm]
  | swap_symm hfirst hsecond hne => simp [hfirst, hsecond, hne, hne.symm]
  | controlledNot_symm hfirst hsecond hne => simp [hfirst, hsecond, hne, hne.symm]

variable {α : Type} [Scalar α]

theorem actAll_eq (h : Interchangeable wires passage passage') (reading : ExactReading α)
    (wave : Wave α) : Operation.actAll wave passage = Operation.actAll wave passage' := by
  cases h with
  | identity => exact reading.act_identity wave _
  | single_twice gate => exact reading.act_single_twice wave gate _
  | pair_twice gate _ _ hne => exact reading.act_pair_twice wave gate hne
  | swap _ _ hne => exact reading.act_swap wave hne
  | swap_symm _ _ hne => exact reading.act_swap_symm wave hne
  | controlledNot_symm _ _ hne => exact reading.act_controlledNot_symm wave hne

/-- Exchanging a passage changes no state, whatever comes before and after it. -/
theorem actAll_insert (h : Interchangeable wires passage passage') (reading : ExactReading α)
    (wave : Wave α) (before after : List (Operation Nat)) :
    Operation.actAll wave (before ++ passage ++ after) =
      Operation.actAll wave (before ++ passage' ++ after) := by
  have hpassage := h.actAll_eq reading (Operation.actAll wave before)
  simp only [Operation.actAll, List.foldl_append] at hpassage ⊢
  rw [hpassage]

end Interchangeable

end GateGame
