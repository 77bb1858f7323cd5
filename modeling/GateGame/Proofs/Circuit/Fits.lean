import GateGame.Circuit.Basic
import GateGame.Proofs.Except

namespace GateGame

/-! Which operations a register of so many wires can carry out, said of the
operation alone. They pass the checks that a circuit makes before it takes one. -/

namespace Operation

/-- All operands are wires of the register, and no two of them are the same. -/
def Fits (wires : Nat) (operation : Operation Nat) : Prop :=
  (∀ wire ∈ operation.operands, wire < wires) ∧ operation.operands.Nodup

@[simp] theorem fits_single {wires : Nat} {gate : SingleGate} {target : Nat} :
    (single gate target).Fits wires ↔ target < wires := by
  simp [Fits, operands]

@[simp] theorem fits_pair {wires : Nat} {gate : PairGate} {first second : Nat} :
    (pair gate first second).Fits wires ↔
      first < wires ∧ second < wires ∧ first ≠ second := by
  simp [Fits, operands, and_assoc]

theorem Fits.map {wires wires' : Nat} {operation : Operation Nat} {f : Nat → Nat}
    (h : operation.Fits wires) (hlt : ∀ wire < wires, f wire < wires')
    (hinj : ∀ wire < wires, ∀ other < wires, f wire = f other → wire = other) :
    (operation.map f).Fits wires' := by
  cases operation with
  | single gate target => exact fits_single.mpr (hlt target (fits_single.mp h))
  | pair gate first second =>
      obtain ⟨hfirst, hsecond, hne⟩ := fits_pair.mp h
      refine fits_pair.mpr ⟨hlt first hfirst, hlt second hsecond, ?_⟩
      exact fun heq => hne (hinj first hfirst second hsecond heq)

end Operation

namespace Circuit

theorem checkWire_of_lt {wires wire : Nat} (h : wire < wires) :
    checkWire wires wire = .ok () :=
  if_pos h

theorem lt_of_checkWire {wires wire : Nat} (h : checkWire wires wire = .ok ()) :
    wire < wires := by
  rcases Nat.lt_or_ge wire wires with hlt | hge
  · exact hlt
  · simp [checkWire, Nat.not_lt.mpr hge] at h

theorem checkOperation_of_fits {wires : Nat} {operation : Operation Nat}
    (h : operation.Fits wires) : checkOperation wires operation = .ok () := by
  cases operation with
  | single gate target => exact checkWire_of_lt (Operation.fits_single.mp h)
  | pair gate first second =>
      obtain ⟨hfirst, hsecond, hne⟩ := Operation.fits_pair.mp h
      simp only [checkOperation, checkWire_of_lt hfirst, checkWire_of_lt hsecond,
        if_neg hne, ok_bind]

theorem fits_of_checkOperation {wires : Nat} {operation : Operation Nat}
    (h : checkOperation wires operation = .ok ()) : operation.Fits wires := by
  cases operation with
  | single gate target => exact Operation.fits_single.mpr (lt_of_checkWire h)
  | pair gate first second =>
      cases hfirst : checkWire wires first with
      | error error => simp [checkOperation, hfirst] at h
      | ok =>
          cases hsecond : checkWire wires second with
          | error error => simp [checkOperation, hfirst, hsecond] at h
          | ok =>
              refine Operation.fits_pair.mpr ⟨lt_of_checkWire hfirst, lt_of_checkWire hsecond, ?_⟩
              rintro rfl
              simp [checkOperation, hfirst] at h

theorem add_of_fits {circuit : Circuit} {operation : Operation Nat}
    (h : operation.Fits circuit.wires) :
    circuit.add operation =
      .ok { circuit with operations := circuit.operations ++ [operation] } := by
  rw [add, checkOperation_of_fits h, ok_bind]
  rfl

variable {circuit after : Circuit} {operation : Operation Nat}

theorem fits_of_add (h : circuit.add operation = .ok after) : operation.Fits circuit.wires := by
  cases hcheck : checkOperation circuit.wires operation with
  | error error =>
      rw [add, hcheck, error_bind] at h
      cases h
  | ok => exact fits_of_checkOperation hcheck

theorem eq_of_add (h : circuit.add operation = .ok after) :
    after = { circuit with operations := circuit.operations ++ [operation] } :=
  (Except.ok.inj ((add_of_fits (fits_of_add h)).symm.trans h)).symm

/-- A circuit takes the operations that fit its wires, whatever it holds already. -/
theorem exists_add_iff (circuit : Circuit) (operation : Operation Nat) :
    (∃ after, circuit.add operation = .ok after) ↔ operation.Fits circuit.wires := by
  constructor
  · rintro ⟨after, hafter⟩
    exact fits_of_add hafter
  · intro hfits
    exact ⟨_, add_of_fits hfits⟩

end Circuit

end GateGame
