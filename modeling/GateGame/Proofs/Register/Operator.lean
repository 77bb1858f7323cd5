import GateGame.Decimal.Double
import GateGame.Proofs.Amplitude.Complex
import GateGame.Proofs.Register.Wave
import Mathlib.LinearAlgebra.Matrix.Notation

namespace GateGame

open Function (update)

/-! The matrices of the gates, and the linear operators that they stand for on a whole
register: a row of the matrix goes to the old amplitudes of the basis states that differ
in the operands alone. -/

section Matrices

variable {α : Type} [Scalar α]

/-- Rows and columns are numbered by the value of the wire. -/
def SingleGate.matrix : SingleGate → Matrix (Fin 2) (Fin 2) (Amplitude α)
  | .hadamard => !![.ofScalar Scalar.invSqrt2, .ofScalar Scalar.invSqrt2;
      .ofScalar Scalar.invSqrt2, .ofScalar (-Scalar.invSqrt2)]
  | .identity => !![1, 0; 0, 1]
  | .pauliX => !![0, 1; 1, 0]
  | .pauliY => !![0, -.i; .i, 0]
  | .pauliZ => !![1, 0; 0, -1]

/-- Rows and columns are numbered by the values of the wires, twice the first and the
second. -/
def PairGate.matrix : PairGate → Matrix (Fin 4) (Fin 4) (Amplitude α)
  | .controlledNot => !![1, 0, 0, 0; 0, 1, 0, 0; 0, 0, 0, 1; 0, 0, 1, 0]
  | .swap => !![1, 0, 0, 0; 0, 0, 1, 0; 0, 1, 0, 0; 0, 0, 0, 1]

namespace Operation

/-- An entry of the matrix of a gate. -/
def entry : Operation Nat → (row column : Nat) → Amplitude α
  | .single gate _, row, column => gate.matrix (Fin.ofNat 2 row) (Fin.ofNat 2 column)
  | .pair gate _ _, row, column => gate.matrix (Fin.ofNat 4 row) (Fin.ofNat 4 column)

/-- A row of the matrix of a gate applied to amplitudes, as it is added up. -/
def rowSum (operation : Operation Nat) (row : Nat) (a : Nat → Amplitude α) : Amplitude α :=
  match operation with
  | .single _ _ => operation.entry row 0 * a 0 + operation.entry row 1 * a 1
  | .pair _ _ _ => 0 + operation.entry row 0 * a 0 + operation.entry row 1 * a 1 +
      operation.entry row 2 * a 2 + operation.entry row 3 * a 3

theorem entry_single (gate : SingleGate) (target : Nat) (row column : Bool) :
    (single gate target).entry row.toNat column.toNat =
      (gate.entry row column : Amplitude α) := by
  cases gate <;> cases row <;> cases column <;> rfl

theorem entry_pair (gate : PairGate) (first second : Nat) (row column : Bool × Bool) :
    (pair gate first second).entry (2 * row.1.toNat + row.2.toNat)
        (2 * column.1.toNat + column.2.toNat) =
      (gate.entry row column : Amplitude α) := by
  obtain ⟨_ | _, _ | _⟩ := row <;> obtain ⟨_ | _, _ | _⟩ := column <;> cases gate <;> rfl

end Operation

end Matrices

namespace Operation

/-- The number of the row or column that a basis state selects by its operands, the first
one being the most significant. -/
def code (operation : Operation Nat) (index : Nat) : Nat :=
  operation.operands.foldl (fun code wire => 2 * code + (index.testBit wire).toNat) 0

@[simp] theorem code_single (gate : SingleGate) (target index : Nat) :
    (single gate target).code index = (index.testBit target).toNat := by
  simp [code, operands]

@[simp] theorem code_pair (gate : PairGate) (first second index : Nat) :
    (pair gate first second).code index =
      2 * (index.testBit first).toNat + (index.testBit second).toNat := by
  simp [code, operands]

/-- Two basis states agree on all wires but the operands. -/
def AgreeElsewhere (wires : Nat) (operation : Operation Nat) (index other : Nat) : Prop :=
  ∀ wire < wires, wire ∉ operation.operands → other.testBit wire = index.testBit wire

instance (wires : Nat) (operation : Operation Nat) (index : Nat) :
    DecidablePred (operation.AgreeElsewhere wires index) :=
  fun other => inferInstanceAs (Decidable (∀ wire < wires, wire ∉ operation.operands →
    other.testBit wire = index.testBit wire))

/-- The values of the wires once the operands take those that a column stands for. -/
def assign : Operation Nat → (values : Nat → Bool) → (column : Nat) → Nat → Bool
  | .single _ target, values, column => update values target (column.testBit 0)
  | .pair _ first second, values, column =>
      update (update values first (column.testBit 1)) second (column.testBit 0)

/-- The basis state that agrees with another one on all wires but the operands, where it
selects the column given. -/
def source (wires : Nat) (operation : Operation Nat) (index column : Nat) : Nat :=
  basisIndex wires (operation.assign index.testBit column)

variable {wires index column : Nat} {operation : Operation Nat}

theorem code_lt (operation : Operation Nat) (index : Nat) :
    operation.code index < 2 ^ operation.operands.length := by
  cases operation with
  | single gate target =>
      have htarget := (index.testBit target).toNat_lt
      simpa [operands] using htarget
  | pair gate first second =>
      have hfirst := (index.testBit first).toNat_lt
      have hsecond := (index.testBit second).toNat_lt
      simp only [code_pair, operands, List.length_cons, List.length_nil]
      omega

theorem assign_of_not_mem {wire : Nat} (h : wire ∉ operation.operands) (values : Nat → Bool)
    (column : Nat) : operation.assign values column wire = values wire := by
  cases operation with
  | single gate target =>
      have hne : wire ≠ target := by simpa [operands] using h
      exact Function.update_of_ne hne ..
  | pair gate first second =>
      obtain ⟨hfirst, hsecond⟩ : wire ≠ first ∧ wire ≠ second := by simpa [operands] using h
      rw [assign, Function.update_of_ne hsecond, Function.update_of_ne hfirst]

theorem testBit_twice_add (a b : Bool) :
    (2 * a.toNat + b.toNat).testBit 1 = a ∧ (2 * a.toNat + b.toNat).testBit 0 = b := by
  cases a <;> cases b <;> decide

theorem assign_code (h : operation.operands.Nodup) (values : Nat → Bool) (other : Nat)
    {wire : Nat} (hwire : wire ∈ operation.operands) :
    operation.assign values (operation.code other) wire = other.testBit wire := by
  cases operation with
  | single gate target =>
      obtain rfl : wire = target := by simpa [operands] using hwire
      cases hvalue : other.testBit wire <;> simp [assign, hvalue]
  | pair gate first second =>
      have hne : first ≠ second := by simpa [operands] using h
      obtain ⟨htwos, hones⟩ :=
        testBit_twice_add (other.testBit first) (other.testBit second)
      rw [assign, code_pair, htwos, hones]
      obtain rfl | rfl : wire = first ∨ wire = second := by simpa [operands] using hwire
      · rw [Function.update_of_ne hne, Function.update_self]
      · rw [Function.update_self]

theorem code_source (h : operation.Fits wires) (index : Nat)
    (hcolumn : column < 2 ^ operation.operands.length) :
    operation.code (operation.source wires index column) = column := by
  cases operation with
  | single gate target =>
      have htarget := fits_single.mp h
      change column < 2 at hcolumn
      rw [code_single, source, testBit_basisIndex_of_lt htarget, assign, Function.update_self]
      interval_cases column <;> rfl
  | pair gate first second =>
      obtain ⟨hfirst, hsecond, hne⟩ := fits_pair.mp h
      change column < 4 at hcolumn
      rw [code_pair, source, testBit_basisIndex_of_lt hfirst, testBit_basisIndex_of_lt hsecond,
        assign, Function.update_of_ne hne, Function.update_self, Function.update_self]
      interval_cases column <;> rfl

/-- There is exactly one such basis state. -/
theorem eq_source_iff (h : operation.Fits wires)
    (hcolumn : column < 2 ^ operation.operands.length) (other : Nat) :
    other = operation.source wires index column ↔
      other < basisSize wires ∧ operation.AgreeElsewhere wires index other ∧
        operation.code other = column := by
  constructor
  · intro heq
    subst heq
    refine ⟨basisIndex_lt .., ?_, code_source h index hcolumn⟩
    intro wire hwire hnot
    rw [source, testBit_basisIndex_of_lt hwire, assign_of_not_mem hnot]
  · intro ⟨hlt, hagree, hcode⟩
    rw [← basisIndex_testBit hlt, source, basisIndex_eq_iff, ← hcode]
    intro wire hwire
    by_cases hmem : wire ∈ operation.operands
    · rw [assign_code h.2 _ other hmem]
    · rw [assign_of_not_mem hmem, hagree wire hwire hmem]

end Operation

namespace Register

variable {α : Type} [Scalar α] {wires : Nat}

/-- The new amplitude of a basis state is a row of the matrix applied to the old ones. -/
theorem amplitude_apply {register after : Register α wires} {operation : Operation Nat}
    (h : register.apply operation = .ok after) {index : Nat} (hindex : index < basisSize wires) :
    after.amplitude index = operation.rowSum (operation.code index)
      fun column => register.amplitude (operation.source wires index column) := by
  rw [amplitude_eq_wave hindex, wave_of_apply h]
  cases operation with
  | single gate target =>
      rw [Operation.code_single]
      simp only [Operation.act, ← Operation.entry_single gate target]
      rfl
  | pair gate first second =>
      rw [Operation.code_pair]
      simp only [Operation.act, ← Operation.entry_pair gate first second]
      rfl

end Register

namespace ExactReading

variable {α : Type} [Scalar α] (reading : ExactReading α) {wires : Nat}

theorem complex_rowSum (operation : Operation Nat) (row : Nat) (a : Nat → Amplitude α) :
    reading.complex (operation.rowSum row a) =
      ∑ column ∈ Finset.range (2 ^ operation.operands.length),
        reading.complex (operation.entry row column) * reading.complex (a column) := by
  cases operation <;>
    simp [Operation.rowSum, Operation.operands, Finset.sum_range_succ]

/-- Read as complex numbers, the basis states from which a row of the matrix is fed are
those that agree with its own on all wires but the operands. -/
theorem complex_apply {register after : Register α wires} {operation : Operation Nat}
    (h : register.apply operation = .ok after) {index : Nat} (hindex : index < basisSize wires) :
    reading.complex (after.amplitude index) =
      ∑ other ∈ (Finset.range (basisSize wires)).filter (operation.AgreeElsewhere wires index),
        reading.complex (operation.entry (operation.code index) (operation.code other)) *
          reading.complex (register.amplitude other) := by
  have hfits := Register.fits_of_apply h
  have hsource {column : Nat}
      (hcolumn : column ∈ Finset.range (2 ^ operation.operands.length)) :=
    (Operation.eq_source_iff hfits (Finset.mem_range.mp hcolumn) _).mp
      (rfl : operation.source wires index column = operation.source wires index column)
  rw [Register.amplitude_apply h hindex, complex_rowSum]
  refine Finset.sum_nbij' (operation.source wires index) operation.code ?_ ?_ ?_ ?_ ?_
  · intro column hcolumn
    obtain ⟨hlt, hagree, -⟩ := hsource hcolumn
    exact Finset.mem_filter.mpr ⟨Finset.mem_range.mpr hlt, hagree⟩
  · intro other _
    exact Finset.mem_range.mpr (operation.code_lt other)
  · intro column hcolumn
    exact (hsource hcolumn).2.2
  · intro other hother
    obtain ⟨hlt, hagree⟩ := Finset.mem_filter.mp hother
    exact ((Operation.eq_source_iff hfits (operation.code_lt other) other).mpr
      ⟨Finset.mem_range.mp hlt, hagree, rfl⟩).symm
  · intro column hcolumn
    rw [(hsource hcolumn).2.2]

end ExactReading

namespace Register

variable {α : Type} [Scalar α] {wires : Nat}

/-- The register that a gate leaves, and the error if it is refused. -/
def perform (register : Register α wires) (operation : Operation Nat) :
    Register α wires × Option Error :=
  inPlace register (register.apply operation)

/-- An operation is carried out exactly when its operands are wires of the register and
none is given twice; otherwise it is refused and the register stays what it was. Once it
is carried out, every amplitude is a row of the matrix of the gate applied to old
amplitudes. The basis state selects the row by its operands; each column goes to the one
basis state that selects it by its operands and agrees on all other wires. In exact
arithmetic this is the sum over all basis states that agree on the other wires. -/
theorem perform_matrix (register : Register α wires) (operation : Operation Nat) :
    ((∀ wire ∈ operation.operands, wire < wires) ∧ operation.operands.Nodup →
      ∃ after, register.perform operation = (after, none) ∧
        ∀ index < basisSize wires,
          (∃ source : Nat → Nat,
            (∀ column < 2 ^ operation.operands.length, ∀ other, other = source column ↔
              other < basisSize wires ∧ operation.AgreeElsewhere wires index other ∧
                operation.code other = column) ∧
            after.amplitude index = operation.rowSum (operation.code index)
              fun column => register.amplitude (source column)) ∧
          ∀ reading : ExactReading α, reading.complex (after.amplitude index) =
            ∑ other ∈ (Finset.range (basisSize wires)).filter
                (operation.AgreeElsewhere wires index),
              reading.complex (operation.entry (operation.code index) (operation.code other)) *
                reading.complex (register.amplitude other)) ∧
    (¬ ((∀ wire ∈ operation.operands, wire < wires) ∧ operation.operands.Nodup) →
      ∃ error, register.perform operation = (register, some error)) := by
  constructor
  · intro hfits
    obtain ⟨after, hafter⟩ := (exists_apply_iff register operation).mpr hfits
    refine ⟨after, by rw [perform, hafter, inPlace], ?_⟩
    intro index hindex
    refine ⟨⟨operation.source wires index, ?_, amplitude_apply hafter hindex⟩, ?_⟩
    · intro column hcolumn other
      exact Operation.eq_source_iff hfits hcolumn other
    · intro reading
      exact reading.complex_apply hafter hindex
  · intro hunfit
    have hrefused := mt (exists_apply_iff register operation).mp hunfit
    exact inPlace_of_refused hrefused register

/-- Of the wires of a controlled-NOT the lower one may control the higher one; then the
columns do not go to the basis states in the order of their numbers. -/
theorem perform_matrix_low_control :
    (∃ after,
      (⟨#v[0, 1, .i, -1]⟩ : Register Float 2).perform (.pair .controlledNot 0 1) =
        (after, none) ∧
      after.amplitude 1 = 0 + 0 * 0 + 0 * .i + 0 * 1 + 1 * -1) ∧
    ∃ error, (⟨#v[0, 1, .i, -1]⟩ : Register Float 2).perform (.pair .swap 1 1) =
      (⟨#v[0, 1, .i, -1]⟩, some error) := by
  let register : Register Float 2 := ⟨#v[0, 1, .i, -1]⟩
  constructor
  · obtain ⟨after, hafter, hvalue⟩ :=
      (perform_matrix register (.pair .controlledNot 0 1)).1 (by decide)
    obtain ⟨⟨source, hsource, hsum⟩, -⟩ := hvalue 1 (by decide)
    have hzero : 0 = source 0 := (hsource 0 (by decide) 0).mpr (by decide)
    have hone : 2 = source 1 := (hsource 1 (by decide) 2).mpr (by decide)
    have htwo : 1 = source 2 := (hsource 2 (by decide) 1).mpr (by decide)
    have hthree : 3 = source 3 := (hsource 3 (by decide) 3).mpr (by decide)
    refine ⟨after, hafter, ?_⟩
    rw [hsum, Operation.rowSum, ← hzero, ← hone, ← htwo, ← hthree]
    rfl
  · exact (perform_matrix register (.pair .swap 1 1)).2 (by decide)

end Register

end GateGame
