import GateGame.Proofs.Circuit.Built
import GateGame.Proofs.Register.Reseating

namespace GateGame.Circuit

/-! Circuits under calls of every kind, in any order and with any arguments. Calls may
be refused, and the next one goes on with what there is. What comes of it can always be
executed, because a circuit and a register refuse the same operations. -/

/-- The calls that change a circuit. -/
inductive Edit where
  | add (operation : Operation Nat)
  | addAll (operations : List (Operation Nat))
  | measure (wire bit : Nat)
  | measureAll

/-- What a call makes of a circuit, and the error if it fails. -/
def edit (circuit : Circuit) : Edit → Circuit × Option Error
  | .add operation => inPlace circuit (circuit.add operation)
  | .addAll operations => circuit.addAll operations
  | .measure wire bit => inPlace circuit (circuit.measure wire bit)
  | .measureAll => (circuit.measureAll, none)

def editAll (circuit : Circuit) (edits : List Edit) : Circuit :=
  edits.foldl (fun circuit edit => (circuit.edit edit).1) circuit

variable {circuit : Circuit}

theorem edit_add (circuit : Circuit) (operation : Operation Nat) :
    (operation.Fits circuit.wires ∧ circuit.edit (.add operation) =
      ({ circuit with operations := circuit.operations ++ [operation] }, none)) ∨
    (¬ operation.Fits circuit.wires ∧ ∃ error,
      circuit.edit (.add operation) = (circuit, some error)) := by
  by_cases hfits : operation.Fits circuit.wires
  · refine .inl ⟨hfits, ?_⟩
    rw [edit, add_of_fits hfits, inPlace]
  · have hrefused := mt (exists_add_iff circuit operation).mp hfits
    exact .inr ⟨hfits, inPlace_of_refused hrefused circuit⟩

theorem edit_measure (circuit : Circuit) (wire bit : Nat) :
    ((wire < circuit.wires ∧ bit < circuit.bits) ∧ circuit.edit (.measure wire bit) =
      ({ circuit with measurements := circuit.measurements ++ [⟨wire, bit⟩] }, none)) ∨
    (¬ (wire < circuit.wires ∧ bit < circuit.bits) ∧ ∃ error,
      circuit.edit (.measure wire bit) = (circuit, some error)) := by
  by_cases hlt : wire < circuit.wires ∧ bit < circuit.bits
  · refine .inl ⟨hlt, ?_⟩
    rw [edit, measure_of_lt hlt.1 hlt.2, inPlace]
  · have hrefused : ¬ ∃ after, circuit.measure wire bit = .ok after := by
      intro haccepted
      obtain ⟨after, hafter⟩ := haccepted
      exact hlt (lt_of_measure hafter)
    exact .inr ⟨hlt, inPlace_of_refused hrefused circuit⟩

/-- All that a call does, whether or not it fails: it appends operations that fit the
wires, and measurements from wires that exist into bits that exist. -/
theorem exists_edit (circuit : Circuit) (edit : Edit) :
    ∃ operations measurements,
      (∀ operation ∈ operations, operation.Fits circuit.wires) ∧
      (∀ measurement ∈ measurements,
        measurement.wire < circuit.wires ∧ measurement.bit < circuit.bits) ∧
      (circuit.edit edit).1 =
        { circuit with
          operations := circuit.operations ++ operations
          measurements := circuit.measurements ++ measurements } := by
  cases edit with
  | add operation =>
      obtain ⟨hfits, hedit⟩ | ⟨-, error, hedit⟩ := edit_add circuit operation
      · exact ⟨[operation], [], by simpa using hfits, by simp, by simp [hedit]⟩
      · exact ⟨[], [], by simp, by simp, by simp [hedit]⟩
  | addAll operations =>
      exact ⟨_, [], circuit.fits_of_mem_accepted operations, by simp, by simp [edit, addAll_eq]⟩
  | measure wire bit =>
      obtain ⟨hlt, hedit⟩ | ⟨-, error, hedit⟩ := edit_measure circuit wire bit
      · exact ⟨[], [⟨wire, bit⟩], by simp, by simpa using hlt, by simp [hedit]⟩
      · exact ⟨[], [], by simp, by simp, by simp [hedit]⟩
  | measureAll =>
      exact ⟨[], _, by simp, circuit.measureAll_lt, by simp [edit, measureAll]⟩

/-- So no sequence of calls changes the registers, and none stores what leaves them. -/
theorem WellFormed.editAll (h : circuit.WellFormed) (edits : List Edit) :
    (circuit.editAll edits).wires = circuit.wires ∧ (circuit.editAll edits).bits = circuit.bits ∧
      (circuit.editAll edits).WellFormed := by
  induction edits generalizing circuit with
  | nil => exact ⟨rfl, rfl, h⟩
  | cons edit rest ih =>
      obtain ⟨operations, measurements, hoperations, hmeasurements, hedit⟩ :=
        exists_edit circuit edit
      have hafter : (circuit.edit edit).1.WellFormed := by
        rw [hedit]
        exact h.append hoperations hmeasurements
      obtain ⟨hwires, hbits, hlast⟩ := ih hafter
      refine ⟨hwires.trans ?_, hbits.trans ?_, hlast⟩ <;> rw [hedit]

theorem edit_add_refused {operation : Operation Nat} {error : Error}
    (h : (circuit.edit (.add operation)).2 = some error) :
    (circuit.edit (.add operation)).1 = circuit := by
  obtain ⟨-, hedit⟩ | ⟨-, other, hedit⟩ := edit_add circuit operation
  · simp [hedit] at h
  · rw [hedit]

theorem edit_measure_refused {wire bit : Nat} {error : Error}
    (h : (circuit.edit (.measure wire bit)).2 = some error) :
    (circuit.edit (.measure wire bit)).1 = circuit := by
  obtain ⟨-, hedit⟩ | ⟨-, other, hedit⟩ := edit_measure circuit wire bit
  · simp [hedit] at h
  · rw [hedit]

/-- Whatever is called on an empty circuit, and whichever calls fail, the registers stay
what they were, every operation fits the wires and every measurement goes from a wire
into a bit that exist. An operation or a measurement that is refused changes nothing. A
register of as many wires refuses the same operations as the circuit, in whatever state
it is, so the circuit can be executed unless it is wider than the simulator allows. -/
theorem editAll_executable (α : Type) [Scalar α] {wires bits : Nat} {edits : List Edit}
    (hedits : (empty wires bits).editAll edits = circuit) :
    (circuit.wires = wires ∧ circuit.bits = bits) ∧
    (∀ operation ∈ circuit.operations, operation.Fits wires) ∧
    (∀ measurement ∈ circuit.measurements,
      measurement.wire < wires ∧ measurement.bit < bits) ∧
    (∀ operation error, (circuit.edit (.add operation)).2 = some error →
      (circuit.edit (.add operation)).1 = circuit) ∧
    (∀ wire bit error, (circuit.edit (.measure wire bit)).2 = some error →
      (circuit.edit (.measure wire bit)).1 = circuit) ∧
    (∀ operation (register : Register α wires), (∃ after, circuit.add operation = .ok after) ↔
      ∃ after, register.apply operation = .ok after) ∧
    (wires ≤ maxWires →
      ∃ state, Register.evolved α wires circuit.operations = .ok state) := by
  obtain ⟨hwires, hbits, hcircuit⟩ := (WellFormed.empty wires bits).editAll edits
  rw [hedits] at hwires hbits hcircuit
  change circuit.wires = wires at hwires
  change circuit.bits = bits at hbits
  subst hwires hbits
  refine ⟨⟨rfl, rfl⟩, hcircuit.operations, hcircuit.measurements, ?_, ?_, ?_, ?_⟩
  · intro operation error
    exact edit_add_refused
  · intro wire bit error
    exact edit_measure_refused
  · intro operation register
    rw [exists_add_iff, Register.exists_apply_iff]
  · intro hnarrow
    obtain ⟨state, hstate, -⟩ := Register.evolved_of_fits α hnarrow hcircuit.operations
    exact ⟨state, hstate⟩

/-- The first gate of a list is kept when the second is refused, and so is what was
there before a measurement into a bit that does not exist. -/
theorem editAll_executable_after_refusals :
    (empty 2 1).editAll [.addAll [.single .hadamard 0, .pair .swap 1 1, .single .pauliX 1],
        .add (.single .pauliZ 2), .measure 1 1, .measureAll, .add (.pair .controlledNot 1 0)] =
      ⟨2, 1, [.single .hadamard 0, .pair .controlledNot 1 0], [⟨0, 0⟩]⟩ ∧
    ∃ state, Register.evolved Float 2 [.single .hadamard 0, .pair .controlledNot 1 0] =
      .ok state := by
  have hedits : (empty 2 1).editAll
      [.addAll [.single .hadamard 0, .pair .swap 1 1, .single .pauliX 1],
        .add (.single .pauliZ 2), .measure 1 1, .measureAll, .add (.pair .controlledNot 1 0)] =
      ⟨2, 1, [.single .hadamard 0, .pair .controlledNot 1 0], [⟨0, 0⟩]⟩ := rfl
  obtain ⟨-, -, -, -, -, -, hexecutable⟩ := editAll_executable Float hedits
  exact ⟨hedits, hexecutable (by decide)⟩

end GateGame.Circuit
