import GateGame.Proofs.Circuit.Additions

namespace GateGame.Circuit

/-! Circuits as they can be built. Whatever is added or measured, and whether or not
it is refused, what a circuit holds stays within its registers. -/

/-- The circuits that can be built: an empty one, what adding and measuring make of a
built one, and what a draft becomes. -/
inductive Built : Circuit → Prop
  | empty (wires bits : Nat) : Built (empty wires bits)
  | add {circuit after : Circuit} {operation : Operation Nat} (built : Built circuit)
      (added : circuit.add operation = .ok after) : Built after
  | addAll {circuit : Circuit} (built : Built circuit) (operations : List (Operation Nat)) :
      Built (circuit.addAll operations).1
  | measure {circuit after : Circuit} {wire bit : Nat} (built : Built circuit)
      (measured : circuit.measure wire bit = .ok after) : Built after
  | measureAll {circuit : Circuit} (built : Built circuit) : Built circuit.measureAll
  | draft {draft : Draft} {circuit : Circuit} (built : draft.build = .ok circuit) :
      Built circuit

theorem measure_of_lt {circuit : Circuit} {wire bit : Nat} (hwire : wire < circuit.wires)
    (hbit : bit < circuit.bits) :
    circuit.measure wire bit =
      .ok { circuit with measurements := circuit.measurements ++ [⟨wire, bit⟩] } := by
  rw [measure, checkWire_of_lt hwire, ok_bind, if_pos hbit]
  rfl

theorem lt_of_measure {circuit after : Circuit} {wire bit : Nat}
    (h : circuit.measure wire bit = .ok after) : wire < circuit.wires ∧ bit < circuit.bits := by
  cases hwire : checkWire circuit.wires wire with
  | error error => simp [measure, hwire] at h
  | ok =>
      by_cases hbit : bit < circuit.bits
      · exact ⟨lt_of_checkWire hwire, hbit⟩
      · simp [measure, hwire, hbit] at h

theorem eq_of_measure {circuit after : Circuit} {wire bit : Nat}
    (h : circuit.measure wire bit = .ok after) :
    after = { circuit with measurements := circuit.measurements ++ [⟨wire, bit⟩] } := by
  obtain ⟨hwire, hbit⟩ := lt_of_measure h
  exact (Except.ok.inj ((measure_of_lt hwire hbit).symm.trans h)).symm

theorem measureAll_lt (circuit : Circuit) :
    ∀ measurement ∈ (List.range (min circuit.wires circuit.bits)).map
        fun k => (⟨k, k⟩ : Measurement),
      measurement.wire < circuit.wires ∧ measurement.bit < circuit.bits := by
  intro measurement hmem
  obtain ⟨k, hk, rfl⟩ := List.mem_map.mp hmem
  exact Nat.lt_min.mp (List.mem_range.mp hk)

/-- The operations fit the wires, and the measurements go from wires that exist into
bits that exist. -/
structure WellFormed (circuit : Circuit) : Prop where
  operations : ∀ operation ∈ circuit.operations, operation.Fits circuit.wires
  measurements : ∀ measurement ∈ circuit.measurements,
    measurement.wire < circuit.wires ∧ measurement.bit < circuit.bits

namespace WellFormed

variable {circuit after : Circuit}

theorem empty (wires bits : Nat) : (Circuit.empty wires bits).WellFormed where
  operations := by simp [Circuit.empty]
  measurements := by simp [Circuit.empty]

theorem append (h : circuit.WellFormed) {operations : List (Operation Nat)}
    {measurements : List Measurement}
    (hoperations : ∀ operation ∈ operations, operation.Fits circuit.wires)
    (hmeasurements : ∀ measurement ∈ measurements,
      measurement.wire < circuit.wires ∧ measurement.bit < circuit.bits) :
    WellFormed { circuit with
      operations := circuit.operations ++ operations
      measurements := circuit.measurements ++ measurements } := by
  constructor
  · intro operation hmem
    exact (List.mem_append.mp hmem).elim (h.operations operation) (hoperations operation)
  · intro measurement hmem
    exact (List.mem_append.mp hmem).elim (h.measurements measurement) (hmeasurements measurement)

theorem add {operation : Operation Nat} (h : circuit.WellFormed)
    (hadd : circuit.add operation = .ok after) : after.WellFormed := by
  have happend := h.append (List.forall_mem_singleton.mpr (fits_of_add hadd))
    (List.forall_mem_nil _)
  rw [eq_of_add hadd]
  simpa using happend

theorem addAll (h : circuit.WellFormed) (operations : List (Operation Nat)) :
    (circuit.addAll operations).1.WellFormed := by
  have happend := h.append (circuit.fits_of_mem_accepted operations) (List.forall_mem_nil _)
  rw [addAll_eq]
  simpa using happend

theorem measure {wire bit : Nat} (h : circuit.WellFormed)
    (hmeasure : circuit.measure wire bit = .ok after) : after.WellFormed := by
  have hmeasured : ∀ measurement ∈ [(⟨wire, bit⟩ : Measurement)],
      measurement.wire < circuit.wires ∧ measurement.bit < circuit.bits :=
    List.forall_mem_singleton.mpr (lt_of_measure hmeasure)
  have happend := h.append (List.forall_mem_nil _) hmeasured
  rw [eq_of_measure hmeasure]
  simpa using happend

theorem measureAll (h : circuit.WellFormed) : circuit.measureAll.WellFormed := by
  have happend := h.append (List.forall_mem_nil _) circuit.measureAll_lt
  simpa [Circuit.measureAll] using happend

theorem draft {draft : Draft} (hbuild : draft.build = .ok circuit) : circuit.WellFormed := by
  have hall := (empty draft.wires draft.bits).addAll draft.operations
  rw [Draft.build] at hbuild
  split at hbuild
  · cases hbuild
  · next built hadded =>
    rw [hadded] at hall
    obtain rfl := Except.ok.inj hbuild
    split
    · exact hall.measureAll
    · exact hall

end WellFormed

theorem Built.wellFormed {circuit : Circuit} (h : circuit.Built) : circuit.WellFormed := by
  induction h with
  | empty wires bits => exact .empty wires bits
  | add _ added ih => exact ih.add added
  | addAll _ operations ih => exact ih.addAll operations
  | measure _ measured ih => exact ih.measure measured
  | measureAll _ ih => exact ih.measureAll
  | draft built => exact .draft built

end GateGame.Circuit
