import GateGame.Simulator.Readout

namespace GateGame

/-! What the outcome of a shot looks like, whatever the shot draws. Every measurement is
reported as it is found or flipped, and whether it is flipped does not depend on what is
found. So a readout draws the flips, one after the other, and nothing else. Measuring changes
the bits it is meant for and no others, and never their number. -/

/-- An outcome that a circuit can show: one character for every classical bit, all of
them zeros and ones, the last bit first, and a zero for each bit that nothing is
measured into. -/
structure Circuit.Shows (circuit : Circuit) (outcome : String) : Prop where
  length : outcome.length = circuit.bits
  binary : ∀ c ∈ outcome.toList, c = '0' ∨ c = '1'
  unmeasured : ∀ bit < circuit.bits,
    (∀ measurement ∈ circuit.measurements, measurement.bit ≠ bit) →
      outcome.toList[circuit.bits - 1 - bit]? = some '0'

namespace Readout

variable {α ρ : Type} [Scalar α] [RandomSource ρ]

/-- Which of so many measurements are reported flipped. -/
def reports (error : α) : Nat → StateM ρ (List Bool)
  | 0 => pure []
  | count + 1 => do
      let flipped ← flips error
      let rest ← reports error count
      pure (flipped :: rest)

theorem run_reports_succ (error : α) (count : Nat) (source : ρ) :
    (reports error (count + 1)).run source =
      let first := (flips error).run source
      let rest := (reports error count).run first.2
      (first.1 :: rest.1, rest.2) := rfl

theorem length_reports (error : α) (count : Nat) (source : ρ) :
    ((reports error count).run source).1.length = count := by
  induction count generalizing source with
  | zero => rfl
  | succ count ih => rw [run_reports_succ, List.length_cons, ih]

/-- The bits once measurements have been made, given which are reported flipped. -/
def written (index : Nat) (reported : List (Measurement × Bool)) (bits : Array Bool) :
    Array Bool :=
  reported.foldl
    (fun bits report =>
      bits.setIfInBounds report.1.bit (index.testBit report.1.wire ^^ report.2)) bits

theorem run_measureInto (error : α) (index : Nat) (measurements : List Measurement)
    (bits : Array Bool) (source : ρ) :
    (measureInto error index measurements bits).run source =
      let reported := (reports error measurements.length).run source
      (written index (measurements.zip reported.1) bits, reported.2) := by
  induction measurements generalizing bits source with
  | nil => rfl
  | cons measurement rest ih =>
      change (measureInto error index rest _).run _ = _
      rw [ih, List.length_cons, run_reports_succ]
      rfl

/-- The outcome of a basis state, given which measurements are reported flipped. -/
def shown (circuit : Circuit) (index : Nat) (flips : List Bool) : String :=
  bitstring (written index (circuit.measurements.zip flips) (Array.replicate circuit.bits false))

theorem run_read (circuit : Circuit) (error : α) (index : Nat) (source : ρ) :
    (read circuit error index).run source =
      let reported := (reports error circuit.measurements.length).run source
      (shown circuit index reported.1, reported.2) := by
  change (bitstring ((measureInto error index circuit.measurements _).run source).1,
    ((measureInto error index circuit.measurements _).run source).2) = _
  rw [run_measureInto]
  rfl

variable {index : Nat} {reported : List (Measurement × Bool)} {bits : Array Bool}

theorem written_append (index : Nat) (first second : List (Measurement × Bool))
    (bits : Array Bool) :
    written index (first ++ second) bits = written index second (written index first bits) :=
  List.foldl_append

theorem written_cons (index : Nat) (report : Measurement × Bool)
    (rest : List (Measurement × Bool)) (bits : Array Bool) :
    written index (report :: rest) bits =
      written index rest
        (bits.setIfInBounds report.1.bit (index.testBit report.1.wire ^^ report.2)) :=
  List.foldl_cons ..

@[simp] theorem size_written (index : Nat) (reported : List (Measurement × Bool))
    (bits : Array Bool) : (written index reported bits).size = bits.size := by
  induction reported generalizing bits with
  | nil => rfl
  | cons report rest ih => rw [written_cons, ih, Array.size_setIfInBounds]

theorem getElem?_written_of_ne {bit : Nat} (h : ∀ report ∈ reported, report.1.bit ≠ bit) :
    (written index reported bits)[bit]? = bits[bit]? := by
  induction reported generalizing bits with
  | nil => rfl
  | cons report rest ih =>
      obtain ⟨hfirst, hrest⟩ := List.forall_mem_cons.mp h
      rw [written_cons, ih hrest, Array.getElem?_setIfInBounds_ne hfirst]

/-- What is written last into a bit stays there. -/
theorem getElem?_written_of_last {before after : List (Measurement × Bool)}
    {report : Measurement × Bool} (hlast : ∀ later ∈ after, later.1.bit ≠ report.1.bit)
    (hsize : report.1.bit < bits.size) :
    (written index (before ++ report :: after) bits)[report.1.bit]? =
      some (index.testBit report.1.wire ^^ report.2) := by
  rw [written_append, written_cons, getElem?_written_of_ne hlast,
    Array.getElem?_setIfInBounds_self_of_lt (by simpa using hsize)]

theorem length_bitstring (bits : Array Bool) : (bitstring bits).length = bits.size := by
  simp [bitstring]

theorem binary_bitstring (bits : Array Bool) :
    ∀ c ∈ (bitstring bits).toList, c = '0' ∨ c = '1' := by
  intro c hc
  rw [bitstring, String.toList_ofList] at hc
  obtain ⟨bit, -, rfl⟩ := List.mem_map.mp hc
  cases bit <;> simp

theorem getElem?_bitstring {bit : Nat} (h : bit < bits.size) :
    (bitstring bits).toList[bits.size - 1 - bit]? =
      bits[bit]?.map fun value => if value then '1' else '0' := by
  have hlength : bits.size - 1 - bit < bits.toList.length := by
    rw [Array.length_toList]
    omega
  have hplace : bits.toList.length - 1 - (bits.size - 1 - bit) = bit := by
    rw [Array.length_toList]
    omega
  rw [bitstring, String.toList_ofList, List.getElem?_map, List.getElem?_reverse hlength, hplace,
    Array.getElem?_toList]

section Shown

variable {circuit : Circuit} {flips : List Bool} {bit : Nat}

theorem getElem?_shown (hbit : bit < circuit.bits) :
    (shown circuit index flips).toList[circuit.bits - 1 - bit]? =
      (written index (circuit.measurements.zip flips)
        (Array.replicate circuit.bits false))[bit]?.map
          fun value => if value then '1' else '0' := by
  have hsize : (written index (circuit.measurements.zip flips)
      (Array.replicate circuit.bits false)).size = circuit.bits := by
    rw [size_written, Array.size_replicate]
  have hplace := getElem?_bitstring (hsize ▸ hbit)
  rw [hsize] at hplace
  exact hplace

theorem getElem?_shown_of_unmeasured (hbit : bit < circuit.bits)
    (hnone : ∀ measurement ∈ circuit.measurements, measurement.bit ≠ bit) :
    (shown circuit index flips).toList[circuit.bits - 1 - bit]? = some '0' := by
  have hreported : ∀ report ∈ circuit.measurements.zip flips, report.1.bit ≠ bit :=
    fun report hreport => hnone report.1 (List.of_mem_zip hreport).1
  rw [getElem?_shown hbit, getElem?_written_of_ne hreported]
  simp [hbit]

theorem shows_shown (circuit : Circuit) (index : Nat) (flips : List Bool) :
    circuit.Shows (shown circuit index flips) where
  length := by rw [shown, length_bitstring, size_written, Array.size_replicate]
  binary := binary_bitstring _
  unmeasured _ := getElem?_shown_of_unmeasured

end Shown

theorem shows_read (circuit : Circuit) (error : α) (index : Nat) (source : ρ) :
    circuit.Shows ((read circuit error index).run source).1 := by
  rw [run_read]
  exact shows_shown circuit index _

end Readout

end GateGame
