import GateGame.Decimal.Double
import GateGame.Proofs.Circuit.Built
import GateGame.Proofs.Random.Uniforms
import GateGame.Proofs.Simulator.Readout
import GateGame.Random.Replay
import Mathlib.Data.List.Induction

namespace GateGame

/-! Which bits of an outcome are ones. The last measurement into a bit decides what the bit
reads, and a number of its own decides whether it is reported flipped. Measurements whose
bits are overwritten take their numbers all the same. -/

/-- The bit reads one after measuring a basis state: the last measurement into it finds a
one and is not reported flipped, or finds a zero and is. -/
def Circuit.Lit (circuit : Circuit) (index : Nat) (flips : List Bool) (bit : Nat) : Prop :=
  ∃ before measurement after flipped,
    circuit.measurements = before ++ measurement :: after ∧ measurement.bit = bit ∧
    (∀ later ∈ after, later.bit ≠ bit) ∧ flips[before.length]? = some flipped ∧
    (index.testBit measurement.wire ^^ flipped) = true

namespace Readout

variable {α ρ : Type} [Scalar α] [RandomSource ρ]

theorem run_flips_of_pos {error : α} (h : 0 < error) (source : ρ) :
    (flips error).run source =
      let first := (RandomSource.uniform : StateM ρ α).run source
      (decide (first.1 < error), first.2) := by
  rw [flips, if_pos h]
  rfl

theorem run_flips_of_not_pos {error : α} (h : ¬ 0 < error) (source : ρ) :
    (flips error).run source = (false, source) := by
  rw [flips, if_neg h]
  rfl

/-- Where errors can occur, every measurement takes a number of its own. -/
theorem run_reports_of_pos {error : α} (h : 0 < error) (count : Nat) (source : ρ) :
    (reports error count).run source =
      let drawn := (RandomSource.uniforms α count).run source
      (drawn.1.map fun draw => decide (draw < error), drawn.2) := by
  induction count generalizing source with
  | zero => rfl
  | succ count ih =>
      rw [run_reports_succ, run_flips_of_pos h, RandomSource.run_uniforms_succ]
      dsimp only
      rw [ih, List.map_cons]

theorem run_reports_of_not_pos {error : α} (h : ¬ 0 < error) (count : Nat) (source : ρ) :
    (reports error count).run source = (List.replicate count false, source) := by
  induction count generalizing source with
  | zero => rfl
  | succ count ih =>
      rw [run_reports_succ, run_flips_of_not_pos h]
      dsimp only
      rw [ih, List.replicate_succ]

theorem exists_last (bit : Nat) (measurements : List Measurement) :
    (∀ measurement ∈ measurements, measurement.bit ≠ bit) ∨
    ∃ before measurement after, measurements = before ++ measurement :: after ∧
      measurement.bit = bit ∧ ∀ later ∈ after, later.bit ≠ bit := by
  -- The last one is found from the end of the list.
  induction measurements using List.reverseRecOn with
  | nil => exact .inl (List.forall_mem_nil _)
  | append_singleton rest measurement ih =>
      by_cases hbit : measurement.bit = bit
      · exact .inr ⟨rest, measurement, [], rfl, hbit, List.forall_mem_nil _⟩
      · have hsingle : ∀ other ∈ [measurement], other.bit ≠ bit :=
          List.forall_mem_singleton.mpr hbit
        rcases ih with hnone | ⟨before, last, after, rfl, hlast, hafter⟩
        · exact .inl (List.forall_mem_append.mpr ⟨hnone, hsingle⟩)
        · exact .inr ⟨before, last, after ++ [measurement], by simp, hlast,
            List.forall_mem_append.mpr ⟨hafter, hsingle⟩⟩

variable {circuit : Circuit} {index : Nat} {flips : List Bool}

theorem zip_eq_append {before after : List Measurement} {measurement : Measurement}
    {flipped : Bool} (hflips : flips[before.length]? = some flipped) :
    (before ++ measurement :: after).zip flips =
      before.zip (flips.take before.length) ++
        (measurement, flipped) :: after.zip (flips.drop (before.length + 1)) := by
  obtain ⟨hlt, hflipped⟩ := List.getElem?_eq_some_iff.mp hflips
  have hsplit : flips =
      flips.take before.length ++ flipped :: flips.drop (before.length + 1) := by
    rw [← hflipped, List.getElem_cons_drop, List.take_append_drop]
  have hlength : before.length = (flips.take before.length).length := by
    rw [List.length_take]
    omega
  conv_lhs => rw [hsplit]
  rw [List.zip_append hlength, List.zip_cons_cons]

theorem getElem?_shown_of_last {before after : List Measurement} {measurement : Measurement}
    {flipped : Bool} (hlist : circuit.measurements = before ++ measurement :: after)
    (hlast : ∀ later ∈ after, later.bit ≠ measurement.bit)
    (hflips : flips[before.length]? = some flipped) (hbit : measurement.bit < circuit.bits) :
    (shown circuit index flips).toList[circuit.bits - 1 - measurement.bit]? =
      some (if index.testBit measurement.wire ^^ flipped then '1' else '0') := by
  have hlater : ∀ later ∈ after.zip (flips.drop (before.length + 1)),
      later.1.bit ≠ (measurement, flipped).1.bit :=
    fun later hmem => hlast later.1 (List.of_mem_zip hmem).1
  rw [getElem?_shown hbit, hlist, zip_eq_append hflips,
    getElem?_written_of_last hlater (by simpa using hbit), Option.map_some]

theorem getElem?_shown_eq_one_iff (hflips : flips.length = circuit.measurements.length)
    {bit : Nat} (hbit : bit < circuit.bits) :
    (shown circuit index flips).toList[circuit.bits - 1 - bit]? = some '1' ↔
      circuit.Lit index flips bit := by
  constructor
  · intro hone
    rcases exists_last bit circuit.measurements with
      hnone | ⟨before, measurement, after, hlist, rfl, hlast⟩
    · rw [getElem?_shown_of_unmeasured hbit hnone] at hone
      exact absurd (Option.some.inj hone) (by decide)
    · have hlt : before.length < flips.length := by
        rw [hflips, hlist, List.length_append, List.length_cons]
        omega
      have hflipped := List.getElem?_eq_getElem hlt
      refine ⟨before, measurement, after, _, hlist, rfl, hlast, hflipped, ?_⟩
      rw [getElem?_shown_of_last hlist hlast hflipped hbit] at hone
      by_contra hzero
      rw [if_neg hzero] at hone
      exact absurd (Option.some.inj hone) (by decide)
  · rintro ⟨before, measurement, after, flipped, hlist, rfl, hlast, hflipped, hone⟩
    rw [getElem?_shown_of_last hlist hlast hflipped hbit, if_pos hone]

/-- What the outcome of a basis state says, bit by bit, on a circuit that can be built.
It has a character for every bit, and that of each bit, counted from the end, is a one if
the bit is lit and a zero otherwise. Where errors can occur, one number is drawn for each
measurement, in their order, and a measurement is reported flipped when its own number is
below the probability of an error. Where none can occur, nothing is drawn and nothing
flipped. -/
theorem read_lit (hbuilt : circuit.Built) (error : α) (index : Nat) (source : ρ) :
    let outcome := ((read circuit error index).run source).1
    let rest := ((read circuit error index).run source).2
    let drawn := (RandomSource.uniforms α circuit.measurements.length).run source
    (∀ measurement ∈ circuit.measurements,
      measurement.wire < circuit.wires ∧ measurement.bit < circuit.bits) ∧
    outcome.length = circuit.bits ∧ (∀ c ∈ outcome.toList, c = '0' ∨ c = '1') ∧
    (0 < error → rest = drawn.2 ∧ ∀ bit < circuit.bits,
      outcome.toList[circuit.bits - 1 - bit]? = some '1' ↔
        circuit.Lit index (drawn.1.map fun draw => decide (draw < error)) bit) ∧
    (¬ 0 < error → rest = source ∧ ∀ bit < circuit.bits,
      outcome.toList[circuit.bits - 1 - bit]? = some '1' ↔
        circuit.Lit index (List.replicate circuit.measurements.length false) bit) := by
  intro outcome rest drawn
  let reported := (reports error circuit.measurements.length).run source
  have hshows : circuit.Shows outcome := shows_read circuit error index source
  have hrun := run_read circuit error index source
  have hrest : rest = reported.2 := congrArg Prod.snd hrun
  have hlit : ∀ bit < circuit.bits, outcome.toList[circuit.bits - 1 - bit]? = some '1' ↔
      circuit.Lit index reported.1 bit := by
    intro bit hbit
    have houtcome : outcome = shown circuit index reported.1 := congrArg Prod.fst hrun
    rw [houtcome]
    exact getElem?_shown_eq_one_iff (length_reports ..) hbit
  refine ⟨hbuilt.wellFormed.measurements, hshows.length, hshows.binary, fun hpos => ?_,
    fun hpos => ?_⟩
  · have hreported := run_reports_of_pos hpos circuit.measurements.length source
    simp only [reported, hreported] at hrest hlit
    exact ⟨hrest, hlit⟩
  · have hreported := run_reports_of_not_pos hpos circuit.measurements.length source
    simp only [reported, hreported] at hrest hlit
    exact ⟨hrest, hlit⟩

/-- The first measurement into the last bit is overwritten, and takes a number. The second
finds a one, which is not flipped; the third finds one that is. Nothing is measured into the
middle bit. Without errors both ones are read, and nothing is drawn. -/
theorem read_lit_overwritten :
    let circuit : Circuit := ⟨2, 3, [], [⟨0, 2⟩, ⟨1, 2⟩, ⟨0, 0⟩]⟩
    let source := Replay.ofWords [0, 9223372036854775808]
    let noisy := (read circuit (0.25 : Float) 3).run source
    let clean := (read circuit (0 : Float) 3).run source
    (noisy.1.length = 3 ∧ noisy.1.toList[0]? = some '1' ∧ noisy.1.toList[1]? ≠ some '1' ∧
      noisy.2.drawn = 3) ∧
    clean.1.toList[2]? = some '1' ∧ clean.2.drawn = 0 := by
  intro circuit source noisy clean
  have hbuilt : circuit.Built := by
    have hempty : Circuit.Built ⟨2, 3, [], []⟩ := .empty 2 3
    have hfirst : Circuit.Built ⟨2, 3, [], [⟨0, 2⟩]⟩ := @Circuit.Built.measure _ _ 0 2 hempty rfl
    have hsecond : Circuit.Built ⟨2, 3, [], [⟨0, 2⟩, ⟨1, 2⟩]⟩ :=
      @Circuit.Built.measure _ _ 1 2 hfirst rfl
    exact @Circuit.Built.measure _ _ 0 0 hsecond rfl
  obtain ⟨-, hlength, -, hnoisy, -⟩ := read_lit hbuilt (0.25 : Float) 3 source
  obtain ⟨-, -, -, -, hclean⟩ := read_lit hbuilt (0 : Float) 3 source
  obtain ⟨hrest, hlit⟩ := hnoisy (by decide +kernel)
  obtain ⟨hrest', hlit'⟩ := hclean (by decide +kernel)
  have hflips : ((RandomSource.uniforms Float 3).run source).1.map
      (fun draw => decide (draw < (0.25 : Float))) = [true, false, true] := by
    decide +kernel
  refine ⟨⟨hlength, (hlit 2 (by decide)).mpr ?_, mt (hlit 1 (by decide)).mp ?_, ?_⟩,
    (hlit' 0 (by decide)).mpr ?_, congrArg Replay.drawn hrest'⟩
  · exact ⟨[⟨0, 2⟩], ⟨1, 2⟩, [⟨0, 0⟩], false, rfl, rfl, by decide, congrArg (·[1]?) hflips, rfl⟩
  · rintro ⟨before, measurement, after, -, hlist, hbit, -⟩
    have hmem : measurement ∈ circuit.measurements := by simp [hlist]
    simp only [circuit, List.mem_cons, List.not_mem_nil, or_false] at hmem
    rcases hmem with rfl | rfl | rfl <;> cases hbit
  · exact congrArg Replay.drawn hrest
  · exact ⟨[⟨0, 2⟩, ⟨1, 2⟩], ⟨0, 0⟩, [], false, rfl, rfl, by decide, rfl, rfl⟩

end Readout

end GateGame
