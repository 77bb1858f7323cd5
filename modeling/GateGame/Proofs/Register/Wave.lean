import GateGame.Proofs.Circuit.Fits
import GateGame.Proofs.Register.Action

namespace GateGame

open Function (update)

/-! The state of a register as a function of the values of its wires. In this form a
gate acts on wires alone, whatever their number and order. -/

variable {α : Type} [Scalar α] {wires : Nat}

abbrev Wave (α : Type) := (Nat → Bool) → Amplitude α

/-- What an operation makes of a wave: a row of its matrix, chosen by the values of
its operands, is applied to the amplitudes of the assignments that differ there. -/
def Operation.act (wave : Wave α) : Operation Nat → Wave α
  | .single gate target => fun values =>
      gate.entry (values target) false * wave (update values target false) +
        gate.entry (values target) true * wave (update values target true)
  | .pair gate first second => fun values =>
      Register.quadValues.foldl
        (fun sum column =>
          sum + gate.entry (values first, values second) column *
            wave (update (update values first column.1) second column.2)) 0

def Operation.actAll (wave : Wave α) (operations : List (Operation Nat)) : Wave α :=
  operations.foldl act wave

/-- Renaming wires without confusing them commutes with an operation. -/
theorem Operation.act_map {f g : Nat → Nat} (hleft : Function.LeftInverse g f)
    (hright : Function.RightInverse g f) (wave : Wave α) (operation : Operation Nat) :
    (fun values => act wave (operation.map f) (values ∘ g)) =
      act (fun values => wave (values ∘ g)) operation := by
  have hupdate (values : Nat → Bool) (wire : Nat) (value : Bool) :
      update (values ∘ g) (f wire) value = update values wire value ∘ g := by
    have hcomp := Function.update_comp_eq_of_injective values
      (Function.LeftInverse.injective hright) (f wire) value
    rw [← hcomp, hleft wire]
  funext values
  cases operation with
  | single gate target =>
      simp only [map, act, hupdate, Function.comp_apply, hleft target]
  | pair gate first second =>
      simp only [map, act, hupdate, Function.comp_apply, hleft first, hleft second]

namespace Register

def wave (register : Register α wires) : Wave α :=
  fun values => register.amplitude (basisIndex wires values)

theorem amplitude_eq_wave {index : Nat} (h : index < basisSize wires)
    (register : Register α wires) :
    register.amplitude index = register.wave index.testBit := by
  rw [wave, basisIndex_testBit h]

theorem ext_wave {register register' : Register α wires}
    (h : register.wave = register'.wave) : register = register' := by
  have hamplitude : ∀ index < basisSize wires,
      register.amplitude index = register'.amplitude index := by
    intro index hindex
    rw [amplitude_eq_wave hindex, amplitude_eq_wave hindex, h]
  obtain ⟨amplitudes⟩ := register
  obtain ⟨amplitudes'⟩ := register'
  congr
  apply Vector.ext
  intro index hindex
  simpa [amplitude, Vector.getD, hindex] using hamplitude index hindex

theorem probabilities_eq (register : Register α wires) :
    register.probabilities =
      (List.range (basisSize wires)).map fun index => (register.amplitude index).normSq := by
  apply List.ext_getElem
  · simp [probabilities]
  · intro index hleft hright
    have hindex : index < basisSize wires := by simpa using hright
    simp [probabilities, amplitude, Vector.getD, hindex]

theorem amplitude_zero {index : Nat} (h : index < basisSize wires) :
    (zero wires : Register α wires).amplitude index = if index = 0 then 1 else 0 := by
  rcases eq_or_ne index 0 with rfl | hne
  · simp [amplitude, zero, Vector.getD, h]
  · simp [amplitude, zero, Vector.getD, h, hne, hne.symm]

theorem wave_zero (values : Nat → Bool) :
    (zero wires : Register α wires).wave values =
      if ∀ wire < wires, values wire = false then 1 else 0 := by
  have hzero : basisIndex wires values = 0 ↔ ∀ wire < wires, values wire = false := by
    have hindex : (0 : Nat) = basisIndex wires fun _ => false := by
      apply Nat.eq_of_testBit_eq
      simp
    rw [hindex, basisIndex_eq_iff]
  rw [wave, amplitude_zero (basisIndex_lt ..)]
  simp only [hzero]

theorem wave_applySingle (gate : SingleGate) {target : Nat} (register : Register α wires)
    (htarget : target < wires) :
    (applySingle gate target register).wave =
      Operation.act register.wave (.single gate target) := by
  funext values
  rw [wave, amplitude_applySingle gate register htarget (basisIndex_lt ..), singleSum]
  simp only [testBit_basisIndex_of_lt htarget, setWire_basisIndex, Operation.act, wave]

theorem wave_applyPair (gate : PairGate) {first second : Nat} (register : Register α wires)
    (hfirst : first < wires) (hsecond : second < wires) (hne : first ≠ second) :
    (applyPair gate first second register).wave =
      Operation.act register.wave (.pair gate first second) := by
  funext values
  rw [wave, amplitude_applyPair gate register hfirst hsecond hne (basisIndex_lt ..), pairSum]
  simp only [testBit_basisIndex_of_lt hfirst, testBit_basisIndex_of_lt hsecond,
    setPair_basisIndex, Operation.act, wave]

theorem checkWire_of_lt {wire : Nat} (h : wire < wires) : checkWire wires wire = .ok () :=
  if_pos h

theorem apply_of_fits {operation : Operation Nat} (h : operation.Fits wires)
    (register : Register α wires) :
    ∃ after, register.apply operation = .ok after ∧
      after.wave = operation.act register.wave := by
  cases operation with
  | single gate target =>
      have htarget := Operation.fits_single.mp h
      refine ⟨register.applySingle gate target, ?_, wave_applySingle gate register htarget⟩
      rw [apply, checkWire_of_lt htarget]
      rfl
  | pair gate first second =>
      obtain ⟨hfirst, hsecond, hne⟩ := Operation.fits_pair.mp h
      refine ⟨register.applyPair gate first second, ?_,
        wave_applyPair gate register hfirst hsecond hne⟩
      rw [apply, if_neg hne, checkWire_of_lt hfirst, checkWire_of_lt hsecond]
      rfl

theorem lt_of_checkWire {wire : Nat} (h : checkWire wires wire = .ok ()) : wire < wires := by
  rcases Nat.lt_or_ge wire wires with hlt | hge
  · exact hlt
  · simp [checkWire, Nat.not_lt.mpr hge] at h

theorem fits_of_apply {register after : Register α wires} {operation : Operation Nat}
    (h : register.apply operation = .ok after) : operation.Fits wires := by
  cases operation with
  | single gate target =>
      cases htarget : checkWire wires target with
      | error error => simp [apply, htarget] at h
      | ok => exact Operation.fits_single.mpr (lt_of_checkWire htarget)
  | pair gate first second =>
      by_cases heq : first = second
      · simp [apply, heq] at h
      · cases hfirst : checkWire wires first with
        | error error => simp [apply, heq, hfirst] at h
        | ok =>
            cases hsecond : checkWire wires second with
            | error error => simp [apply, heq, hfirst, hsecond] at h
            | ok =>
                exact Operation.fits_pair.mpr
                  ⟨lt_of_checkWire hfirst, lt_of_checkWire hsecond, heq⟩

theorem wave_of_apply {register after : Register α wires} {operation : Operation Nat}
    (h : register.apply operation = .ok after) : after.wave = operation.act register.wave := by
  obtain ⟨other, hother, hwave⟩ := apply_of_fits (fits_of_apply h) register
  obtain rfl : after = other := Except.ok.inj (h.symm.trans hother)
  exact hwave

/-- A register takes the operations that fit it, whatever state it is in. -/
theorem exists_apply_iff (register : Register α wires) (operation : Operation Nat) :
    (∃ after, register.apply operation = .ok after) ↔ operation.Fits wires := by
  constructor
  · intro haccepted
    obtain ⟨after, hafter⟩ := haccepted
    exact fits_of_apply hafter
  · intro hfits
    obtain ⟨after, hafter, -⟩ := apply_of_fits hfits register
    exact ⟨after, hafter⟩

theorem not_fits_of_apply {register : Register α wires} {operation : Operation Nat} {error : Error}
    (h : register.apply operation = .error error) : ¬ operation.Fits wires := by
  intro hfits
  obtain ⟨after, hafter⟩ := (exists_apply_iff register operation).mpr hfits
  rw [h] at hafter
  cases hafter

theorem applyAll_of_fits {operations : List (Operation Nat)}
    (h : ∀ operation ∈ operations, operation.Fits wires) (register : Register α wires) :
    ∃ after, register.applyAll operations = .ok after ∧
      after.wave = Operation.actAll register.wave operations := by
  induction operations generalizing register with
  | nil => exact ⟨register, rfl, rfl⟩
  | cons operation rest ih =>
      obtain ⟨next, hnext, hwave⟩ := apply_of_fits (h operation (by simp)) register
      obtain ⟨after, hafter, hlast⟩ := ih (fun other hother => h other (by simp [hother])) next
      refine ⟨after, ?_, ?_⟩
      · rw [applyAll, hnext, ok_bind, hafter]
      · rw [hlast, hwave, Operation.actAll, Operation.actAll, List.foldl_cons]

end Register

end GateGame
