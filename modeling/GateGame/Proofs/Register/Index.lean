import GateGame.Register.Basic
import Mathlib.Data.Nat.Bitwise
import Mathlib.Logic.Function.Basic

namespace GateGame

/-! Basis states as values of wires. Every number below the size of the basis is the
basis state of one assignment of values to the wires. -/

open Function (update)

/-- The basis state in which every wire has the value given. -/
def basisIndex (wires : Nat) (values : Nat → Bool) : Nat :=
  Nat.ofBits fun wire : Fin wires => values wire

variable {wires wire index : Nat} {values values' : Nat → Bool}

theorem basisIndex_lt (wires : Nat) (values : Nat → Bool) :
    basisIndex wires values < basisSize wires := by
  rw [basisSize, Nat.one_shiftLeft]
  exact Nat.ofBits_lt_two_pow _

@[simp] theorem testBit_basisIndex (wires : Nat) (values : Nat → Bool) (wire : Nat) :
    (basisIndex wires values).testBit wire = (decide (wire < wires) && values wire) := by
  rw [basisIndex, Nat.testBit_ofBits]
  by_cases h : wire < wires <;> simp [h]

theorem testBit_basisIndex_of_lt (h : wire < wires) (values : Nat → Bool) :
    (basisIndex wires values).testBit wire = values wire := by
  simp [h]

theorem testBit_of_le (h : index < basisSize wires) (hwire : wires ≤ wire) :
    index.testBit wire = false := by
  rw [basisSize, Nat.one_shiftLeft] at h
  apply Nat.testBit_lt_two_pow
  exact Nat.lt_of_lt_of_le h (Nat.pow_le_pow_right Nat.two_pos hwire)

theorem basisIndex_testBit (h : index < basisSize wires) :
    basisIndex wires index.testBit = index := by
  apply Nat.eq_of_testBit_eq
  intro wire
  rcases Nat.lt_or_ge wire wires with hwire | hwire
  · simp [hwire]
  · simp [Nat.not_lt.mpr hwire, testBit_of_le h hwire]

theorem basisIndex_eq_iff :
    basisIndex wires values = basisIndex wires values' ↔
      ∀ wire < wires, values wire = values' wire := by
  constructor
  · intro h wire hwire
    rw [← testBit_basisIndex_of_lt hwire values, h, testBit_basisIndex_of_lt hwire]
  · intro h
    apply Nat.eq_of_testBit_eq
    intro wire
    rcases Nat.lt_or_ge wire wires with hwire | hwire
    · simp [h wire hwire]
    · simp [Nat.not_lt.mpr hwire]

/-- The basis state that agrees with another one but for the value of one wire. -/
def setWire (wires target : Nat) (value : Bool) (index : Nat) : Nat :=
  basisIndex wires (update index.testBit target value)

variable {target base : Nat} {value : Bool}

theorem setWire_lt (wires target : Nat) (value : Bool) (index : Nat) :
    setWire wires target value index < basisSize wires :=
  basisIndex_lt wires _

theorem setWire_basisIndex (wires target : Nat) (value : Bool) (values : Nat → Bool) :
    setWire wires target value (basisIndex wires values) =
      basisIndex wires (update values target value) := by
  rw [setWire, basisIndex_eq_iff]
  intro wire hwire
  rcases eq_or_ne wire target with rfl | hne
  · simp
  · simp [hne, hwire]

theorem testBit_setWire (h : target < wires) (value : Bool) (index : Nat) :
    (setWire wires target value index).testBit target = value := by
  simp [setWire, h]

theorem testBit_setWire_of_ne (hwire : wire < wires) (hne : wire ≠ target) (value : Bool)
    (index : Nat) : (setWire wires target value index).testBit wire = index.testBit wire := by
  simp [setWire, hwire, hne]

theorem testBit_setWire_eq_update (htarget : target < wires) (hindex : index < basisSize wires)
    (value : Bool) :
    (setWire wires target value index).testBit = update index.testBit target value := by
  funext wire
  rcases Nat.lt_or_ge wire wires with hwire | hwire
  · simp [setWire, hwire]
  · have hne : wire ≠ target := by omega
    simp [setWire, Nat.not_lt.mpr hwire, hne, testBit_of_le hindex hwire]

@[simp] theorem setWire_setWire (wires target : Nat) (value value' : Bool) (index : Nat) :
    setWire wires target value (setWire wires target value' index) =
      setWire wires target value index := by
  rw [setWire.eq_def wires target value', setWire_basisIndex, Function.update_idem, setWire]

theorem setWire_comm {target' : Nat} (hne : target ≠ target') (value value' : Bool)
    (index : Nat) :
    setWire wires target value (setWire wires target' value' index) =
      setWire wires target' value' (setWire wires target value index) := by
  rw [setWire.eq_def wires target' value', setWire_basisIndex,
    setWire.eq_def wires target value, setWire_basisIndex, Function.update_comm hne]

theorem setWire_eq_self (hindex : index < basisSize wires) (hvalue : index.testBit target = value) :
    setWire wires target value index = index := by
  rw [setWire, ← hvalue, Function.update_eq_self, basisIndex_testBit hindex]

theorem setWire_eq_iff (htarget : target < wires) (hbase : base < basisSize wires)
    (hclear : base.testBit target = false) (hindex : index < basisSize wires) (value : Bool) :
    setWire wires target value base = index ↔
      setWire wires target false index = base ∧ index.testBit target = value := by
  constructor
  · rintro rfl
    rw [setWire_setWire, setWire_eq_self hbase hclear, testBit_setWire htarget]
    exact ⟨rfl, rfl⟩
  · rintro ⟨rfl, rfl⟩
    rw [setWire_setWire, setWire_eq_self hindex rfl]

theorem or_shiftLeft_eq_setWire (htarget : target < wires) (hbase : base < basisSize wires)
    (hclear : base.testBit target = false) (value : Bool) :
    base ||| (if value then 1 <<< target else 0) = setWire wires target value base := by
  cases value with
  | false => simp [setWire_eq_self hbase hclear]
  | true =>
      apply Nat.eq_of_testBit_eq
      intro wire
      rw [if_pos rfl, Nat.one_shiftLeft, Nat.testBit_or, Nat.testBit_two_pow, setWire,
        testBit_basisIndex]
      rcases eq_or_ne wire target with rfl | hne
      · simp [htarget]
      · rcases Nat.lt_or_ge wire wires with hwire | hwire
        · simp [hne, hne.symm, hwire]
        · simp [hne.symm, Nat.not_lt.mpr hwire, testBit_of_le hbase hwire]

/-- The basis state that agrees with another one but for the values of two wires. -/
def setPair (wires first second : Nat) (values : Bool × Bool) (index : Nat) : Nat :=
  setWire wires second values.2 (setWire wires first values.1 index)

variable {first second : Nat}

theorem setPair_lt (wires first second : Nat) (values : Bool × Bool) (index : Nat) :
    setPair wires first second values index < basisSize wires :=
  setWire_lt ..

theorem setPair_basisIndex (wires first second : Nat) (pair : Bool × Bool)
    (values : Nat → Bool) :
    setPair wires first second pair (basisIndex wires values) =
      basisIndex wires (update (update values first pair.1) second pair.2) := by
  rw [setPair, setWire_basisIndex, setWire_basisIndex]

theorem testBit_setPair_first (hfirst : first < wires) (hne : first ≠ second)
    (values : Bool × Bool) (index : Nat) :
    (setPair wires first second values index).testBit first = values.1 := by
  rw [setPair, testBit_setWire_of_ne hfirst hne, testBit_setWire hfirst]

theorem testBit_setPair_second (hsecond : second < wires) (values : Bool × Bool)
    (index : Nat) : (setPair wires first second values index).testBit second = values.2 :=
  testBit_setWire hsecond ..

theorem setPair_setPair (hne : first ≠ second) (values values' : Bool × Bool) (index : Nat) :
    setPair wires first second values (setPair wires first second values' index) =
      setPair wires first second values index := by
  rw [setPair, setPair, setWire_comm hne, setWire_setWire, setWire_setWire, setPair]

theorem setPair_eq_self (hindex : index < basisSize wires) {values : Bool × Bool}
    (hfirst : index.testBit first = values.1) (hsecond : index.testBit second = values.2) :
    setPair wires first second values index = index := by
  rw [setPair, setWire_eq_self hindex hfirst, setWire_eq_self hindex hsecond]

theorem setPair_eq_iff (hfirst : first < wires) (hsecond : second < wires)
    (hne : first ≠ second) (hbase : base < basisSize wires)
    (hfirstClear : base.testBit first = false) (hsecondClear : base.testBit second = false)
    (hindex : index < basisSize wires) (values : Bool × Bool) :
    setPair wires first second values base = index ↔
      setPair wires first second (false, false) index = base ∧
        (index.testBit first, index.testBit second) = values := by
  constructor
  · rintro rfl
    rw [setPair_setPair hne, setPair_eq_self hbase hfirstClear hsecondClear,
      testBit_setPair_first hfirst hne, testBit_setPair_second hsecond]
    exact ⟨rfl, rfl⟩
  · rintro ⟨rfl, rfl⟩
    rw [setPair_setPair hne, setPair_eq_self hindex rfl rfl]

end GateGame
