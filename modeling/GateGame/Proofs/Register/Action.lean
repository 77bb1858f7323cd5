import GateGame.Proofs.Circuit.Fits
import GateGame.Proofs.Register.Index
import GateGame.Register.Gates

namespace GateGame.Register

/-! What gates do to the amplitude of a basis state. The loops change amplitudes in
place; since they go through blocks of basis states that do not overlap, every new
amplitude is a row of the matrix applied to the old ones of its block. -/

variable {α : Type} [Scalar α] {wires : Nat}

/-- A loop over blocks that do not overlap gives every basis state of a block the
value that depends on the old amplitudes of that block. -/
theorem foldl_blocks {step : Register α wires → Nat → Register α wires} {bases : List Nat}
    (block : Nat → Nat) (value : Register α wires → Nat → Amplitude α)
    (hnodup : bases.Nodup)
    (hstep : ∀ register, ∀ base ∈ bases, ∀ index < basisSize wires,
      (step register base).amplitude index =
        if block index = base then value register index else register.amplitude index)
    (hlocal : ∀ register register' index,
      (∀ other < basisSize wires, block other = block index →
        register.amplitude other = register'.amplitude other) →
      value register index = value register' index)
    (register : Register α wires) {index : Nat} (hindex : index < basisSize wires) :
    (bases.foldl step register).amplitude index =
      if block index ∈ bases then value register index else register.amplitude index := by
  induction bases generalizing register with
  | nil => simp
  | cons base rest ih =>
      obtain ⟨hbase, hrest⟩ := List.nodup_cons.mp hnodup
      have hfirst := hstep register base (by simp)
      rw [List.foldl_cons,
        ih hrest (fun register other hother => hstep register other (by simp [hother]))]
      by_cases hin : block index ∈ rest
      · have hne : block index ≠ base := fun heq => hbase (heq ▸ hin)
        rw [if_pos hin, if_pos (List.mem_cons_of_mem _ hin)]
        apply hlocal
        intro other hother hblock
        rw [hfirst other hother, if_neg (hblock ▸ hne)]
      · rw [if_neg hin, hfirst index hindex]
        by_cases heq : block index = base
        · simp [heq]
        · simp [heq, hin]

/-- The row of a gate on one wire for a basis state, applied to the amplitudes of
the two basis states that differ in that wire. -/
def singleSum (gate : SingleGate) (target : Nat) (register : Register α wires)
    (index : Nat) : Amplitude α :=
  gate.entry (index.testBit target) false *
      register.amplitude (setWire wires target false index) +
    gate.entry (index.testBit target) true *
      register.amplitude (setWire wires target true index)

theorem amplitude_mixPair {gate : SingleGate} {target base index : Nat}
    (register : Register α wires) (htarget : target < wires)
    (hbase : base < basisSize wires) (hclear : base.testBit target = false)
    (hindex : index < basisSize wires) :
    (mixPair gate target register base).amplitude index =
      if setWire wires target false index = base then singleSum gate target register index
      else register.amplitude index := by
  have hother := or_shiftLeft_eq_setWire htarget hbase hclear true
  rw [if_pos rfl] at hother
  have hzero := setWire_eq_iff htarget hbase hclear hindex false
  have hone := setWire_eq_iff htarget hbase hclear hindex true
  rw [setWire_eq_self hbase hclear] at hzero
  simp only [mixPair, hother, amplitude_set, hzero, hone, hindex, and_true]
  by_cases hblock : setWire wires target false index = base
  · subst hblock
    cases hvalue : index.testBit target <;> simp [singleSum, hvalue]
  · simp [hblock]

theorem amplitude_applySingle (gate : SingleGate) {target index : Nat}
    (register : Register α wires) (htarget : target < wires)
    (hindex : index < basisSize wires) :
    (applySingle gate target register).amplitude index =
      singleSum gate target register index := by
  let bases := (List.range (basisSize wires)).filter fun base => !base.testBit target
  have hnodup : bases.Nodup := List.nodup_range.filter _
  have hstep : ∀ register : Register α wires, ∀ base ∈ bases, ∀ other < basisSize wires,
      (mixPair gate target register base).amplitude other =
        if setWire wires target false other = base then singleSum gate target register other
        else register.amplitude other := by
    intro register base hbase other hother
    obtain ⟨hlt, hclear⟩ := List.mem_filter.mp hbase
    exact amplitude_mixPair register htarget (List.mem_range.mp hlt) (by simpa using hclear)
      hother
  have hlocal : ∀ (register register' : Register α wires) (other : Nat),
      (∀ index < basisSize wires,
        setWire wires target false index = setWire wires target false other →
        register.amplitude index = register'.amplitude index) →
      singleSum gate target register other = singleSum gate target register' other := by
    intro register register' other hagree
    have hread (value : Bool) : register.amplitude (setWire wires target value other) =
        register'.amplitude (setWire wires target value other) :=
      hagree _ (setWire_lt ..) (setWire_setWire ..)
    rw [singleSum, hread, hread, singleSum]
  have hmem : setWire wires target false index ∈ bases := by
    simp [bases, setWire_lt, testBit_setWire htarget]
  have hloop := foldl_blocks (setWire wires target false) (singleSum gate target) hnodup hstep
    hlocal register hindex
  rw [applySingle, hloop, if_pos hmem]

/-- The row of a gate on two wires for a basis state, applied to the amplitudes of
the four basis states that differ in those wires. -/
def pairSum (gate : PairGate) (first second : Nat) (register : Register α wires)
    (index : Nat) : Amplitude α :=
  quadValues.foldl
    (fun sum column =>
      sum + gate.entry (index.testBit first, index.testBit second) column *
        register.amplitude (setPair wires first second column index)) 0

theorem quadIndex_eq_setPair {first second base : Nat} (hfirst : first < wires)
    (hsecond : second < wires) (hne : first ≠ second) (hbase : base < basisSize wires)
    (hfirstClear : base.testBit first = false) (hsecondClear : base.testBit second = false)
    (values : Bool × Bool) :
    quadIndex first second base values = setPair wires first second values base := by
  have hclear : (setWire wires first values.1 base).testBit second = false := by
    rw [testBit_setWire_of_ne hsecond hne.symm, hsecondClear]
  rw [quadIndex, or_shiftLeft_eq_setWire hfirst hbase hfirstClear,
    or_shiftLeft_eq_setWire hsecond (setWire_lt ..) hclear, setPair]

theorem amplitude_mixQuad {gate : PairGate} {first second base index : Nat}
    (register : Register α wires) (hfirst : first < wires) (hsecond : second < wires)
    (hne : first ≠ second) (hbase : base < basisSize wires)
    (hfirstClear : base.testBit first = false) (hsecondClear : base.testBit second = false)
    (hindex : index < basisSize wires) :
    (mixQuad gate first second register base).amplitude index =
      if setPair wires first second (false, false) index = base then
        pairSum gate first second register index
      else register.amplitude index := by
  have hquad :=
    quadIndex_eq_setPair hfirst hsecond hne hbase hfirstClear hsecondClear
  have hiff := setPair_eq_iff hfirst hsecond hne hbase hfirstClear hsecondClear hindex
  simp only [mixQuad, quadValues, List.foldl_cons, List.foldl_nil, List.map_cons, List.map_nil,
    amplitude_set, hquad, hiff, hindex, and_true]
  by_cases hblock : setPair wires first second (false, false) index = base
  · subst hblock
    cases hfirstValue : index.testBit first <;> cases hsecondValue : index.testBit second <;>
      simp [pairSum, quadValues, setPair_setPair hne, hfirstValue, hsecondValue]
  · simp [hblock]

theorem amplitude_applyPair (gate : PairGate) {first second index : Nat}
    (register : Register α wires) (hfirst : first < wires) (hsecond : second < wires)
    (hne : first ≠ second) (hindex : index < basisSize wires) :
    (applyPair gate first second register).amplitude index =
      pairSum gate first second register index := by
  let bases := (List.range (basisSize wires)).filter
    fun base => !base.testBit first && !base.testBit second
  have hnodup : bases.Nodup := List.nodup_range.filter _
  have hstep : ∀ register : Register α wires, ∀ base ∈ bases, ∀ other < basisSize wires,
      (mixQuad gate first second register base).amplitude other =
        if setPair wires first second (false, false) other = base then
          pairSum gate first second register other
        else register.amplitude other := by
    intro register base hbase other hother
    obtain ⟨hlt, hclear⟩ := List.mem_filter.mp hbase
    obtain ⟨hfirstClear, hsecondClear⟩ : base.testBit first = false ∧
        base.testBit second = false := by simpa using hclear
    exact amplitude_mixQuad register hfirst hsecond hne (List.mem_range.mp hlt) hfirstClear
      hsecondClear hother
  have hlocal : ∀ (register register' : Register α wires) (other : Nat),
      (∀ index < basisSize wires,
        setPair wires first second (false, false) index =
          setPair wires first second (false, false) other →
        register.amplitude index = register'.amplitude index) →
      pairSum gate first second register other =
        pairSum gate first second register' other := by
    intro register register' other hagree
    have hread (column : Bool × Bool) :
        register.amplitude (setPair wires first second column other) =
          register'.amplitude (setPair wires first second column other) :=
      hagree _ (setPair_lt ..) (setPair_setPair hne ..)
    simp only [pairSum, hread]
  have hmem : setPair wires first second (false, false) index ∈ bases := by
    simp [bases, setPair_lt, testBit_setPair_first hfirst hne, testBit_setPair_second hsecond]
  have hloop := foldl_blocks (setPair wires first second (false, false))
    (pairSum gate first second) hnodup hstep hlocal register hindex
  rw [applyPair, hloop, if_pos hmem]

/-- The basis states whose amplitudes an operation reads and writes. -/
def touched (wires : Nat) : Operation Nat → List Nat
  | .single _ target =>
      ((List.range (basisSize wires)).filter fun base => !base.testBit target).flatMap
        fun base => [base, base ||| 1 <<< target]
  | .pair _ first second =>
      ((List.range (basisSize wires)).filter
        fun base => !base.testBit first && !base.testBit second).flatMap
        fun base => quadValues.map (quadIndex first second base)

theorem touched_lt {operation : Operation Nat} (h : operation.Fits wires) :
    ∀ index ∈ touched wires operation, index < basisSize wires := by
  intro index hindex
  cases operation with
  | single gate target =>
      obtain ⟨base, hbase, hmem⟩ := List.mem_flatMap.mp hindex
      obtain ⟨hlt, hclear⟩ := List.mem_filter.mp hbase
      have hother := or_shiftLeft_eq_setWire (Operation.fits_single.mp h)
        (List.mem_range.mp hlt) (by simpa using hclear) true
      rw [if_pos rfl] at hother
      obtain rfl | rfl : index = base ∨ index = base ||| 1 <<< target := by simpa using hmem
      · exact List.mem_range.mp hlt
      · exact hother ▸ setWire_lt ..
  | pair gate first second =>
      obtain ⟨hfirst, hsecond, hne⟩ := Operation.fits_pair.mp h
      obtain ⟨base, hbase, hmem⟩ := List.mem_flatMap.mp hindex
      obtain ⟨values, -, rfl⟩ := List.mem_map.mp hmem
      obtain ⟨hlt, hclear⟩ := List.mem_filter.mp hbase
      obtain ⟨hfirstClear, hsecondClear⟩ : base.testBit first = false ∧
          base.testBit second = false := by simpa using hclear
      rw [quadIndex_eq_setPair hfirst hsecond hne (List.mem_range.mp hlt) hfirstClear hsecondClear]
      exact setPair_lt ..

end GateGame.Register
