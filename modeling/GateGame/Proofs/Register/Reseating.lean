import GateGame.Decimal.Double
import GateGame.Proofs.Register.Wave
import GateGame.Proofs.Script.Circuit

namespace GateGame

/-! Seatings and states. The values of players evolve in the same way wherever the
players sit, so the states that two seatings lead to differ in the order of their
wires only. -/

variable {α : Type} [Scalar α]

/-- The basis state in which every player keeps its value, when it changes from its
wire of one seating to its wire of another. -/
def Seating.reseat (seating seating' : Seating) (index : Nat) : Nat :=
  basisIndex seating'.size fun wire => index.testBit (seating.wire (seating'.player wire))

def Seating.playerWave (seating : Seating) (wave : Wave α) : Wave α :=
  fun values => wave (values ∘ seating.player)

omit [Scalar α] in
theorem Seating.playerWave_injective (seating : Seating) :
    Function.Injective (seating.playerWave : Wave α → Wave α) := by
  intro wave wave' h
  funext values
  have hvalues := congrFun h (values ∘ seating.wire)
  rwa [playerWave, playerWave, comp_wire_player] at hvalues

theorem Seating.playerWave_act (seating : Seating) (wave : Wave α)
    (operation : Operation Nat) :
    seating.playerWave ((operation.map seating.wire).act wave) =
      operation.act (seating.playerWave wave) :=
  Operation.act_map seating.player_wire seating.wire_player wave operation

theorem Seating.playerWave_actAll (seating : Seating) (wave : Wave α)
    (operations : List (Operation Nat)) :
    seating.playerWave (Operation.actAll wave (operations.map (·.map seating.wire))) =
      Operation.actAll (seating.playerWave wave) operations := by
  induction operations generalizing wave with
  | nil => rfl
  | cons operation rest ih =>
      have hrest := ih ((operation.map seating.wire).act wave)
      rw [playerWave_act] at hrest
      exact hrest

theorem Seating.playerWave_zero (seating : Seating) :
    seating.playerWave (Register.zero seating.size : Register α seating.size).wave =
      (Register.zero seating.size : Register α seating.size).wave := by
  funext values
  have hiff : (∀ wire < seating.size, (values ∘ seating.player) wire = false) ↔
      ∀ player < seating.size, values player = false := by
    constructor
    · intro h player hplayer
      have hwire := h (seating.wire player) (Seating.wire_lt hplayer)
      rwa [Function.comp_apply, Seating.player_wire] at hwire
    · intro h wire hwire
      exact h (seating.player wire) (Seating.player_lt hwire)
  rw [playerWave, Register.wave_zero, Register.wave_zero]
  simp only [hiff]

theorem Seating.reseat_lt (seating seating' : Seating) (index : Nat) :
    seating.reseat seating' index < basisSize seating'.size :=
  basisIndex_lt ..

theorem Seating.testBit_reseat {seating seating' : Seating} {player wire wire' : Nat}
    (hwire : seating.wire? player = some wire) (hwire' : seating'.wire? player = some wire')
    (index : Nat) : (seating.reseat seating' index).testBit wire' = index.testBit wire := by
  have hlt : player < seating.size := (List.getElem?_eq_some_iff.mp hwire).1
  have hlt' : player < seating'.size := (List.getElem?_eq_some_iff.mp hwire').1
  rw [wire?_of_lt hlt, Option.some_inj] at hwire
  rw [wire?_of_lt hlt', Option.some_inj] at hwire'
  subst hwire hwire'
  rw [reseat, testBit_basisIndex_of_lt (wire_lt hlt'), player_wire]

namespace Register

variable {wires : Nat}

def evolved (α : Type) [Scalar α] (wires : Nat) (operations : List (Operation Nat)) :
    Except Error (Register α wires) := do
  (← init wires).applyAll operations

/-- The probability of every assignment of values to players, where bit `k` of the
number of an assignment is the value of player `k`. -/
def playerProbabilities (register : Register α wires) (seating : Seating) : List α :=
  (List.range (basisSize wires)).map fun values =>
    (register.amplitude ((Seating.identity wires).reseat seating values)).normSq

theorem amplitude_eq_playerWave {seating : Seating} (register : Register α wires)
    {index : Nat} (h : index < basisSize wires) :
    register.amplitude index =
      seating.playerWave register.wave (index.testBit ∘ seating.wire) := by
  rw [Seating.playerWave, Seating.comp_wire_player, amplitude_eq_wave h]

theorem amplitude_reseat_identity {seating : Seating} (register : Register α wires)
    (hsize : seating.size = wires) (values : Nat) :
    register.amplitude ((Seating.identity wires).reseat seating values) =
      seating.playerWave register.wave values.testBit := by
  simp [hsize, Seating.reseat, Seating.playerWave, wave, Function.comp_def]

theorem evolved_of_fits (α : Type) [Scalar α] {operations : List (Operation Nat)}
    (hwires : wires ≤ maxWires) (h : ∀ operation ∈ operations, operation.Fits wires) :
    ∃ state, evolved α wires operations = .ok state ∧
      state.wave = Operation.actAll (zero wires : Register α wires).wave operations := by
  obtain ⟨state, hstate, hwave⟩ := applyAll_of_fits h (zero wires : Register α wires)
  refine ⟨state, ?_, hwave⟩
  rw [evolved, init, if_pos hwires, ok_bind, hstate]

end Register

namespace Script

def playerOperations (script : String) (players : Nat) : List (Operation Nat) :=
  (scan script players).instructions.map Instruction.operation

theorem playerOperations_fit (script : String) (players : Nat) :
    ∀ operation ∈ playerOperations script players, operation.Fits players := by
  intro operation hmem
  obtain ⟨instruction, hinstruction, rfl⟩ := List.mem_map.mp hmem
  exact scan_fits script players instruction hinstruction

theorem operations_seatedCircuit (script : String) (players : Nat) (seating : Seating) :
    (seatedCircuit players seating (scan script players).instructions).operations =
      (playerOperations script players).map (·.map seating.wire) := by
  simp [seatedCircuit, playerOperations, Function.comp_def]

theorem operations_fit (script : String) (seating : Seating) :
    ∀ operation ∈ (playerOperations script seating.size).map (·.map seating.wire),
      operation.Fits seating.size := by
  intro operation hmem
  obtain ⟨played, hplayed, rfl⟩ := List.mem_map.mp hmem
  exact (playerOperations_fit script seating.size played hplayed).map
    (fun _ => Seating.wire_lt) (fun _ _ _ _ heq => seating.wire_injective heq)

theorem evolved_of_isValid (α : Type) [Scalar α] {script : String} {players : Nat}
    {seating : Seating} (hvalid : isValid script players = true) (hsize : seating.size = players) :
    ∃ (circuit : Circuit) (state : Register α players),
      Script.circuit script players seating = .ok circuit ∧
      Register.evolved α players circuit.operations = .ok state ∧
      seating.playerWave state.wave =
        Operation.actAll (Register.zero players : Register α players).wave
          (playerOperations script players) := by
  subst hsize
  have hwires : seating.size ≤ maxWires := by
    obtain ⟨⟨-, hle⟩, -⟩ := isValid_iff.mp hvalid
    exact Nat.le_trans hle (by decide)
  obtain ⟨state, hstate, hwave⟩ :=
    Register.evolved_of_fits α hwires (operations_fit script seating)
  refine ⟨_, state, circuit_of_isValid hvalid rfl, ?_, ?_⟩
  · rw [operations_seatedCircuit, hstate]
  · rw [hwave, Seating.playerWave_actAll, Seating.playerWave_zero]

/-- Two seatings lead a valid script to the same state, but for the order of the
wires: the amplitude of a basis state under one seating is the amplitude under the
other of the basis state in which every player keeps its value. The probabilities of
what the players see are therefore the same. -/
theorem amplitude_reseat (α : Type) [Scalar α] (script : String) (players : Nat)
    (seating seating' : Seating) (hvalid : isValid script players = true)
    (hsize : seating.size = players) (hsize' : seating'.size = players) :
    ∃ (circuit circuit' : Circuit) (state state' : Register α players),
      Script.circuit script players seating = .ok circuit ∧
      Script.circuit script players seating' = .ok circuit' ∧
      Register.evolved α players circuit.operations = .ok state ∧
      Register.evolved α players circuit'.operations = .ok state' ∧
      (∀ index < basisSize players,
        seating.reseat seating' index < basisSize players ∧
        (∀ player wire wire', seating.wire? player = some wire →
          seating'.wire? player = some wire' →
            (seating.reseat seating' index).testBit wire' = index.testBit wire) ∧
        state.amplitude index = state'.amplitude (seating.reseat seating' index)) ∧
      state.playerProbabilities seating = state'.playerProbabilities seating' := by
  obtain ⟨circuit, state, hcircuit, hstate, hwave⟩ :=
    evolved_of_isValid α hvalid hsize
  obtain ⟨circuit', state', hcircuit', hstate', hwave'⟩ :=
    evolved_of_isValid α hvalid hsize'
  refine ⟨circuit, circuit', state, state', hcircuit, hcircuit', hstate, hstate', ?_, ?_⟩
  · intro index hindex
    have hlt : seating.reseat seating' index < basisSize players :=
      hsize' ▸ seating.reseat_lt seating' index
    refine ⟨hlt, fun player wire wire' hwire hwire' =>
      Seating.testBit_reseat hwire hwire' index, ?_⟩
    calc
      state.amplitude index =
          seating.playerWave state.wave (index.testBit ∘ seating.wire) :=
        state.amplitude_eq_playerWave hindex
      _ = seating'.playerWave state'.wave (index.testBit ∘ seating.wire) := by
        rw [hwave, hwave']
      _ = state'.amplitude (seating.reseat seating' index) := by
        rw [Seating.reseat, hsize']
        rfl
  · simp only [Register.playerProbabilities, Register.amplitude_reseat_identity _ hsize,
      Register.amplitude_reseat_identity _ hsize', hwave, hwave']

theorem amplitude_reseat_crossed_pair :
    ∃ (state state' : Register Float 2),
      Register.evolved Float 2 [.single .hadamard 0, .single .pauliY 1,
        .pair .controlledNot 0 1] = .ok state ∧
      Register.evolved Float 2 [.single .hadamard 1, .single .pauliY 0,
        .pair .controlledNot 1 0] = .ok state' ∧
      state.amplitude 1 = state'.amplitude 2 := by
  obtain ⟨circuit, circuit', state, state', hcircuit, hcircuit', hstate, hstate', hreseat, -⟩ :=
    amplitude_reseat Float "H1Y2C12" 2 ⟨[0, 1], by decide, by decide⟩
      ⟨[1, 0], by decide, by decide⟩ (by decide) rfl rfl
  cases hcircuit
  cases hcircuit'
  exact ⟨state, state', hstate, hstate', (hreseat 1 (by decide)).2.2⟩

end Script

end GateGame
