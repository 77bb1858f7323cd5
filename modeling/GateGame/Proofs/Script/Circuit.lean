import GateGame.Proofs.Circuit.Fits
import GateGame.Proofs.Script.Grammar
import GateGame.Proofs.Seating.Wire
import GateGame.Script.Circuit

namespace GateGame.Script

/-! The circuit of a script. What the scanner yields always fits the table, so the
checks on the way to a circuit find nothing of their own: a circuit is refused for
the reason that the script is refused, or because the seating is not for as many
players. -/

theorem Token.fits {players : Nat} {chars : List Char} {operation : Operation Nat}
    (h : Token players chars operation) : operation.Fits players := by
  cases h with
  | single hgate ha => exact Operation.fits_single.mpr ha.playerOf_lt
  | pair hgate ha hb hne =>
      refine Operation.fits_pair.mpr ⟨ha.playerOf_lt, hb.playerOf_lt, ?_⟩
      exact fun heq => hne (ha.playerOf_inj hb heq)

theorem Scans.fits {players position : Nat} {chars : List Char} {scan : Scan}
    (h : Scans players position chars scan) :
    ∀ instruction ∈ scan.instructions, instruction.operation.Fits players := by
  induction h with
  | done => simp
  | stop hfault => simp
  | token htoken hrest ih =>
      intro instruction hmem
      rcases List.mem_cons.mp hmem with rfl | hmem
      · exact htoken.fits
      · exact ih instruction hmem

theorem Scans.exists_position {players position : Nat} {chars : List Char} {scan : Scan}
    (h : Scans players position chars scan) :
    ∀ error, scan.stop = some error → ∃ place, error.position? = some place := by
  induction h with
  | done => simp
  | stop hfault =>
      rintro error ⟨rfl⟩
      cases hfault <;> exact ⟨_, rfl⟩
  | token htoken hrest ih => exact ih

theorem seatedWire_of_lt {seating : Seating} {player : Nat} (h : player < seating.size) :
    seatedWire seating player = .ok (seating.wire player) := by
  rw [seatedWire, Seating.wire?_of_lt h]

theorem seatedOperation_of_fits {seating : Seating} {instruction : Instruction}
    (h : instruction.operation.Fits seating.size) :
    seatedOperation seating instruction =
      .ok (instruction.operation.map seating.wire) := by
  obtain ⟨operation, position⟩ := instruction
  cases operation with
  | single gate target =>
      have htarget := seatedWire_of_lt (Operation.fits_single.mp h)
      simp only [seatedOperation, seatedWires, htarget]
      rfl
  | pair gate first second =>
      obtain ⟨hfirst, hsecond, -⟩ := Operation.fits_pair.mp h
      simp only [seatedOperation, seatedWires, seatedWire_of_lt hfirst,
        seatedWire_of_lt hsecond]
      rfl

theorem addInstructions_of_fits {seating : Seating} {instructions : List Instruction}
    (circuit : Circuit) (hsize : seating.size = circuit.wires)
    (h : ∀ instruction ∈ instructions, instruction.operation.Fits seating.size) :
    addInstructions seating circuit instructions =
      .ok { circuit with
        operations := circuit.operations ++
          instructions.map fun instruction => instruction.operation.map seating.wire } := by
  induction instructions generalizing circuit with
  | nil => simp [addInstructions]
  | cons instruction rest ih =>
      have hfits := h instruction (by simp)
      have hseated : (instruction.operation.map seating.wire).Fits circuit.wires := by
        rw [← hsize]
        exact hfits.map (fun _ => Seating.wire_lt)
          (fun _ _ _ _ heq => seating.wire_injective heq)
      rw [addInstructions, seatedOperation_of_fits hfits, ok_bind,
        Circuit.add_of_fits hseated, ok_bind]
      rw [ih _ (by exact hsize) (fun other hother => h other (by simp [hother]))]
      simp

def seatedCircuit (players : Nat) (seating : Seating) (instructions : List Instruction) :
    Circuit where
  wires := players
  bits := players
  operations := instructions.map fun instruction => instruction.operation.map seating.wire
  measurements := (List.range players).map fun k => ⟨k, k⟩

theorem scan_fits (script : String) (players : Nat) :
    ∀ instruction ∈ (scan script players).instructions,
      instruction.operation.Fits players :=
  (scans_scanFrom players 0 script.toList).fits

theorem circuit_of_seated {script : String} {players : Nat} {seating : Seating}
    (hplayers : isPlayerCount players = true) (hsize : seating.size = players) :
    circuit script players seating =
      match (scan script players).stop with
      | some error => .error (stopError error)
      | none => .ok (seatedCircuit players seating (scan script players).instructions) := by
  have hadd : addInstructions seating (Circuit.empty players players)
      (scan script players).instructions = _ :=
    addInstructions_of_fits _ hsize (by rw [hsize]; exact scan_fits script players)
  simp only [circuit, checkPlayerCount, hplayers, hsize, hadd, ok_bind, if_true, ne_eq,
    not_true_eq_false, if_false]
  cases (scan script players).stop with
  | some error => rfl
  | none => simp [seatedCircuit, Circuit.empty, Circuit.measureAll, pure, Except.pure]

theorem circuit_of_isValid {script : String} {players : Nat} {seating : Seating}
    (hvalid : isValid script players = true) (hsize : seating.size = players) :
    circuit script players seating =
      .ok (seatedCircuit players seating (scan script players).instructions) := by
  obtain ⟨hplayers, hstop⟩ := isValid_iff.mp hvalid
  rw [circuit_of_seated (isPlayerCount_iff.mpr hplayers) hsize, hstop]

theorem circuit_of_not_isPlayerCount {script : String} {players : Nat} {seating : Seating}
    (hplayers : ¬ isPlayerCount players = true) :
    circuit script players seating = .error (.invalidPlayerCount players) := by
  simp only [circuit, checkPlayerCount, if_neg hplayers, error_bind]

theorem circuit_of_size_ne {script : String} {players : Nat} {seating : Seating}
    (hplayers : isPlayerCount players = true) (hsize : seating.size ≠ players) :
    circuit script players seating =
      .error (.invalidSeating (.sizeMismatch seating.size players)) := by
  simp only [circuit, checkPlayerCount, hplayers, hsize, ok_bind, if_true, ne_eq,
    not_false_eq_true]

theorem circuit_of_stop {script : String} {players : Nat} {seating : Seating}
    {reason : ScriptError} (hplayers : isPlayerCount players = true)
    (hsize : seating.size = players) (hstop : (scan script players).stop = some reason) :
    ∃ position, reason.position? = some position ∧
      circuit script players seating =
        .error (.unrecognizedToken position (.script reason)) := by
  obtain ⟨position, hposition⟩ :=
    (scans_scanFrom players 0 script.toList).exists_position reason hstop
  refine ⟨position, hposition, ?_⟩
  rw [circuit_of_seated hplayers hsize, hstop]
  simp only [stopError, hposition, Option.getD_some]

/-- A circuit is built exactly for a valid script and a seating of as many players.
It then has a wire and a bit for each player, the instructions of the script in
order with every player replaced by its wire, and a measurement of every wire. If
it is not built, the error is the first of these: too few or too many players, a
seating of another size, or the very error for which the script is refused, with
its place and its words. -/
theorem circuit_iff_isValid (script : String) (players : Nat) (seating : Seating) :
    ((∃ circuit, Script.circuit script players seating = .ok circuit) ↔
      isValid script players = true ∧ seating.size = players) ∧
    (∀ circuit, Script.circuit script players seating = .ok circuit →
      circuit.wires = players ∧ circuit.bits = players ∧
        circuit.operations = (scan script players).instructions.map
          (fun instruction => instruction.operation.map seating.wire) ∧
        (∀ instruction ∈ (scan script players).instructions,
          ∀ player ∈ instruction.operation.operands,
            seating.wire? player = some (seating.wire player)) ∧
        circuit.measurements = (List.range players).map fun k => ⟨k, k⟩) ∧
    (∀ error, Script.circuit script players seating = .error error →
      ¬ (1 ≤ players ∧ players ≤ 5) ∧ error = .invalidPlayerCount players ∨
      (1 ≤ players ∧ players ≤ 5) ∧ seating.size ≠ players ∧
        error = .invalidSeating (.sizeMismatch seating.size players) ∨
      (1 ≤ players ∧ players ≤ 5) ∧ seating.size = players ∧
        ∃ reason position, validate script players = .error reason ∧
          reason.position? = some position ∧
            error = .unrecognizedToken position (.script reason) ∧
              error.message =
                s!"Unrecognized token at position {position}: {reason.message}") := by
  have hrange : isPlayerCount players = true ↔ 1 ≤ players ∧ players ≤ 5 :=
    isPlayerCount_iff
  rw [isValid_iff, ← isPlayerCount_iff, ← hrange]
  by_cases hplayers : isPlayerCount players = true
  · by_cases hsize : seating.size = players
    · cases hstop : (scan script players).stop with
      | none =>
          have hbuilt : circuit script players seating = .ok _ :=
            circuit_of_isValid (isValid_iff.mpr ⟨isPlayerCount_iff.mp hplayers, hstop⟩) hsize
          simp only [hbuilt]
          refine ⟨by simp [hplayers, hsize], ?_, by simp⟩
          rintro built ⟨rfl⟩
          refine ⟨rfl, rfl, rfl, ?_, rfl⟩
          intro instruction hinstruction player hplayer
          have hfits := scan_fits script players instruction hinstruction
          exact Seating.wire?_of_lt (hsize ▸ hfits.1 player hplayer)
      | some reason =>
          obtain ⟨position, hposition, hrefused⟩ := circuit_of_stop hplayers hsize hstop
          have hreason : validate script players = .error reason := by
            rw [validate, if_pos hplayers, hstop]
          simp only [hrefused]
          refine ⟨by simp, by simp, ?_⟩
          rintro error ⟨rfl⟩
          exact .inr (.inr ⟨hplayers, hsize, reason, position, hreason, hposition, rfl, rfl⟩)
    · rw [circuit_of_size_ne hplayers hsize]
      refine ⟨by simp [hsize], by simp, ?_⟩
      rintro error ⟨rfl⟩
      exact .inr (.inl ⟨hplayers, hsize, rfl⟩)
  · rw [circuit_of_not_isPlayerCount hplayers]
    refine ⟨by simp [hplayers], by simp, ?_⟩
    rintro error ⟨rfl⟩
    exact .inl ⟨hplayers, rfl⟩

theorem circuit_of_crossed_pair :
    (∃ circuit, Script.circuit "x1C12" 2 ⟨[1, 0], by decide, by decide⟩ = .ok circuit ∧
      circuit.operations = [.single .pauliX 1, .pair .controlledNot 1 0]) ∧
    ∃ error, Script.circuit "x1C11" 2 ⟨[1, 0], by decide, by decide⟩ = .error error ∧
      ∃ reason position, validate "x1C11" 2 = .error reason ∧
        error = .unrecognizedToken position (.script reason) := by
  constructor
  · obtain ⟨circuit, hbuilt⟩ :=
      (circuit_iff_isValid "x1C12" 2 ⟨[1, 0], by decide, by decide⟩).1.mpr ⟨by decide, rfl⟩
    obtain ⟨-, -, hoperations, -⟩ := (circuit_iff_isValid _ _ _).2.1 circuit hbuilt
    exact ⟨circuit, hbuilt, hoperations.trans rfl⟩
  · refine ⟨_, rfl, ?_⟩
    rcases (circuit_iff_isValid "x1C11" 2 ⟨[1, 0], by decide, by decide⟩).2.2 _ rfl with
      ⟨hplayers, -⟩ | ⟨-, hsize, -⟩ | ⟨-, -, reason, position, hreason, -, herror, -⟩
    · exact absurd (by decide) hplayers
    · exact absurd rfl hsize
    · exact ⟨reason, position, hreason, herror⟩

end GateGame.Script
