import GateGame.Proofs.Register.Reseating

namespace GateGame.Script

/-! How a script spells its operations. The places of the instructions are left out
here, so that scripts can be put together and taken apart. -/

/-- Characters that spell operations, one instruction after another. -/
inductive Spells (players : Nat) : List Char → List (Operation Nat) → Prop
  | nil : Spells players [] []
  | cons {chars rest : List Char} {operation : Operation Nat}
      {operations : List (Operation Nat)} (htoken : Token players chars operation)
      (hrest : Spells players rest operations) :
      Spells players (chars ++ rest) (operation :: operations)

variable {players : Nat} {chars chars' : List Char} {operations operations' : List (Operation Nat)}

theorem Spells.append (h : Spells players chars operations)
    (h' : Spells players chars' operations') :
    Spells players (chars ++ chars') (operations ++ operations') := by
  induction h with
  | nil => exact h'
  | cons htoken hrest ih =>
      rw [List.append_assoc, List.cons_append]
      exact .cons htoken ih

theorem Spells.scanFrom (h : Spells players chars operations) (position : Nat) :
    (scanFrom players position chars).stop = none ∧
      (scanFrom players position chars).instructions.map Instruction.operation = operations := by
  induction h generalizing position with
  | nil => exact ⟨rfl, rfl⟩
  | cons htoken hrest ih =>
      rw [scanFrom_token htoken]
      obtain ⟨hstop, hoperations⟩ := ih _
      exact ⟨hstop, by rw [List.map_cons, hoperations]⟩

theorem Scans.spells {position : Nat} {scan : Scan} (h : Scans players position chars scan)
    (hstop : scan.stop = none) :
    Spells players chars (scan.instructions.map Instruction.operation) := by
  induction h with
  | done => exact .nil
  | stop hfault => contradiction
  | token htoken hrest ih => exact .cons htoken (ih hstop)

theorem spells_of_isValid {script : String} (h : isValid script players = true) :
    Spells players script.toList (playerOperations script players) :=
  (scans_scanFrom players 0 script.toList).spells (isValid_iff.mp h).2

theorem isValid_of_spells {script : String} (hplayers : 1 ≤ players ∧ players ≤ maxPlayers)
    (h : Spells players script.toList operations) :
    isValid script players = true ∧ playerOperations script players = operations :=
  ⟨isValid_iff.mpr ⟨hplayers, (h.scanFrom 0).1⟩, (h.scanFrom 0).2⟩

/-- The character that names a player. -/
def digit (player : Nat) : Char := Char.ofNat ('1'.toNat + player)

/-- The number of players that digits can name. -/
def maxDigit : Nat := 9

theorem maxPlayers_le_maxDigit : maxPlayers ≤ maxDigit := by
  decide

theorem toNat_digit : ∀ player < maxDigit, (digit player).toNat = '1'.toNat + player := by
  decide

theorem isPlayer_digit {player : Nat} (hplayers : players ≤ maxDigit) (h : player < players) :
    IsPlayer players (digit player) := by
  rw [IsPlayer, toNat_digit player (Nat.lt_of_lt_of_le h hplayers)]
  simp only [Char.reduceToNat]
  omega

theorem playerOf_digit {player : Nat} (h : player < maxDigit) :
    playerOf (digit player) = player := by
  rw [playerOf, toNat_digit player h, Nat.add_sub_cancel_left]

/-- A letter for the gate of an operation and digits for its players are an instruction. -/
theorem token_digits {operation : Operation Nat} {c : Char} (hplayers : players ≤ maxDigit)
    (hletter : operation.gate.SpelledBy c) (h : operation.Fits players) :
    Token players (c :: operation.operands.map digit) operation := by
  have hplayerOf {player : Nat} (hplayer : player < players) :
      playerOf (digit player) = player :=
    playerOf_digit (Nat.lt_of_lt_of_le hplayer hplayers)
  cases operation with
  | single gate target =>
      have htarget := Operation.fits_single.mp h
      have htoken := Token.single hletter (isPlayer_digit hplayers htarget)
      rwa [hplayerOf htarget] at htoken
  | pair gate first second =>
      obtain ⟨hfirst, hsecond, hne⟩ := Operation.fits_pair.mp h
      have hdigits : digit first ≠ digit second := by
        intro heq
        have hplayer := congrArg playerOf heq
        rw [hplayerOf hfirst, hplayerOf hsecond] at hplayer
        exact hne hplayer
      have htoken := Token.pair hletter (isPlayer_digit hplayers hfirst)
        (isPlayer_digit hplayers hsecond) hdigits
      rwa [hplayerOf hfirst, hplayerOf hsecond] at htoken

theorem digit_playerOf {c : Char} (hplayers : players ≤ maxDigit) (h : IsPlayer players c) :
    digit (playerOf c) = c := by
  apply Char.toNat_inj.mp
  rw [toNat_digit _ (Nat.lt_of_lt_of_le h.playerOf_lt hplayers), playerOf]
  exact Nat.add_sub_of_le h.1

/-- No letter of a gate names a player. -/
theorem not_isPlayer_of_spelledBy {gate : Gate} {c : Char} (hplayers : players ≤ maxDigit)
    (h : gate.SpelledBy c) : ¬ IsPlayer players c := by
  have hdigits : ∀ player < maxDigit, Gate.ofChar? (digit player) = none := by decide
  intro hplayer
  have hnone := hdigits _ (Nat.lt_of_lt_of_le hplayer.playerOf_lt hplayers)
  rw [digit_playerOf hplayers hplayer, Gate.ofChar?_eq_some_iff.mpr h] at hnone
  contradiction

theorem Token.exists_letter {chars : List Char} {operation : Operation Nat}
    (hplayers : players ≤ maxDigit) (h : Token players chars operation) :
    ∃ c, operation.gate.SpelledBy c ∧ chars = c :: operation.operands.map digit := by
  cases h with
  | single hgate ha =>
      exact ⟨_, hgate, by simp [Operation.operands, digit_playerOf hplayers ha]⟩
  | pair hgate ha hb hne =>
      exact ⟨_, hgate, by
        simp [Operation.operands, digit_playerOf hplayers ha, digit_playerOf hplayers hb]⟩

/-- The script of operations, one instruction after another, in capital letters. -/
def written (operations : List (Operation Nat)) : String :=
  String.ofList (operations.flatMap fun operation =>
    operation.gate.letter :: operation.operands.map digit)

example : written [.single .hadamard 0, .pair .swap 2 1] = "H1S32" := by decide

theorem written_cons_ne_empty (operation : Operation Nat) (rest : List (Operation Nat)) :
    written (operation :: rest) ≠ "" := by
  intro hempty
  have hchars := congrArg String.toList hempty
  rw [written, String.toList_ofList, List.flatMap_cons] at hchars
  exact List.cons_ne_nil _ _ hchars

theorem spells_written (hplayers : players ≤ maxDigit)
    (h : ∀ operation ∈ operations, operation.Fits players) :
    Spells players (written operations).toList operations := by
  rw [written, String.toList_ofList]
  induction operations with
  | nil => exact .nil
  | cons operation rest ih =>
      rw [List.flatMap_cons]
      have hletter : operation.gate.SpelledBy operation.gate.letter :=
        Gate.ofChar?_eq_some_iff.mp (Gate.ofChar?_letter operation.gate)
      exact .cons (token_digits hplayers hletter (h operation (by simp)))
        (ih fun other hother => h other (by simp [hother]))

/-- Valid scripts can be put together. The first one is played first. -/
theorem isValid_append {script script' : String} (h : isValid script players = true)
    (h' : isValid script' players = true) :
    isValid (script ++ script') players = true ∧
      playerOperations (script ++ script') players =
        playerOperations script players ++ playerOperations script' players := by
  apply isValid_of_spells (isValid_iff.mp h).1
  rw [String.toList_append]
  exact (spells_of_isValid h).append (spells_of_isValid h')

theorem isValid_written (hplayers : 1 ≤ players ∧ players ≤ maxPlayers)
    (h : ∀ operation ∈ operations, operation.Fits players) :
    isValid (written operations) players = true ∧
      playerOperations (written operations) players = operations :=
  isValid_of_spells hplayers (spells_written (hplayers.2.trans maxPlayers_le_maxDigit) h)

theorem isValid_append_written {script : String} (hvalid : isValid script players = true)
    (h : ∀ operation ∈ operations, operation.Fits players) :
    isValid (script ++ written operations) players = true ∧
      playerOperations (script ++ written operations) players =
        playerOperations script players ++ operations := by
  obtain ⟨hwritten, hoperations⟩ := isValid_written (isValid_iff.mp hvalid).1 h
  obtain ⟨hall, hplayed⟩ := isValid_append hvalid hwritten
  exact ⟨hall, by rw [hplayed, hoperations]⟩

theorem isValid_insert {before after : String} (hbefore : isValid before players = true)
    (hafter : isValid after players = true)
    (h : ∀ operation ∈ operations, operation.Fits players) :
    isValid (before ++ written operations ++ after) players = true ∧
      playerOperations (before ++ written operations ++ after) players =
        playerOperations before players ++ operations ++ playerOperations after players := by
  obtain ⟨hfirst, hplayed⟩ := isValid_append_written hbefore h
  obtain ⟨hall, hoperations⟩ := isValid_append hfirst hafter
  exact ⟨hall, by rw [hoperations, hplayed]⟩

/-- The circuit of operations on players who are seated. -/
def circuitOf (players : Nat) (seating : Seating) (operations : List (Operation Nat)) :
    Circuit where
  wires := players
  bits := players
  operations := operations.map (·.map seating.wire)
  measurements := (List.range players).map fun k => ⟨k, k⟩

theorem circuit_eq_circuitOf {script : String} {seating : Seating}
    (hvalid : isValid script players = true) (hsize : seating.size = players) :
    circuit script players seating =
      .ok (circuitOf players seating (playerOperations script players)) := by
  rw [circuit_of_isValid hvalid hsize, circuitOf, ← operations_seatedCircuit]
  rfl

end GateGame.Script
