import GateGame.Proofs.Script.Grammar

namespace GateGame

/-! Where the instructions of a script stand. What has been read of a script is a script of
its own, without a fault: a script is cut at any place between two instructions, and what
is read of the parts is what is read of the whole. -/

theorem Gate.one_le_arity (gate : Gate) : 1 ≤ gate.arity := by
  cases gate with
  | single gate => exact Nat.le_refl 1
  | pair gate => exact Nat.le_succ 1

theorem Gate.arity_le_two (gate : Gate) : gate.arity ≤ 2 := by
  cases gate with
  | single gate => exact Nat.le_succ 1
  | pair gate => exact Nat.le_refl 2

theorem Operation.length_operands {ι : Type} (operation : Operation ι) :
    operation.operands.length = operation.gate.arity := by
  cases operation <;> rfl

/-- The number of characters that write the instruction. -/
def Instruction.width (instruction : Instruction) : Nat :=
  instruction.operation.gate.arity + 1

namespace Script

def extent : List Instruction → Nat
  | [] => 0
  | instruction :: rest => instruction.width + extent rest

@[simp] theorem extent_cons (instruction : Instruction) (rest : List Instruction) :
    extent (instruction :: rest) = instruction.width + extent rest := rfl

theorem two_mul_length_le_extent (instructions : List Instruction) :
    2 * instructions.length ≤ extent instructions := by
  induction instructions with
  | nil => exact Nat.le_refl 0
  | cons instruction rest ih =>
      have harity := instruction.operation.gate.one_le_arity
      rw [extent_cons, Instruction.width, List.length_cons]
      omega

variable {players position : Nat} {chars rest : List Char} {instructions : List Instruction}
  {scan : Scan} {error : ScriptError}

theorem Token.width_eq {operation : Operation Nat} (h : Token players chars operation) :
    Instruction.width ⟨operation, position⟩ = chars.length :=
  h.length_eq.symm

theorem Scans.append (h : Scans players position chars ⟨instructions, none⟩)
    (hrest : Scans players (position + chars.length) rest scan) :
    Scans players position (chars ++ rest)
      ⟨instructions ++ scan.instructions, scan.stop⟩ := by
  -- The induction is on readings of any outcome, and the other case is excluded by `hread`.
  generalize hread : Scan.mk instructions none = read at h
  induction h generalizing instructions with
  | done =>
      obtain ⟨rfl, -⟩ := Scan.mk.inj hread
      exact hrest
  | stop hfault => cases hread
  | @token position chars tail operation read htoken _ ih =>
      obtain ⟨rfl, hstop⟩ := Scan.mk.inj hread
      rw [List.length_append, ← Nat.add_assoc] at hrest
      rw [List.append_assoc, List.cons_append]
      exact .token htoken (ih hrest (by rw [hstop]))

/-- What is read before the end or before the fault. -/
theorem Scans.split (h : Scans players position chars scan) :
    ∃ read rest, chars = read ++ rest ∧ read.length = extent scan.instructions ∧
      Scans players position read ⟨scan.instructions, none⟩ ∧
      Scans players (position + read.length) rest ⟨[], scan.stop⟩ := by
  induction h with
  | done => exact ⟨[], [], rfl, rfl, .done, .done⟩
  | stop hfault => exact ⟨[], _, rfl, rfl, .done, .stop hfault⟩
  | token htoken _ ih =>
      obtain ⟨read, rest, rfl, hlength, hread, hrest⟩ := ih
      refine ⟨_ ++ read, rest, (List.append_assoc ..).symm, ?_, .token htoken hread, ?_⟩
      · rw [List.length_append, extent_cons, htoken.width_eq, hlength]
      · rwa [List.length_append, ← Nat.add_assoc]

theorem Scans.eq_nil (h : Scans players position chars ⟨[], none⟩) : chars = [] := by
  cases h
  rfl

theorem Scans.fault (h : Scans players position chars ⟨[], some error⟩) :
    Fault players position chars error := by
  cases h with
  | stop hfault => exact hfault

/-- Without a fault all is read. -/
theorem Scans.length_eq (h : Scans players position chars scan) (hstop : scan.stop = none) :
    chars.length = extent scan.instructions := by
  obtain ⟨read, rest, rfl, hlength, -, hrest⟩ := h.split
  rw [hstop] at hrest
  rw [hrest.eq_nil, List.append_nil, hlength]

/-- An instruction stands where the ones before it end. -/
theorem Scans.position_eq (h : Scans players position chars scan) {i : Nat}
    {instruction : Instruction} (hget : scan.instructions[i]? = some instruction) :
    instruction.position = position + extent (scan.instructions.take i) := by
  induction h generalizing i with
  | done => simp at hget
  | stop hfault => simp at hget
  | token htoken _ ih =>
      cases i with
      | zero =>
          obtain rfl := Option.some.inj hget
          rfl
      | succ i =>
          rw [List.getElem?_cons_succ] at hget
          rw [ih hget, List.take_succ_cons, extent_cons, htoken.width_eq, Nat.add_assoc]

end Script

end GateGame
