import GateGame.Proofs.Except
import GateGame.Proofs.Script.Places
import GateGame.Script.Reader

namespace GateGame

/-! A reader yields what is read of the whole script, item by item, and then nothing any
more. It counts characters where reading the whole script takes them away, so its steps
are first said of a reader between what it has read and what is still to come. -/

theorem Scan.length_items (scan : Scan) :
    scan.items.length = scan.instructions.length + scan.stop.toList.length := by
  simp [items]

theorem Scan.items_of_token (operation : Operation Nat) (position : Nat) (scan : Scan) :
    (Scan.mk (⟨operation, position⟩ :: scan.instructions) scan.stop).items =
      .ok ⟨operation, position⟩ :: scan.items := rfl

theorem Scan.items_of_end {scan : Scan} (h : scan.stop = none) :
    scan.items = scan.instructions.map .ok := by
  rw [items, h, Option.toList_none, List.map_nil, List.append_nil]

/-- An error comes last. -/
theorem Scan.stop_of_getElem?_items {scan : Scan} {i : Nat} {error : ScriptError}
    (h : scan.items[i]? = some (.error error)) :
    scan.stop = some error ∧ i + 1 = scan.items.length := by
  rcases scan with ⟨instructions, _ | stop⟩
  · simp [items] at h
  · rw [items, List.getElem?_append] at h
    split at h
    · simp at h
    · next hge =>
      obtain ⟨hlast, hstop⟩ : i - instructions.length = 0 ∧ stop = error := by
        simpa [List.getElem?_singleton] using h
      refine ⟨congrArg some hstop, ?_⟩
      simp only [List.length_map] at hge
      simp only [length_items, Option.toList_some, List.length_singleton]
      omega

namespace Reader

open Script

theorem item_zero (reader : Reader) : reader.item 0 = reader.next.1 := rfl

theorem item_succ (reader : Reader) (requests : Nat) :
    reader.item (requests + 1) = reader.next.2.item requests := rfl

variable {reader : Reader} {instruction : Instruction} {error : ScriptError}

/-- A reader that has nothing to yield has nothing to yield for ever. -/
theorem item_of_next_eq (h : reader.next = (none, reader)) (requests : Nat) :
    reader.item requests = none := by
  induction requests with
  | zero => rw [item_zero, h]
  | succ requests ih => rw [item_succ, h, ih]

theorem next_of_finished (h : reader.finished = true) : reader.next = (none, reader) := by
  rw [next, dif_neg (by simp [h])]

theorem next_of_ok (hfinished : reader.finished = false)
    (h : reader.position < reader.chars.size) (hread : reader.instruction h = .ok instruction) :
    reader.next = (some (.ok instruction),
      { reader with position := reader.position + 1 + instruction.operation.gate.arity }) := by
  rw [next, dif_pos ⟨hfinished, h⟩, hread]

theorem next_of_error (hfinished : reader.finished = false)
    (h : reader.position < reader.chars.size) (hread : reader.instruction h = .error error) :
    reader.next = (some (.error error), { reader with finished := true }) := by
  rw [next, dif_pos ⟨hfinished, h⟩, hread]

/-- The reader that has read some characters without a fault and has others before it. -/
def between (players : Nat) (before rest : List Char) : Reader :=
  ⟨(before ++ rest).toArray, players, before.length, false⟩

section Between

variable {count : Nat} {chars before rest : List Char} {operation : Operation Nat}

theorem next_between_nil (count : Nat) (before : List Char) :
    (between count before []).next = (none, between count before []) := by
  rw [next, dif_neg (by simp [between])]

theorem instruction_of_token (h : Token count chars operation) (before rest : List Char)
    (hlt : before.length < (before ++ (chars ++ rest)).toArray.size) :
    (between count before (chars ++ rest)).instruction hlt =
      .ok ⟨operation, before.length⟩ := by
  cases h with
  | single hgate ha =>
      simp [between, Reader.instruction, Reader.operation, playerAt, Except.map, Gate.arity,
        Gate.ofChar?_eq_some_iff.mpr hgate, player?_of_isPlayer ha]
  | pair hgate ha hb hne =>
      simp [between, Reader.instruction, Reader.operation, playerAt, Except.map, Gate.arity,
        Gate.ofChar?_eq_some_iff.mpr hgate, player?_of_isPlayer ha, player?_of_isPlayer hb, hne]

theorem instruction_of_fault (h : Fault count before.length rest error)
    (hlt : before.length < (before ++ rest).toArray.size) :
    (between count before rest).instruction hlt = .error error := by
  cases h with
  | unknownGate hgate => simp [between, Reader.instruction, Gate.ofChar?_eq_none hgate]
  | truncated hgate hshort =>
      have hend := Nat.not_lt.mpr (Nat.succ_le_of_lt hshort)
      simp [between, Reader.instruction, Gate.ofChar?_eq_some_iff.mpr hgate, hend]
  | operandOutOfRange first hgate hlong hbefore hplayers ha =>
      have hread := Gate.ofChar?_eq_some_iff.mpr hgate
      have hnone := player?_of_not_isPlayer ha
      rcases operand_cases hlong hbefore with
        ⟨gate, rfl, rfl⟩ | ⟨gate, rfl, ⟨b, tail, rfl, rfl⟩ | ⟨b, rfl⟩⟩
      · simp [between, Reader.instruction, Reader.operation, playerAt, Functor.map, Except.map,
          Gate.arity, hread, hnone]
      · simp [between, Reader.instruction, Reader.operation, playerAt, Except.map, Gate.arity,
          hread, hnone]
      · have hb := player?_of_isPlayer (hplayers b (by simp))
        simp [between, Reader.instruction, Reader.operation, playerAt, Except.map, Gate.arity,
          hread, hnone, hb]
  | repeatedOperand hgate ha =>
      simp [between, Reader.instruction, Reader.operation, playerAt, Except.map, Gate.arity,
        Gate.ofChar?_eq_some_iff.mpr hgate, player?_of_isPlayer ha]

/-- A reader that stands before an instruction yields it and goes on behind it. -/
theorem next_of_token (h : Token count chars operation) (before rest : List Char) :
    (between count before (chars ++ rest)).next =
      (some (.ok ⟨operation, before.length⟩), between count (before ++ chars) rest) := by
  have hlt : before.length < (before ++ (chars ++ rest)).toArray.size := by
    simp only [List.size_toArray, List.length_append, h.length_eq]
    omega
  rw [next_of_ok rfl hlt (instruction_of_token h before rest hlt)]
  simp [between, h.length_eq, Nat.add_assoc, Nat.add_comm 1]

/-- A reader that stands before a fault yields the error and is finished. -/
theorem next_of_fault (h : Fault count before.length rest error) :
    (between count before rest).next =
      (some (.error error), { between count before rest with finished := true }) := by
  have hlt : before.length < (before ++ rest).toArray.size := by
    cases h <;> simp
  exact next_of_error rfl hlt (instruction_of_fault h hlt)

theorem item_between {position : Nat} {scan : Scan} (h : Scans count position rest scan)
    (hposition : position = before.length) (requests : Nat) :
    (between count before rest).item requests = scan.items[requests]? := by
  -- Each request moves characters from `rest` to `before`, and takes the first item.
  induction h generalizing before requests with
  | done =>
      rw [item_of_next_eq (next_between_nil count before)]
      rfl
  | stop hfault =>
      subst hposition
      cases requests with
      | zero =>
          rw [item_zero, next_of_fault hfault]
          rfl
      | succ requests =>
          rw [item_succ, next_of_fault hfault, item_of_next_eq (next_of_finished rfl)]
          rfl
  | token htoken _ ih =>
      subst hposition
      rw [Scan.items_of_token]
      cases requests with
      | zero =>
          rw [item_zero, next_of_token htoken]
          rfl
      | succ requests =>
          rw [item_succ, next_of_token htoken, List.getElem?_cons_succ]
          exact ih List.length_append.symm requests

end Between

theorem item_ofScript (script : String) (players requests : Nat) :
    (ofScript script players).item requests = (scan script players).items[requests]? := by
  have hstart : ofScript script players = between players [] script.toList := rfl
  rw [hstart, item_between (scans_scan script players) rfl]

end Reader

end GateGame
