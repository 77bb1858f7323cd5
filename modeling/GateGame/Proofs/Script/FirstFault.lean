import GateGame.Proofs.Script.Reader

namespace GateGame

/-! The error that reading a script ends with. It is about the first fault of the script:
what comes before is a script of its own without one. -/

/-- The character that the error quotes as one it did not expect. -/
def ScriptError.found? : ScriptError → Option Char
  | .unknownGate _ found | .operandOutOfRange _ found => some found
  | .playerCount _ | .truncated _ _ | .repeatedOperand _ _ _ => none

namespace Script

variable {players position : Nat} {chars rest : List Char} {error other : ScriptError}

theorem Fault.unique (h : Fault players position chars error)
    (h' : Fault players position chars other) : error = other := by
  have hread := (scanFrom_fault h).symm.trans (scanFrom_fault h')
  exact Option.some.inj (Scan.mk.inj hread).2

/-- An error stands at one of the characters that are left, the one that it quotes. -/
theorem Fault.exists_place (h : Fault players position rest error) :
    ∃ offset < rest.length, error.position? = some (position + offset) ∧
      ∀ found, error.found? = some found → rest[offset]? = some found := by
  cases h with
  | @unknownGate c rest hgate =>
      refine ⟨0, by simp, rfl, ?_⟩
      rintro found ⟨rfl⟩
      rfl
  | truncated hgate hshort => exact ⟨0, by simp, rfl, fun _ hfound => nomatch hfound⟩
  | operandOutOfRange before hgate hlong hbefore hplayers ha =>
      refine ⟨1 + before.length, by simp; omega, ?_, ?_⟩
      · rw [ScriptError.position?, Nat.add_assoc]
      · rintro found ⟨rfl⟩
        rw [Nat.add_comm, List.getElem?_cons_succ, List.getElem?_append_right (Nat.le_refl _),
          Nat.sub_self]
        rfl
  | repeatedOperand hgate ha => exact ⟨0, by simp, rfl, fun _ hfound => nomatch hfound⟩

theorem two_mul_length_instructions_le (script : String) (players : Nat) :
    2 * (scan script players).instructions.length ≤ script.toList.length := by
  obtain ⟨read, rest, hchars, hlength, -, -⟩ := (scans_scan script players).split
  have hextent := two_mul_length_le_extent (scan script players).instructions
  rw [hchars, List.length_append, hlength]
  exact Nat.le_trans hextent (Nat.le_add_right ..)

/-- The characters before the fault make a script without one, and the fault is among the
others. -/
theorem exists_fault_of_stop {script : String}
    (h : (scan script players).stop = some error) :
    ∃ read rest, script.toList = read ++ rest ∧
      read.length = extent (scan script players).instructions ∧
      scan (String.ofList read) players = ⟨(scan script players).instructions, none⟩ ∧
      Fault players read.length rest error := by
  obtain ⟨read, rest, hchars, hlength, hread, hrest⟩ := (scans_scan script players).split
  rw [h, Nat.zero_add] at hrest
  refine ⟨read, rest, hchars, hlength, ?_, hrest.fault⟩
  rw [scan, String.toList_ofList, ← hread.eq_scanFrom]

end Script

open Script

/-- A reader yields the instructions of a script one by one and at most one error, which
comes last; after that, or at the end of the script, it yields nothing for ever. There are
not more items than half as many as characters, and one. What was read before an error is
a script without one, the place of the error is where it ends, and the error is the one
that the rest of the script gives there: the gate is sought first, then all its
characters, then players from the left, then two that differ. The character that an error
quotes stands at its place. -/
theorem Reader.item_until_fault (script : String) (players : Nat) :
    (∀ requests, (ofScript script players).item requests =
      (Script.scan script players).items[requests]?) ∧
    let reader := ofScript script players
    let scan := Script.scan script players
    let chars := script.toList
    (∀ requests, reader.item requests = none ↔ scan.items.length ≤ requests) ∧
    (∀ requests error, reader.item requests = some (.error error) →
      scan.stop = some error ∧ requests + 1 = scan.items.length) ∧
    scan.items.length ≤ chars.length / 2 + 1 ∧
    ∀ error, scan.stop = some error →
      let reached := extent scan.instructions
      reached < chars.length ∧
      Script.scan (String.ofList (chars.take reached)) players = ⟨scan.instructions, none⟩ ∧
      (∀ other, Fault players reached (chars.drop reached) other ↔ other = error) ∧
      (∃ place, error.position? = some place ∧ place < chars.length ∧
        ∀ found, error.found? = some found → chars[place]? = some found) ∧
      (isPlayerCount players = true → validate script players = .error error) := by
  have hitem := item_ofScript script players
  refine ⟨hitem, ?_⟩
  intro reader scan chars
  refine ⟨fun requests => ?_, fun requests error hyield => ?_, ?_, fun error hstop => ?_⟩
  · rw [hitem, List.getElem?_eq_none_iff]
  · rw [hitem] at hyield
    exact Scan.stop_of_getElem?_items hyield
  · have hinstructions : 2 * scan.instructions.length ≤ chars.length :=
      two_mul_length_instructions_le script players
    have hstop : scan.stop.toList.length ≤ 1 := by cases scan.stop <;> simp
    rw [Scan.length_items]
    omega
  · obtain ⟨read, rest, hchars, hlength, hread, hfault⟩ := exists_fault_of_stop hstop
    obtain ⟨offset, hoffset, hposition, hfound⟩ := hfault.exists_place
    intro reached
    have hreached : reached = read.length := hlength.symm
    have hsplit : chars = read ++ rest := hchars
    rw [hreached, hsplit, List.take_left, List.drop_left, List.length_append]
    refine ⟨by omega, hread, fun other => ⟨fun hother => hother.unique hfault, ?_⟩,
      ⟨read.length + offset, hposition, by omega, fun found hquoted => ?_⟩, fun hplayers => ?_⟩
    · rintro rfl
      exact hfault
    · rw [List.getElem?_append_right (Nat.le_add_right ..), Nat.add_sub_cancel_left]
      exact hfound found hquoted
    · have hstop' : (Script.scan script players).stop = some error := hstop
      rw [validate, if_pos hplayers, hstop']

theorem Reader.item_until_fault_among_letters :
    let reader := ofScript "HaSbbX1" 60
    let error := ScriptError.repeatedOperand 2 (.pair .swap) 'b'
    reader.item 0 = some (.ok ⟨.single .hadamard 48, 0⟩) ∧
      reader.item 1 = some (.error error) ∧
      (∀ requests, 2 ≤ requests → reader.item requests = none) ∧
      Script.scan "Ha" 60 = ⟨[⟨.single .hadamard 48, 0⟩], none⟩ ∧
      ∀ other, Fault 60 2 ['S', 'b', 'b', 'X', '1'] other ↔ other = error := by
  intro reader error
  have hscan : Script.scan "HaSbbX1" 60 = ⟨[⟨.single .hadamard 48, 0⟩], some error⟩ := by decide
  obtain ⟨hitem, hnone, -, -, hfault⟩ := item_until_fault "HaSbbX1" 60
  rw [hscan] at hitem hnone hfault
  obtain ⟨-, hprefix, hunique, -⟩ := hfault error rfl
  exact ⟨hitem 0, hitem 1, fun requests hrequests => (hnone requests).mpr hrequests, hprefix,
    hunique⟩

end GateGame
