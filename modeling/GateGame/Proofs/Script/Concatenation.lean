import GateGame.Proofs.Script.Reader

namespace GateGame

/-! Reading scripts that are put together. Reading looks ahead no further than the players
of a gate, so characters that are added later change nothing but a gate that they
complete. -/

def Instruction.shift (offset : Nat) (instruction : Instruction) : Instruction :=
  { instruction with position := instruction.position + offset }

def ScriptError.shift (offset : Nat) : ScriptError → ScriptError
  | .playerCount players => .playerCount players
  | .unknownGate position found => .unknownGate (position + offset) found
  | .truncated position gate => .truncated (position + offset) gate
  | .operandOutOfRange position found => .operandOutOfRange (position + offset) found
  | .repeatedOperand position gate operand => .repeatedOperand (position + offset) gate operand

def ScriptError.IsTruncated (error : ScriptError) : Prop :=
  ∃ position gate, error = .truncated position gate

namespace Scan

def shift (offset : Nat) (scan : Scan) : Scan :=
  ⟨scan.instructions.map (.shift offset), scan.stop.map (.shift offset)⟩

def shiftItem (offset : Nat) : Except ScriptError Instruction → Except ScriptError Instruction
  | .ok instruction => .ok (instruction.shift offset)
  | .error error => .error (error.shift offset)

variable {scan scan' : Scan}

theorem items_shift (offset : Nat) (scan : Scan) :
    (scan.shift offset).items = scan.items.map (shiftItem offset) := by
  rcases scan with ⟨instructions, _ | stop⟩ <;> simp [shift, items, shiftItem]

theorem items_instructions_append (instructions : List Instruction) (scan : Scan) :
    (Scan.mk (instructions ++ scan.instructions) scan.stop).items =
      instructions.map .ok ++ scan.items := by
  rw [items, items, List.map_append, List.append_assoc]

theorem items_of_stop {error : ScriptError} (h : scan.stop = some error) :
    scan.items = scan.instructions.map .ok ++ (Scan.mk [] (some error)).items := by
  rw [items, h]
  rfl

theorem filterMap_items (scan : Scan) :
    scan.items.filterMap Except.toOption = scan.instructions := by
  rcases scan with ⟨instructions, _ | stop⟩ <;>
    simp [items, Except.toOption, List.filterMap_map, Function.comp_def]

theorem items_injective (h : scan.items = scan'.items) : scan = scan' := by
  have hinstructions : scan.instructions = scan'.instructions := by
    rw [← filterMap_items, h, filterMap_items]
  rcases scan with ⟨instructions, _ | stop⟩ <;> rcases scan' with ⟨_, _ | stop'⟩ <;>
    obtain rfl := hinstructions <;> simp [items] at h ⊢
  exact h

end Scan

namespace Script

variable {players position : Nat} {chars : List Char} {error : ScriptError}

theorem Fault.shift (h : Fault players position chars error) (offset : Nat) :
    Fault players (position + offset) chars (error.shift offset) := by
  cases h with
  | unknownGate hgate => exact .unknownGate hgate
  | truncated hgate hshort => exact .truncated hgate hshort
  | operandOutOfRange before hgate hlong hbefore hplayers ha =>
      rw [ScriptError.shift, Nat.add_right_comm _ _ offset, Nat.add_right_comm _ _ offset]
      exact .operandOutOfRange before hgate hlong hbefore hplayers ha
  | repeatedOperand hgate ha => exact .repeatedOperand hgate ha

theorem Scans.shift {outcome : Scan} (h : Scans players position chars outcome) (offset : Nat) :
    Scans players (position + offset) chars (outcome.shift offset) := by
  induction h with
  | done => exact .done
  | stop hfault => exact .stop (hfault.shift offset)
  | token htoken _ ih =>
      rw [Nat.add_right_comm] at ih
      exact .token htoken ih

theorem scanFrom_eq_shift (players offset : Nat) (chars : List Char) :
    scanFrom players offset chars = (scanFrom players 0 chars).shift offset := by
  have hshift := (scans_scanFrom players 0 chars).shift offset
  rw [Nat.zero_add] at hshift
  exact hshift.eq_scanFrom.symm

/-- A fault stays one whatever follows, unless it is that characters are missing. -/
theorem Fault.append (h : Fault players position chars error) (hfinal : ¬ error.IsTruncated)
    (more : List Char) : Fault players position (chars ++ more) error := by
  cases h with
  | unknownGate hgate => exact .unknownGate hgate
  | truncated hgate hshort => exact absurd ⟨_, _, rfl⟩ hfinal
  | operandOutOfRange before hgate hlong hbefore hplayers ha =>
      rw [List.cons_append, List.append_assoc, List.cons_append]
      refine .operandOutOfRange before hgate ?_ hbefore hplayers ha
      simp only [List.length_append, List.length_cons] at hlong ⊢
      omega
  | repeatedOperand hgate ha => exact .repeatedOperand hgate ha

theorem Fault.length_le_of_truncated {place : Nat} {gate : Gate}
    (h : Fault players position chars (.truncated place gate)) : chars.length ≤ gate.arity := by
  cases h with
  | truncated hgate hshort => exact hshort

/-- Two characters complete any gate, after which they are not missing any more. -/
theorem Fault.scanFrom_append_ne (h : Fault players position chars error)
    (htruncated : error.IsTruncated) :
    scanFrom players position (chars ++ ['1', '1']) ≠ ⟨[], some error⟩ := by
  obtain ⟨place, gate, rfl⟩ := htruncated
  intro hread
  have hscans := scans_scanFrom players position (chars ++ ['1', '1'])
  rw [hread] at hscans
  have hlength := hscans.fault.length_le_of_truncated
  have harity := gate.arity_le_two
  cases h with
  | truncated hgate hshort =>
      simp only [List.length_append, List.length_cons] at hlength
      omega

/-- What is read of a script when more is added to it: its instructions, and what follows
from the place where it ended or stopped. -/
theorem exists_items_append (script : String) (players : Nat) :
    ∃ reached rest, reached + rest.length = script.length ∧
      Scans players reached rest ⟨[], (scan script players).stop⟩ ∧
      ∀ more : String, (scan (script ++ more) players).items =
        (scan script players).instructions.map .ok ++
          (scanFrom players reached (rest ++ more.toList)).items := by
  obtain ⟨read, rest, hchars, -, hread, hrest⟩ := (scans_scan script players).split
  rw [Nat.zero_add] at hrest
  refine ⟨read.length, rest, ?_, hrest, fun more => ?_⟩
  · rw [← String.length_toList, hchars, List.length_append]
  · have hmore := scans_scanFrom players (0 + read.length) (rest ++ more.toList)
    have happend := (hread.append hmore).eq_scanFrom
    rw [scan, String.toList_append, hchars, List.append_assoc, ← happend,
      Scan.items_instructions_append, Nat.zero_add]

/-- Reading a script without a fault and then another one is reading both together, with
the places of the second one counted from the end of the first. A script that stops with
an error reads the same whatever is added to it, but for one that stops because
characters are missing: that one and no other can be made to read otherwise, and its
instructions are still read first. What is read is what a reader yields. -/
theorem scan_concatenation (script : String) (players : Nat) :
    let items (script : String) := (scan script players).items
    (∀ script requests,
      (Reader.ofScript script players).item requests = (items script)[requests]?) ∧
    ((scan script players).stop = none → ∀ more,
      items (script ++ more) = items script ++ (items more).map (Scan.shiftItem script.length)) ∧
    ∀ error, (scan script players).stop = some error →
      ((∀ more, items (script ++ more) = items script) ↔ ¬ error.IsTruncated) ∧
      ∀ more, (scan script players).instructions.map .ok <+: items (script ++ more) := by
  intro items
  obtain ⟨reached, rest, hlength, hrest, happend⟩ := exists_items_append script players
  have happend (more : String) : items (script ++ more) =
      (scan script players).instructions.map .ok ++
        (scanFrom players reached (rest ++ more.toList)).items := happend more
  refine ⟨fun script requests => Reader.item_ofScript script players requests,
    fun hend more => ?_, fun error hstop => ⟨⟨fun hsame htruncated => ?_, ?_⟩, ?_⟩⟩
  · rw [hend] at hrest
    obtain rfl := hrest.eq_nil
    obtain rfl : reached = script.length := hlength
    rw [happend, ← Scan.items_of_end hend, List.nil_append, scanFrom_eq_shift, Scan.items_shift]
    rfl
  · rw [hstop] at hrest
    have hmore : (scan script players).items = _ := (hsame "11").symm.trans (happend "11")
    rw [Scan.items_of_stop hstop, List.append_cancel_left_eq] at hmore
    exact hrest.fault.scanFrom_append_ne htruncated (Scan.items_injective hmore).symm
  · intro hfinal more
    rw [hstop] at hrest
    rw [happend, scanFrom_fault (hrest.fault.append hfinal _)]
    exact (Scan.items_of_stop hstop).symm
  · intro more
    rw [happend]
    exact List.prefix_append ..

theorem scan_concatenation_whole_wrong_and_cut_off :
    let items (script : String) := (scan script 2).items
    (∀ more, items ("h1C12" ++ more) = items "h1C12" ++ (items more).map (Scan.shiftItem 5)) ∧
    (∀ more, items ("X1S32" ++ more) = items "X1S32") ∧
    (¬ ∀ more, items ("X1S2" ++ more) = items "X1S2") ∧
    ∀ more, [.ok ⟨.single .pauliX 0, 0⟩] <+: items ("X1S2" ++ more) := by
  have hwhole : (scan "h1C12" 2).stop = none := by decide
  have hwrong : (scan "X1S32" 2).stop = some (.operandOutOfRange 3 '3') := by decide
  have hcut : scan "X1S2" 2 =
      ⟨[⟨.single .pauliX 0, 0⟩], some (.truncated 2 (.pair .swap))⟩ := by decide
  have hshort := (scan_concatenation "X1S2" 2).2.2 (.truncated 2 (.pair .swap)) (by rw [hcut])
  rw [hcut] at hshort
  refine ⟨(scan_concatenation "h1C12" 2).2.1 hwhole,
    ((scan_concatenation "X1S32" 2).2.2 _ hwrong).1.mpr ?_, fun hsame => ?_, hshort.2⟩
  · rintro ⟨position, gate, h⟩
    cases h
  · exact hshort.1.mp hsame ⟨2, .pair .swap, rfl⟩

end Script

end GateGame
