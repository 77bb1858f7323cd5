import GateGame.Proofs.Script.Circuit
import GateGame.Proofs.Script.Concatenation

namespace GateGame

/-! One script read for different numbers of players. The number of players only tells
which operands are in range: until one is not, the script reads the same for any greater
number. -/

def ScriptError.IsOutOfRange (error : ScriptError) : Prop :=
  ∃ position found, error = .operandOutOfRange position found

namespace Script

variable {players more position : Nat} {chars : List Char} {operation : Operation Nat}
  {error : ScriptError} {outcome : Scan}

theorem IsPlayer.mono {c : Char} (h : IsPlayer players c) (hle : players ≤ more) :
    IsPlayer more c :=
  ⟨h.1, Nat.le_trans h.2 (Nat.add_le_add_left hle _)⟩

theorem IsPlayer.of_playerOf_lt {c : Char} (h : IsPlayer more c) (hlt : playerOf c < players) :
    IsPlayer players c := by
  obtain ⟨hlow, -⟩ := h
  refine ⟨hlow, ?_⟩
  simp only [playerOf, Char.reduceToNat] at hlow hlt ⊢
  omega

theorem Token.mono (h : Token players chars operation) (hle : players ≤ more) :
    Token more chars operation := by
  cases h with
  | single hgate ha => exact .single hgate (ha.mono hle)
  | pair hgate ha hb hne => exact .pair hgate (ha.mono hle) (hb.mono hle) hne

theorem Token.of_operands_lt (h : Token more chars operation)
    (hlt : ∀ player ∈ operation.operands, player < players) :
    Token players chars operation := by
  cases h with
  | single hgate ha => exact .single hgate (ha.of_playerOf_lt (hlt _ (by simp [Operation.operands])))
  | pair hgate ha hb hne =>
      exact .pair hgate (ha.of_playerOf_lt (hlt _ (by simp [Operation.operands])))
        (hb.of_playerOf_lt (hlt _ (by simp [Operation.operands]))) hne

/-- A repeated operand is a fault for more players too, since the range is checked first. -/
theorem Fault.mono (h : Fault players position chars error) (hle : players ≤ more)
    (hrange : ¬ error.IsOutOfRange) : Fault more position chars error := by
  cases h with
  | unknownGate hgate => exact .unknownGate hgate
  | truncated hgate hshort => exact .truncated hgate hshort
  | operandOutOfRange before hgate hlong hbefore hplayers ha =>
      exact absurd ⟨_, _, rfl⟩ hrange
  | repeatedOperand hgate ha => exact .repeatedOperand hgate (ha.mono hle)

theorem Scans.mono (h : Scans players position chars outcome) (hle : players ≤ more)
    (hrange : ∀ error, outcome.stop = some error → ¬ error.IsOutOfRange) :
    Scans more position chars outcome := by
  induction h with
  | done => exact .done
  | stop hfault => exact .stop (hfault.mono hle (hrange _ rfl))
  | token htoken _ ih => exact .token (htoken.mono hle) (ih hrange)

theorem Scans.of_operands_lt (h : Scans more position chars outcome)
    (hstop : outcome.stop = none)
    (hlt : ∀ instruction ∈ outcome.instructions,
      ∀ player ∈ instruction.operation.operands, player < players) :
    Scans players position chars outcome := by
  induction h with
  | done => exact .done
  | stop hfault => contradiction
  | token htoken _ ih =>
      obtain ⟨hfirst, hrest⟩ := List.forall_mem_cons.mp hlt
      exact .token (htoken.of_operands_lt hfirst) (ih hstop hrest)

variable {script : String}

theorem scan_eq_of_le (hle : players ≤ more)
    (hrange : ∀ error, (scan script players).stop = some error → ¬ error.IsOutOfRange) :
    scan script more = scan script players :=
  ((scans_scan script players).mono hle hrange).eq_scanFrom.symm

theorem scan_eq_of_operands_lt (hstop : (scan script more).stop = none)
    (hlt : ∀ instruction ∈ (scan script more).instructions,
      ∀ player ∈ instruction.operation.operands, player < players) :
    scan script players = scan script more :=
  ((scans_scan script more).of_operands_lt hstop hlt).eq_scanFrom.symm

/-- What is read for some players is read first for more of them, whatever follows. -/
theorem instructions_prefix_items (script : String) (hle : players ≤ more) :
    (scan script players).instructions.map .ok <+: (scan script more).items := by
  obtain ⟨read, rest, hchars, -, hread, -⟩ := (scans_scan script players).split
  have hfirst : Scans more 0 read ⟨(scan script players).instructions, none⟩ :=
    hread.mono hle fun _ hnone => nomatch hnone
  have hwhole := (hfirst.append (scans_scanFrom more _ rest)).eq_scanFrom
  rw [← hchars] at hwhole
  have hscan : scan script more = _ := hwhole.symm
  rw [hscan, Scan.items_instructions_append]
  exact List.prefix_append ..

/-- A script that no operand stops reads the same for more players, error included, and
one that an operand stops begins with the same instructions. So the players a script is
read for without a fault are decided by those it names: it is read for fewer exactly when
all of these are among the fewer. A valid script stays valid, and says the same, when
players join. -/
theorem scan_of_more_players (script : String) {players more : Nat} (hle : players ≤ more) :
    let items (players : Nat) := (scan script players).items
    (∀ players requests,
      (Reader.ofScript script players).item requests = (items players)[requests]?) ∧
    ((∀ error, (scan script players).stop = some error → ¬ error.IsOutOfRange) →
      items players = items more) ∧
    (∀ error, (scan script players).stop = some error → error.IsOutOfRange →
      (scan script players).instructions.map .ok <+: items more) ∧
    ((scan script players).stop = none → scan script players = scan script more) ∧
    ((scan script players).stop = none ↔
      (scan script more).stop = none ∧ ∀ instruction ∈ (scan script more).instructions,
        ∀ player ∈ instruction.operation.operands, player < players) ∧
    (more ≤ 5 → isValid script players = true → isValid script more = true ∧
      (scan script players).instructions = (scan script more).instructions) := by
  intro items
  have hsame (hstop : (scan script players).stop = none) :
      scan script players = scan script more :=
    (scan_eq_of_le hle (by simp [hstop])).symm
  refine ⟨fun players requests => Reader.item_ofScript script players requests,
    fun hrange => congrArg Scan.items (scan_eq_of_le hle hrange).symm,
    fun _ _ _ => instructions_prefix_items script hle, hsame,
    ⟨fun hstop => ?_, fun ⟨hstop, hlt⟩ => ?_⟩, fun hfive hvalid => ?_⟩
  · rw [← hsame hstop]
    exact ⟨hstop, fun instruction hmem => (scan_fits script players instruction hmem).1⟩
  · rw [scan_eq_of_operands_lt hstop hlt, hstop]
  · obtain ⟨⟨hone, -⟩, hstop⟩ := isValid_iff.mp hvalid
    refine ⟨isValid_iff.mpr ⟨⟨Nat.le_trans hone hle, hfive⟩, ?_⟩, by rw [hsame hstop]⟩
    rw [← hsame hstop, hstop]

theorem scan_of_more_players_swap_then_third :
    let script := "h1S21C13"
    (scan script 2).instructions.map .ok <+: (scan script 3).items ∧
    (scan script 3 = scan script 5) ∧
    (scan script 2).stop ≠ none ∧
    (isValid script 5 = true ∧
      (scan script 3).instructions = (scan script 5).instructions) ∧
    (scan "X1S22" 2).items = (scan "X1S22" 4).items := by
  intro script
  have htwo : (scan script 2).stop = some (.operandOutOfRange 7 '3') := by decide
  have hthree : (scan script 3).stop = none := by decide
  have hnamed : ∃ instruction ∈ (scan script 3).instructions,
      ∃ player ∈ instruction.operation.operands, ¬ player < 2 := by decide
  have hrepeated : (scan "X1S22" 2).stop = some (.repeatedOperand 2 (.pair .swap) '2') := by
    decide
  obtain ⟨-, -, hagree, -, hiff, -⟩ := scan_of_more_players script (by decide : 2 ≤ 3)
  obtain ⟨-, -, -, hsame, -, hvalid⟩ := scan_of_more_players script (by decide : 3 ≤ 5)
  obtain ⟨-, hitems, -⟩ := scan_of_more_players "X1S22" (by decide : 2 ≤ 4)
  refine ⟨hagree _ htwo ⟨7, '3', rfl⟩, hsame hthree, fun hnone => ?_,
    hvalid (Nat.le_refl 5) (by decide), hitems ?_⟩
  · obtain ⟨instruction, hmem, player, hplayer, hge⟩ := hnamed
    exact hge ((hiff.mp hnone).2 instruction hmem player hplayer)
  · rw [hrepeated]
    rintro error ⟨rfl⟩ ⟨position, found, h⟩
    cases h

end Script

end GateGame
