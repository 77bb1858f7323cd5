import GateGame.Proofs.Script.Reader
import GateGame.Proofs.Script.Spelling
import Mathlib.Data.List.Forall2

namespace GateGame

/-! One script in two spellings. Which of its letters names a gate makes no difference as
long as digits name the players: a letter where a player should stand is an error in any
spelling. -/

namespace Script

/-- The same character, or two letters of one gate. -/
def Alike (c c' : Char) : Prop :=
  c = c' ∨ ∃ gate : Gate, gate.SpelledBy c ∧ gate.SpelledBy c'

/-- Two spellings of one sequence of characters. -/
abbrev Respelled (chars chars' : List Char) : Prop :=
  List.Forall₂ Alike chars chars'

end Script

/-- The same error, or two that quote the same letter in different spellings. -/
inductive ScriptError.Alike : ScriptError → ScriptError → Prop
  | refl (error : ScriptError) : Alike error error
  | operandOutOfRange (position : Nat) {c c' : Char} (h : Script.Alike c c') :
      Alike (.operandOutOfRange position c) (.operandOutOfRange position c')

theorem ScriptError.Alike.position?_eq {error error' : ScriptError} (h : error.Alike error') :
    error.position? = error'.position? := by
  cases h <;> rfl

namespace Script

variable {players position : Nat} {chars chars' first rest : List Char} {c c' : Char}
  {operation : Operation Nat} {error : ScriptError} {outcome : Scan}

theorem Alike.symm (h : Alike c c') : Alike c' c := by
  rcases h with rfl | ⟨gate, hc, hc'⟩
  · exact .inl rfl
  · exact .inr ⟨gate, hc', hc⟩

theorem Alike.spelledBy {gate : Gate} (h : Alike c c') (hgate : gate.SpelledBy c) :
    gate.SpelledBy c' := by
  rcases h with rfl | ⟨other, hc, hc'⟩
  · exact hgate
  · rw [← Gate.ofChar?_eq_some_iff] at hgate hc
    obtain rfl : gate = other := Option.some.inj (hgate.symm.trans hc)
    exact hc'

theorem Alike.eq_of_not_spelledBy (h : Alike c c') (hgate : ∀ gate : Gate, ¬ gate.SpelledBy c) :
    c' = c := by
  rcases h with rfl | ⟨gate, hc, -⟩
  · rfl
  · exact absurd hc (hgate gate)

theorem Alike.eq_of_isPlayer (h : Alike c c') (hplayers : players ≤ maxDigit)
    (hplayer : IsPlayer players c) : c' = c :=
  h.eq_of_not_spelledBy fun _ hgate => not_isPlayer_of_spelledBy hplayers hgate hplayer

theorem Alike.not_isPlayer (h : Alike c c') (hplayers : players ≤ maxDigit)
    (hplayer : ¬ IsPlayer players c) : ¬ IsPlayer players c' := by
  intro hplayer'
  rw [h.symm.eq_of_isPlayer hplayers hplayer'] at hplayer
  exact hplayer hplayer'

theorem Respelled.exists_append (h : Respelled (first ++ rest) chars') :
    ∃ first' rest', chars' = first' ++ rest' ∧ Respelled first first' ∧ Respelled rest rest' := by
  induction first generalizing chars' with
  | nil => exact ⟨[], chars', rfl, .nil, h⟩
  | cons c first ih =>
      cases h with
      | @cons _ c' _ _ hc h =>
          obtain ⟨first', rest', rfl, hfirst, hrest⟩ := ih h
          exact ⟨c' :: first', rest', rfl, .cons hc hfirst, hrest⟩

theorem Respelled.eq_of_isPlayer (h : Respelled chars chars') (hplayers : players ≤ maxDigit)
    (hchars : ∀ c ∈ chars, IsPlayer players c) : chars' = chars := by
  induction h with
  | nil => rfl
  | cons hc _ ih =>
      obtain ⟨hplayer, hrest⟩ := List.forall_mem_cons.mp hchars
      rw [hc.eq_of_isPlayer hplayers hplayer, ih hrest]

/-- The letter of a gate is respelled as a letter of that gate. -/
theorem Respelled.exists_letter {gate : Gate} (h : Respelled (c :: rest) chars')
    (hgate : gate.SpelledBy c) :
    ∃ c' rest', chars' = c' :: rest' ∧ gate.SpelledBy c' ∧ Respelled rest rest' := by
  obtain ⟨c', rest', hc, hrest, rfl⟩ := List.forall₂_cons_left_iff.mp h
  exact ⟨c', rest', rfl, hc.spelledBy hgate, hrest⟩

theorem Token.respelled (h : Token players chars operation) (hplayers : players ≤ maxDigit)
    (halike : Respelled chars chars') : Token players chars' operation := by
  cases h with
  | single hgate ha =>
      obtain ⟨c', rest', rfl, hgate', hrest⟩ := halike.exists_letter hgate
      rw [hrest.eq_of_isPlayer hplayers (by simpa using ha)]
      exact .single hgate' ha
  | pair hgate ha hb hne =>
      obtain ⟨c', rest', rfl, hgate', hrest⟩ := halike.exists_letter hgate
      rw [hrest.eq_of_isPlayer hplayers (by simpa using ⟨ha, hb⟩)]
      exact .pair hgate' ha hb hne

theorem Fault.respelled (h : Fault players position chars error) (hplayers : players ≤ maxDigit)
    (halike : Respelled chars chars') :
    ∃ error', Fault players position chars' error' ∧ error.Alike error' := by
  cases h with
  | unknownGate hgate =>
      obtain ⟨c', rest', hc, -, rfl⟩ := List.forall₂_cons_left_iff.mp halike
      rw [hc.eq_of_not_spelledBy hgate]
      exact ⟨_, .unknownGate hgate, .refl _⟩
  | truncated hgate hshort =>
      obtain ⟨c', rest', rfl, hgate', hrest⟩ := halike.exists_letter hgate
      rw [hrest.length_eq] at hshort
      exact ⟨_, .truncated hgate' hshort, .refl _⟩
  | operandOutOfRange before hgate hlong hbefore hfirst ha =>
      obtain ⟨c', tail, rfl, hgate', htail⟩ := halike.exists_letter hgate
      obtain ⟨before', rest', rfl, hsame, hrest⟩ := Respelled.exists_append htail
      obtain ⟨a', rest', ha', -, rfl⟩ := List.forall₂_cons_left_iff.mp hrest
      rw [hsame.eq_of_isPlayer hplayers hfirst] at htail ⊢
      rw [htail.length_eq] at hlong
      exact ⟨_, .operandOutOfRange before hgate' hlong hbefore hfirst
        (ha'.not_isPlayer hplayers ha), .operandOutOfRange _ ha'⟩
  | @repeatedOperand gate c a rest hgate ha =>
      obtain ⟨c', tail, rfl, hgate', htail⟩ := halike.exists_letter hgate
      have hoperands : Respelled ([a, a] ++ rest) tail := htail
      obtain ⟨operands, rest', rfl, hsame, -⟩ := hoperands.exists_append
      rw [hsame.eq_of_isPlayer hplayers (by simpa using ha)]
      exact ⟨_, .repeatedOperand hgate' ha, .refl _⟩

theorem Scans.respelled (h : Scans players position chars outcome)
    (hplayers : players ≤ maxDigit) (halike : Respelled chars chars') :
    ∃ stop', Scans players position chars' ⟨outcome.instructions, stop'⟩ ∧
      Option.Rel ScriptError.Alike outcome.stop stop' := by
  induction h generalizing chars' with
  | done =>
      obtain rfl := List.forall₂_nil_left_iff.mp halike
      exact ⟨none, .done, .none⟩
  | stop hfault =>
      obtain ⟨error', hfault', herror⟩ := hfault.respelled hplayers halike
      exact ⟨some error', .stop hfault', .some herror⟩
  | token htoken _ ih =>
      obtain ⟨first', rest', rfl, hfirst, hrest⟩ := Respelled.exists_append halike
      rw [hfirst.length_eq] at ih
      obtain ⟨stop', hscans, hstop⟩ := ih hrest
      exact ⟨stop', .token (htoken.respelled hplayers hfirst) hscans, hstop⟩

theorem scan_respelled {script script' : String} (hplayers : players ≤ maxDigit)
    (h : Respelled script.toList script'.toList) :
    (scan script' players).instructions = (scan script players).instructions ∧
      Option.Rel ScriptError.Alike (scan script players).stop (scan script' players).stop := by
  obtain ⟨stop', hscans, hstop⟩ := (scans_scan script players).respelled hplayers h
  have hscan : scan script' players = _ := hscans.eq_scanFrom.symm
  rw [hscan]
  exact ⟨rfl, hstop⟩

theorem stop_respelled {script script' : String} (hplayers : players ≤ maxDigit)
    (h : Respelled script.toList script'.toList) :
    (scan script players).stop = none ∧ (scan script' players).stop = none ∨
      ∃ error error', (scan script players).stop = some error ∧
        (scan script' players).stop = some error' ∧ error.Alike error' := by
  obtain ⟨-, hstop⟩ := scan_respelled hplayers h
  revert hstop
  generalize (scan script players).stop = stop, (scan script' players).stop = stop'
  rintro (herror | -)
  · exact .inr ⟨_, _, rfl, rfl, herror⟩
  · exact .inl ⟨rfl, rfl⟩

/-- Two spellings of a script are valid for the same players, have the same instructions at
the same places, and end with the same error at the same place if they end with one; only
a letter that the error quotes is quoted as it is spelled. However the players sit, both
give the same circuit, or are refused at the same place. -/
theorem circuit_respelled {script script' : String} {players : Nat}
    (hplayers : 1 ≤ players ∧ players ≤ 5) (h : Respelled script.toList script'.toList) :
    isValid script players = isValid script' players ∧
    (scan script players).instructions = (scan script' players).instructions ∧
    Option.Rel ScriptError.Alike (scan script players).stop (scan script' players).stop ∧
    ∀ seating : Seating, seating.size = players →
      (∃ built, circuit script players seating = .ok built ∧
        circuit script' players seating = .ok built) ∨
      ∃ position error error',
        error.position? = some position ∧ error'.position? = some position ∧
        error.Alike error' ∧
        circuit script players seating = .error (.unrecognizedToken position (.script error)) ∧
        circuit script' players seating =
          .error (.unrecognizedToken position (.script error')) := by
  have hdigits : players ≤ maxDigit := Nat.le_trans hplayers.2 maxPlayers_le_maxDigit
  have hcount := isPlayerCount_iff.mpr hplayers
  obtain ⟨hinstructions, hstop⟩ := scan_respelled hdigits h
  rcases stop_respelled hdigits h with ⟨hend, hend'⟩ | ⟨error, error', hend, hend', herror⟩
  · have hvalid := isValid_iff.mpr ⟨hplayers, hend⟩
    have hvalid' := isValid_iff.mpr ⟨hplayers, hend'⟩
    refine ⟨hvalid.trans hvalid'.symm, hinstructions.symm, hstop, fun seating hsize => ?_⟩
    refine .inl ⟨_, circuit_of_isValid hvalid hsize, ?_⟩
    rw [circuit_of_isValid hvalid' hsize, hinstructions]
  · refine ⟨?_, hinstructions.symm, hstop, fun seating hsize => ?_⟩
    · rw [Bool.eq_iff_iff, isValid_iff, isValid_iff, hend, hend']
      simp
    · obtain ⟨position, hposition, hrefused⟩ := circuit_of_stop hcount hsize hend
      obtain ⟨position', hposition', hrefused'⟩ := circuit_of_stop hcount hsize hend'
      obtain rfl : position = position' := by
        rw [herror.position?_eq, hposition'] at hposition
        exact (Option.some.inj hposition).symm
      exact .inr ⟨position, error, error', hposition, hposition', herror, hrefused, hrefused'⟩

theorem circuit_respelled_letter_for_player :
    let seating : Seating := ⟨[1, 0], by decide, by decide⟩
    Respelled "ı1ſ21".toList "I1s21".toList ∧
    (∃ built, circuit "ı1ſ21" 2 seating = .ok built ∧ circuit "I1s21" 2 seating = .ok built) ∧
    Respelled "ı1ſ2h".toList "I1s2H".toList ∧
    (scan "ı1ſ2h" 2).instructions = (scan "I1s2H" 2).instructions ∧
    Option.Rel ScriptError.Alike (some (.operandOutOfRange 4 'h')) (scan "I1s2H" 2).stop := by
  intro seating
  have hidentity : Alike 'ı' 'I' := .inr ⟨.single .identity,
    Gate.ofChar?_eq_some_iff.mp rfl, Gate.ofChar?_eq_some_iff.mp rfl⟩
  have hswap : Alike 'ſ' 's' := .inr ⟨.pair .swap,
    Gate.ofChar?_eq_some_iff.mp rfl, Gate.ofChar?_eq_some_iff.mp rfl⟩
  have hhadamard : Alike 'h' 'H' := .inr ⟨.single .hadamard,
    Gate.ofChar?_eq_some_iff.mp rfl, Gate.ofChar?_eq_some_iff.mp rfl⟩
  have hbegin {last last' : Char} (h : Alike last last') :
      Respelled ['ı', '1', 'ſ', '2', last] ['I', '1', 's', '2', last'] :=
    .cons hidentity (.cons (.inl rfl) (.cons hswap (.cons (.inl rfl) (.cons h .nil))))
  have hvalid : Respelled "ı1ſ21".toList "I1s21".toList := hbegin (.inl rfl)
  have hwrong : Respelled "ı1ſ2h".toList "I1s2H".toList := hbegin hhadamard
  obtain ⟨-, -, -, hbuilt⟩ := circuit_respelled (by decide : 1 ≤ 2 ∧ 2 ≤ 5) hvalid
  obtain ⟨-, hsame, hstop, -⟩ := circuit_respelled (by decide : 1 ≤ 2 ∧ 2 ≤ 5) hwrong
  refine ⟨hvalid, ?_, hwrong, hsame, hstop⟩
  rcases hbuilt seating rfl with h | ⟨position, error, error', -, -, -, hrefused, -⟩
  · exact h
  · have hok : circuit "ı1ſ21" 2 seating = _ := circuit_of_isValid (by decide) rfl
    rw [hok] at hrefused
    contradiction

end Script

end GateGame
