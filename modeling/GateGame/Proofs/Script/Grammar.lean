import GateGame.Script.Basic

namespace GateGame

/-! The language of scripts, described without the scanner: which characters name
gates and players, which sequences of them are instructions, and what keeps a
sequence from being one. The scanner is then a derivation in this language. -/

/-- A letter names a gate in either case. Beyond ASCII, the dotless i and the long
s are small forms of the letters I and S. -/
def Gate.SpelledBy (gate : Gate) (c : Char) : Prop :=
  c.toUpper = gate.letter ∨
    gate = .single .identity ∧ c = '\u0131' ∨ gate = .pair .swap ∧ c = '\u017f'

private theorem eq_or_eq_toLower_of_toUpper {c capital : Char}
    (h : c.toUpper = capital) : c = capital ∨ c = capital.toLower := by
  subst capital
  unfold Char.toUpper Char.toLower
  split
  · next hsmall =>
    right
    have hlow : 97 ≤ c.toNat := UInt32.le_iff_toNat_le.mp hsmall.1
    have hhigh : c.toNat ≤ 122 := UInt32.le_iff_toNat_le.mp hsmall.2
    apply Char.ext
    apply UInt32.toNat.inj
    split
    · simp
      omega
    · next hcapital =>
      simp [UInt32.le_iff_toNat_le] at hcapital
      omega
  · exact .inl rfl

theorem Gate.ofChar?_eq_some_iff {c : Char} {gate : Gate} :
    Gate.ofChar? c = some gate ↔ gate.SpelledBy c := by
  constructor
  · intro h
    unfold Gate.ofChar? at h
    split at h <;> cases h <;>
      first | exact .inl rfl | exact .inr (.inl ⟨rfl, rfl⟩) | exact .inr (.inr ⟨rfl, rfl⟩)
  · rintro (h | ⟨rfl, rfl⟩ | ⟨rfl, rfl⟩)
    · rcases eq_or_eq_toLower_of_toUpper h with rfl | rfl <;>
        rcases gate with gate | gate <;> cases gate <;> rfl
    · rfl
    · rfl

theorem Gate.ofChar?_eq_none {c : Char} (h : ∀ gate : Gate, ¬ gate.SpelledBy c) :
    Gate.ofChar? c = none :=
  Option.eq_none_iff_forall_ne_some.mpr fun gate hread =>
    h gate (Gate.ofChar?_eq_some_iff.mp hread)

namespace Script

def IsPlayer (players : Nat) (c : Char) : Prop :=
  '1'.toNat ≤ c.toNat ∧ c.toNat ≤ '0'.toNat + players

instance (players : Nat) (c : Char) : Decidable (IsPlayer players c) :=
  inferInstanceAs (Decidable ('1'.toNat ≤ c.toNat ∧ c.toNat ≤ '0'.toNat + players))

def playerOf (c : Char) : Nat := c.toNat - '1'.toNat

theorem IsPlayer.playerOf_lt {players : Nat} {c : Char} (h : IsPlayer players c) :
    playerOf c < players := by
  obtain ⟨hlow, hhigh⟩ := h
  simp only [Char.reduceToNat] at hlow hhigh
  simp only [playerOf, Char.reduceToNat]
  omega

theorem IsPlayer.playerOf_inj {players : Nat} {a b : Char} (ha : IsPlayer players a)
    (hb : IsPlayer players b) (h : playerOf a = playerOf b) : a = b := by
  obtain ⟨hlowA, -⟩ := ha
  obtain ⟨hlowB, -⟩ := hb
  apply Char.toNat_inj.mp
  simp only [playerOf] at h
  omega

theorem player?_of_isPlayer {players : Nat} {c : Char} (h : IsPlayer players c) :
    player? players c = some (playerOf c) :=
  if_pos ⟨h.1, h.playerOf_lt⟩

theorem player?_of_not_isPlayer {players : Nat} {c : Char} (h : ¬ IsPlayer players c) :
    player? players c = none := by
  apply if_neg
  rintro ⟨hlow, hlt⟩
  apply h
  refine ⟨hlow, ?_⟩
  simp only [Char.reduceToNat] at hlow hlt ⊢
  omega

/-- The characters of one instruction, and the operation that they write: a letter
and a player, or a letter and two players that are not the same. -/
inductive Token (players : Nat) : List Char → Operation Nat → Prop
  | single {gate : SingleGate} {c a : Char} (hgate : (Gate.single gate).SpelledBy c)
      (ha : IsPlayer players a) :
      Token players [c, a] (.single gate (playerOf a))
  | pair {gate : PairGate} {c a b : Char} (hgate : (Gate.pair gate).SpelledBy c)
      (ha : IsPlayer players a) (hb : IsPlayer players b) (hne : a ≠ b) :
      Token players [c, a, b] (.pair gate (playerOf a) (playerOf b))

/-- What keeps a sequence of characters at `position` from beginning with an
instruction, in the order in which it is looked for. -/
inductive Fault (players position : Nat) : List Char → ScriptError → Prop
  | unknownGate {c : Char} {rest : List Char} (hgate : ∀ gate : Gate, ¬ gate.SpelledBy c) :
      Fault players position (c :: rest) (.unknownGate position c)
  | truncated {gate : Gate} {c : Char} {rest : List Char} (hgate : gate.SpelledBy c)
      (hshort : rest.length < gate.arity) :
      Fault players position (c :: rest) (.truncated position gate)
  | operandOutOfRange {gate : Gate} {c a : Char} (before : List Char) {rest : List Char}
      (hgate : gate.SpelledBy c) (hlong : gate.arity ≤ (before ++ a :: rest).length)
      (hbefore : before.length < gate.arity) (hplayers : ∀ b ∈ before, IsPlayer players b)
      (ha : ¬ IsPlayer players a) :
      Fault players position (c :: (before ++ a :: rest))
        (.operandOutOfRange (position + 1 + before.length) a)
  | repeatedOperand {gate : PairGate} {c a : Char} {rest : List Char}
      (hgate : (Gate.pair gate).SpelledBy c) (ha : IsPlayer players a) :
      Fault players position (c :: a :: a :: rest)
        (.repeatedOperand position (.pair gate) a)

/-- A script from `position` on with the outcome of reading it: its instructions
one after another, up to its end or its first fault. -/
inductive Scans (players : Nat) : Nat → List Char → Scan → Prop
  | done {position : Nat} : Scans players position [] ⟨[], none⟩
  | stop {position : Nat} {chars : List Char} {error : ScriptError}
      (hfault : Fault players position chars error) :
      Scans players position chars ⟨[], some error⟩
  | token {position : Nat} {chars rest : List Char} {operation : Operation Nat}
      {scan : Scan} (htoken : Token players chars operation)
      (hrest : Scans players (position + chars.length) rest scan) :
      Scans players position (chars ++ rest)
        ⟨⟨operation, position⟩ :: scan.instructions, scan.stop⟩

theorem scanFrom_token {players position : Nat} {chars : List Char}
    {operation : Operation Nat} (h : Token players chars operation) (rest : List Char) :
    scanFrom players position (chars ++ rest) =
      ⟨⟨operation, position⟩ ::
          (scanFrom players (position + chars.length) rest).instructions,
        (scanFrom players (position + chars.length) rest).stop⟩ := by
  cases h with
  | single hgate ha =>
      simp [scanFrom, Gate.ofChar?_eq_some_iff.mpr hgate, player?_of_isPlayer ha]
  | pair hgate ha hb hne =>
      simp [scanFrom, Gate.ofChar?_eq_some_iff.mpr hgate, player?_of_isPlayer ha,
        player?_of_isPlayer hb, hne]

/-- Where the operand that names no player can stand: after the letter, or after one
player of two. -/
theorem operand_cases {gate : Gate} {a : Char} {before rest : List Char}
    (hlong : gate.arity ≤ (before ++ a :: rest).length) (hbefore : before.length < gate.arity) :
    (∃ single, gate = .single single ∧ before = []) ∨
      ∃ pair, gate = .pair pair ∧
        ((∃ b tail, before = [] ∧ rest = b :: tail) ∨ ∃ b, before = [b]) := by
  cases gate with
  | single gate =>
      rw [Gate.arity, Nat.lt_one_iff, List.length_eq_zero_iff] at hbefore
      exact .inl ⟨gate, rfl, hbefore⟩
  | pair gate =>
      refine .inr ⟨gate, rfl, ?_⟩
      match before, rest with
      | [], [] => simp [Gate.arity] at hlong
      | [], b :: tail => exact .inl ⟨b, tail, rfl, rfl⟩
      | [b], _ => exact .inr ⟨b, rfl⟩
      | b :: b' :: before, _ =>
          simp only [Gate.arity, List.length_cons] at hbefore
          omega

theorem scanFrom_fault {players position : Nat} {chars : List Char} {error : ScriptError}
    (h : Fault players position chars error) :
    scanFrom players position chars = ⟨[], some error⟩ := by
  cases h with
  | unknownGate hgate => simp [scanFrom, Gate.ofChar?_eq_none hgate]
  | @truncated gate c rest hgate hshort =>
      have hread := Gate.ofChar?_eq_some_iff.mpr hgate
      cases gate with
      | single gate =>
          cases rest with
          | nil => simp [scanFrom, hread]
          | cons a rest => simp [Gate.arity] at hshort
      | pair gate =>
          match rest with
          | [] => simp [scanFrom, hread]
          | [a] => simp [scanFrom, hread]
          | a :: b :: rest =>
              simp only [Gate.arity, List.length_cons] at hshort
              omega
  | operandOutOfRange before hgate hlong hbefore hplayers ha =>
      have hread := Gate.ofChar?_eq_some_iff.mpr hgate
      have hnone := player?_of_not_isPlayer ha
      rcases operand_cases hlong hbefore with
        ⟨gate, rfl, rfl⟩ | ⟨gate, rfl, ⟨b, tail, rfl, rfl⟩ | ⟨b, rfl⟩⟩
      · simp [scanFrom, hread, hnone]
      · simp [scanFrom, hread, hnone]
      · have hb := player?_of_isPlayer (hplayers b (by simp))
        simp [scanFrom, hread, hnone, hb]
  | repeatedOperand hgate ha =>
      have hread := Gate.ofChar?_eq_some_iff.mpr hgate
      simp [scanFrom, hread, player?_of_isPlayer ha]

theorem isPlayer_of_player? {players player : Nat} {c : Char}
    (h : player? players c = some player) : IsPlayer players c ∧ player = playerOf c := by
  by_cases hc : IsPlayer players c
  · rw [player?_of_isPlayer hc] at h
    exact ⟨hc, (Option.some.inj h).symm⟩
  · rw [player?_of_not_isPlayer hc] at h
    contradiction

theorem not_isPlayer_of_player? {players : Nat} {c : Char}
    (h : player? players c = none) : ¬ IsPlayer players c := by
  intro hc
  rw [player?_of_isPlayer hc] at h
  contradiction

theorem scans_scanFrom (players position : Nat) (chars : List Char) :
    Scans players position chars (scanFrom players position chars) := by
  fun_induction scanFrom players position chars with
  | case1 position => exact .done
  | case2 position c rest hread =>
      apply Scans.stop
      apply Fault.unknownGate
      intro gate hgate
      rw [Gate.ofChar?_eq_some_iff.mpr hgate] at hread
      contradiction
  | case3 position c gate hread =>
      exact .stop (.truncated (Gate.ofChar?_eq_some_iff.mp hread) (by simp [Gate.arity]))
  | case4 position c gate a rest hread ha =>
      exact .stop (.operandOutOfRange [] (Gate.ofChar?_eq_some_iff.mp hread)
        (by simp [Gate.arity]) (by simp [Gate.arity]) (by simp) (not_isPlayer_of_player? ha))
  | case5 position c gate a rest hread target ha scan ih =>
      obtain ⟨hplayer, rfl⟩ := isPlayer_of_player? ha
      exact .token (.single (Gate.ofChar?_eq_some_iff.mp hread) hplayer) ih
  | case6 position c gate a b rest hread ha =>
      exact .stop (.operandOutOfRange [] (Gate.ofChar?_eq_some_iff.mp hread)
        (by simp [Gate.arity]) (by simp [Gate.arity]) (by simp) (not_isPlayer_of_player? ha))
  | case7 position c gate a b rest hread first hb ha =>
      obtain ⟨hplayer, rfl⟩ := isPlayer_of_player? ha
      exact .stop (.operandOutOfRange [a] (Gate.ofChar?_eq_some_iff.mp hread)
        (by simp [Gate.arity]) (by simp [Gate.arity]) (by simpa using hplayer)
        (not_isPlayer_of_player? hb))
  | case8 position c gate a rest hread first second hb ha =>
      obtain ⟨hplayer, rfl⟩ := isPlayer_of_player? ha
      exact .stop (.repeatedOperand (Gate.ofChar?_eq_some_iff.mp hread) hplayer)
  | case9 position c gate a b rest hread first second hb ha hne scan ih =>
      obtain ⟨hplayerA, rfl⟩ := isPlayer_of_player? ha
      obtain ⟨hplayerB, rfl⟩ := isPlayer_of_player? hb
      exact .token (.pair (Gate.ofChar?_eq_some_iff.mp hread) hplayerA hplayerB hne) ih
  | case10 position c rest gate hread hshort =>
      apply Scans.stop
      apply Fault.truncated (Gate.ofChar?_eq_some_iff.mp hread)
      match rest, hshort with
      | [], _ => simp [Gate.arity]
      | [a], _ => simp [Gate.arity]
      | a :: b :: rest, hshort => exact (hshort a b rest rfl).elim

theorem scans_scan (script : String) (players : Nat) :
    Scans players 0 script.toList (scan script players) :=
  scans_scanFrom players 0 script.toList

theorem Scans.eq_scanFrom {players position : Nat} {chars : List Char} {scan : Scan}
    (h : Scans players position chars scan) : scan = scanFrom players position chars := by
  induction h with
  | done => rfl
  | stop hfault => exact (scanFrom_fault hfault).symm
  | token htoken hrest ih => rw [scanFrom_token htoken, ← ih]

/-- A sequence of characters cut into instructions. -/
def Cut (players : Nat) (chars : List Char) (tokens : List (List Char)) : Prop :=
  (∀ token ∈ tokens, ∃ operation, Token players token operation) ∧ tokens.flatten = chars

theorem cut_nil (players : Nat) : Cut players [] [] :=
  ⟨by simp, rfl⟩

theorem Token.cut_cons {players : Nat} {token rest : List Char}
    {operation : Operation Nat} {tokens : List (List Char)}
    (htoken : Token players token operation) (hrest : Cut players rest tokens) :
    Cut players (token ++ rest) (token :: tokens) := by
  refine ⟨?_, by rw [List.flatten_cons, hrest.2]⟩
  intro other hother
  rcases List.mem_cons.mp hother with rfl | hother
  · exact ⟨operation, htoken⟩
  · exact hrest.1 other hother

theorem Cut.uncons {players : Nat} {chars token : List Char} {tokens : List (List Char)}
    (h : Cut players chars (token :: tokens)) :
    ∃ operation rest, Token players token operation ∧ chars = token ++ rest ∧
      Cut players rest tokens := by
  obtain ⟨operation, htoken⟩ := h.1 token (by simp)
  exact ⟨operation, tokens.flatten, htoken, by rw [← h.2, List.flatten_cons],
    fun other hother => h.1 other (by simp [hother]), rfl⟩

theorem Cut.scanFrom_stop {players : Nat} {chars : List Char} {tokens : List (List Char)}
    (h : Cut players chars tokens) (position : Nat) :
    (scanFrom players position chars).stop = none := by
  induction tokens generalizing position chars with
  | nil =>
      obtain rfl : chars = [] := h.2.symm
      rfl
  | cons token tokens ih =>
      obtain ⟨operation, rest, htoken, rfl, hrest⟩ := h.uncons
      rw [scanFrom_token htoken]
      exact ih hrest _

theorem Scans.exists_cut {players position : Nat} {chars : List Char} {scan : Scan}
    (h : Scans players position chars scan) (hstop : scan.stop = none) :
    ∃ tokens, Cut players chars tokens := by
  induction h with
  | done => exact ⟨[], cut_nil players⟩
  | stop hfault => contradiction
  | token htoken hrest ih =>
      obtain ⟨tokens, htokens⟩ := ih hstop
      exact ⟨_, htoken.cut_cons htokens⟩

theorem Token.length_eq {players : Nat} {chars : List Char} {operation : Operation Nat}
    (h : Token players chars operation) : chars.length = operation.gate.arity + 1 := by
  cases h <;> rfl

/-- No instruction is the beginning of another one, since its letter decides how
many players follow. -/
theorem Token.eq_of_append {players : Nat} {chars chars' rest rest' : List Char}
    {operation operation' : Operation Nat} (h : Token players chars operation)
    (h' : Token players chars' operation') (heq : chars ++ rest = chars' ++ rest') :
    chars = chars' ∧ rest = rest' := by
  have hoperation : operation = operation' := by
    have hread := congrArg (fun chars => (scanFrom players 0 chars).instructions.head?) heq
    simpa [scanFrom_token h, scanFrom_token h'] using hread
  apply List.append_inj heq
  rw [h.length_eq, h'.length_eq, hoperation]

theorem Cut.eq_nil {players : Nat} {tokens : List (List Char)}
    (h : Cut players [] tokens) : tokens = [] := by
  cases tokens with
  | nil => rfl
  | cons token tokens =>
      obtain ⟨operation, rest, htoken, heq, -⟩ := h.uncons
      have hlength := htoken.length_eq
      rw [(List.append_eq_nil_iff.mp heq.symm).1] at hlength
      contradiction

theorem Cut.unique {players : Nat} {chars : List Char} {tokens tokens' : List (List Char)}
    (h : Cut players chars tokens) (h' : Cut players chars tokens') : tokens = tokens' := by
  induction tokens generalizing chars tokens' with
  | nil =>
      obtain rfl : chars = [] := h.2.symm
      exact h'.eq_nil.symm
  | cons token tokens ih =>
      obtain ⟨operation, rest, htoken, rfl, hrest⟩ := h.uncons
      cases tokens' with
      | nil =>
          have hnil : token ++ rest = [] := h'.2.symm
          rw [hnil] at h
          exact h.eq_nil
      | cons token' tokens' =>
          obtain ⟨operation', rest', htoken', heq, hrest'⟩ := h'.uncons
          obtain ⟨rfl, rfl⟩ := htoken.eq_of_append htoken' heq
          rw [ih hrest hrest']

theorem isPlayerCount_iff {players : Nat} :
    isPlayerCount players = true ↔ 1 ≤ players ∧ players ≤ maxPlayers := by
  simp [isPlayerCount]

theorem isValid_iff {script : String} {players : Nat} :
    isValid script players = true ↔
      (1 ≤ players ∧ players ≤ maxPlayers) ∧ (scan script players).stop = none := by
  rw [← isPlayerCount_iff]
  simp only [isValid, validate]
  split
  · next hcount =>
    cases hstop : (scan script players).stop <;> simp [Except.isOk, Except.toBool, hcount]
  · next hcount => simp [Except.isOk, Except.toBool, hcount]

/-- The scripts that are accepted are those that can be cut into instructions among
one to five players; no script can be cut in two ways; and the letters of the gates
are the ASCII ones in either case, the dotless i and the long s. -/
theorem isValid_iff_exists_cut (script : String) (players : Nat) :
    (isValid script players = true ↔
      (1 ≤ players ∧ players ≤ 5) ∧ ∃ tokens, Cut players script.toList tokens) ∧
    (∀ tokens tokens', Cut players script.toList tokens →
      Cut players script.toList tokens' → tokens = tokens') ∧
    ∀ (c : Char) (gate : Gate), Gate.ofChar? c = some gate ↔ gate.SpelledBy c := by
  refine ⟨?_, fun _ _ => Cut.unique, fun _ _ => Gate.ofChar?_eq_some_iff⟩
  rw [isValid_iff]
  apply and_congr_right
  intro _
  constructor
  · exact (scans_scanFrom players 0 script.toList).exists_cut
  · rintro ⟨tokens, htokens⟩
    exact htokens.scanFrom_stop 0

theorem isValid_small_letters :
    isValid "ſ12ı1" 2 = true ∧
      ∀ tokens, Cut 2 "ſ12ı1".toList tokens →
        tokens = [['ſ', '1', '2'], ['ı', '1']] := by
  have hcut : Cut 2 "ſ12ı1".toList [['ſ', '1', '2'], ['ı', '1']] := by
    have hswap : (Gate.pair .swap).SpelledBy 'ſ' := .inr (.inr ⟨rfl, rfl⟩)
    have hidentity : (Gate.single .identity).SpelledBy 'ı' := .inr (.inl ⟨rfl, rfl⟩)
    have hone : IsPlayer 2 '1' := by decide
    have htwo : IsPlayer 2 '2' := by decide
    exact (Token.pair hswap hone htwo (by decide)).cut_cons
      ((Token.single hidentity hone).cut_cons (cut_nil 2))
  refine ⟨(isValid_iff_exists_cut _ 2).1.mpr ⟨by decide, _, hcut⟩, ?_⟩
  intro tokens htokens
  exact (isValid_iff_exists_cut _ 2).2.1 tokens _ htokens hcut

end Script

end GateGame
