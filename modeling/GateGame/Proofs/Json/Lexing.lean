import GateGame.Json.Numeral
import GateGame.Proofs.Json.Spelling
import GateGame.Proofs.Text.Lines

namespace GateGame.Json

/-! Tokens of a text with blanks between them. A natural number has one numeral without
fraction and exponent, its decimal digits; it is read to its end when a blank, a comma or
a closing brace follows. -/

open Token

def IsBlank (cs : List Char) : Prop :=
  ∀ c ∈ cs, isSpace c = true

theorem isBlank_nil : IsBlank [] :=
  List.forall_mem_nil _

/-- What may stand after a number of an object. -/
def EndsNumber (rest : List Char) : Prop :=
  ∀ c, rest.head? = some c → isSpace c = true ∨ c = ',' ∨ c = '\x7d'

def digits (n : Nat) : List Nat :=
  (Nat.toDigits 10 n).map fun c => c.toNat - '0'.toNat

def numeralOf (n : Nat) : Numeral :=
  ⟨false, digits n, [], none⟩

theorem value_digits (n : Nat) : (digits n).foldl (fun value digit => value * 10 + digit) 0 = n := by
  have hvalue := Nat.ofDigitChars_toDigits (b := 10) (n := n) (by decide) (by decide)
  rw [Nat.ofDigitChars_eq_foldl] at hvalue
  rw [digits, List.foldl_map]
  simpa only [Nat.mul_comm] using hvalue

theorem word?_numeralOf (count : UInt64) : (numeralOf count.toNat).word? = some count := by
  have hsize : count.toNat < UInt64.size := count.toNat_lt
  simp only [Numeral.word?, numeralOf, value_digits]
  simp [hsize]

theorem digits_eq_append {n : Nat} (h : 10 ≤ n) :
    digits n = digits (n / 10) ++ digits (n % 10) := by
  have hlast : n % 10 < 10 := Nat.mod_lt n (by decide)
  rw [digits, Nat.toDigits_of_base_le (by decide) h, List.map_append,
    ← Nat.toDigits_of_lt_base hlast]
  rfl

/-- A number begins with another digit than zero, unless it is zero. -/
theorem exists_digits_cons (n : Nat) (hpos : 0 < n) :
    ∃ first rest, digits n = first :: rest ∧ first ≠ 0 := by
  induction n using Nat.strongRecOn with
  | ind n ih =>
      rcases Nat.lt_or_ge n 10 with hlt | hge
      · refine ⟨n, [], ?_, Nat.ne_of_gt hpos⟩
        rw [digits, Nat.toDigits_of_lt_base hlt, List.map_singleton,
          Nat.toNat_digitChar_of_lt_ten hlt]
        exact congrArg (· :: []) (Nat.add_sub_cancel_left 48 n)
      · obtain ⟨first, rest, hdigits, hfirst⟩ := ih (n / 10) (by omega) (by omega)
        refine ⟨first, rest ++ digits (n % 10), ?_, hfirst⟩
        rw [digits_eq_append hge, hdigits, List.cons_append]

theorem readDigits_append {ds rest : List Char} (hdigits : ∀ c ∈ ds, c.isDigit = true)
    (hrest : ∀ c, rest.head? = some c → c.isDigit = false) :
    readDigits (ds ++ rest) = (ds.map (fun c => c.toNat - '0'.toNat), rest) := by
  induction ds with
  | nil =>
      cases rest with
      | nil => rfl
      | cons c rest => simp [readDigits, hrest c rfl]
  | cons c ds ih =>
      obtain ⟨hc, hds⟩ := List.forall_mem_cons.mp hdigits
      rw [List.cons_append, readDigits, if_pos hc, ih hds, List.map_cons]

theorem readDigits_digits (n : Nat) {rest : List Char}
    (hrest : ∀ c, rest.head? = some c → c.isDigit = false) :
    readDigits (Nat.toDigits 10 n ++ rest) = (digits n, rest) :=
  readDigits_append (fun _ => isDigit_of_mem_toDigits) hrest

theorem isDigit_of_isSpace {c : Char} (h : isSpace c = true) : c.isDigit = false := by
  simp only [isSpace, Bool.or_eq_true, beq_iff_eq] at h
  rcases h with ((rfl | rfl) | rfl) | rfl <;> rfl

theorem EndsNumber.isDigit_eq_false {rest : List Char} (h : EndsNumber rest) :
    ∀ c, rest.head? = some c → c.isDigit = false := by
  intro c hc
  rcases h c hc with hspace | rfl | rfl
  · exact isDigit_of_isSpace hspace
  · rfl
  · rfl

theorem EndsNumber.readFraction {rest : List Char} (h : EndsNumber rest) :
    readFraction rest = some ([], rest) := by
  rw [readFraction.eq_def]
  split
  · rcases h '.' rfl with h | h | h <;> contradiction
  · rfl

theorem EndsNumber.readExponent {rest : List Char} (h : EndsNumber rest) :
    readExponent rest = some (none, rest) := by
  have hlower : rest.head? ≠ some 'e' := by
    intro hc
    rcases h 'e' hc with h | h | h <;> contradiction
  have hupper : rest.head? ≠ some 'E' := by
    intro hc
    rcases h 'E' hc with h | h | h <;> contradiction
  rw [readExponent.eq_def]
  split <;> first | rfl | exact absurd rfl hlower | exact absurd rfl hupper

theorem readUnsigned_digits (n : Nat) {rest : List Char} (h : EndsNumber rest) :
    readUnsigned false (Nat.toDigits 10 n ++ rest) = some (numeralOf n, rest) := by
  have hread := readDigits_digits n h.isDigit_eq_false
  have hnumber (whole : List Nat) :
      ((readFraction rest).bind fun fraction => (readExponent fraction.2).bind fun exponent =>
        some ((⟨false, whole, fraction.1, exponent.1⟩ : Numeral), exponent.2)) =
          some ((⟨false, whole, [], none⟩ : Numeral), rest) := by
    simp only [h.readFraction, h.readExponent, Option.bind_some]
  rw [readUnsigned, hread, numeralOf]
  rcases Nat.eq_zero_or_pos n with rfl | hpos
  · exact hnumber [0]
  · obtain ⟨first, others, hdigits, hfirst⟩ := exists_digits_cons n hpos
    rw [hdigits]
    split
    · next hnil => exact absurd (Prod.mk.inj hnil).1 (List.cons_ne_nil first others)
    · next hzero => exact absurd (List.cons.inj (Prod.mk.inj hzero).1).1 hfirst
    · exact hnumber (first :: others)

theorem read_digit {c : Char} (hdigit : c.isDigit = true) (cs : List Char) :
    read c cs = (readUnsigned false (c :: cs)).map
      fun (numeral, rest) => (.number numeral, rest) := by
  rw [read.eq_def]
  split <;> first | rfl | contradiction

/-- A number is read to its end. -/
theorem read_number (n : Nat) {rest : List Char} (h : EndsNumber rest) :
    ∃ c cs, Nat.toDigits 10 n = c :: cs ∧ isSpace c = false ∧
      read c (cs ++ rest) = some (.number (numeralOf n), rest) := by
  obtain ⟨c, cs, hdigits⟩ := List.exists_cons_of_ne_nil (Nat.toDigits_ne_nil (n := n) (b := 10))
  have hdigit : c.isDigit = true :=
    isDigit_of_mem_toDigits (hdigits ▸ List.mem_cons_self)
  refine ⟨c, cs, hdigits, Bool.eq_false_iff.mpr fun hspace => ?_, ?_⟩
  · rw [isDigit_of_isSpace hspace] at hdigit
    contradiction
  · rw [read_digit hdigit, ← List.cons_append, ← hdigits, readUnsigned_digits n h]
    rfl

theorem splitWithin_space {c : Char} (hc : isSpace c = true) (steps : Nat) (cs : List Char) :
    splitWithin (steps + 1) (c :: cs) = splitWithin steps cs := by
  rw [splitWithin, if_pos hc]

theorem splitWithin_token {c : Char} {cs : List Char} (hc : isSpace c = false) (steps : Nat) :
    splitWithin (steps + 1) (c :: cs) =
      (read c cs).bind fun (token, rest) => (splitWithin steps rest).map (token :: ·) := by
  rw [splitWithin, if_neg (by rw [hc]; decide)]
  cases read c cs <;> rfl

/-- What is split within some steps is split the same way within more. -/
theorem splitWithin_mono {steps more : Nat} {cs : List Char} {tokens : List Token}
    (h : splitWithin steps cs = some tokens) (hle : steps ≤ more) :
    splitWithin more cs = some tokens := by
  induction steps generalizing more cs tokens with
  | zero =>
      cases cs with
      | nil => rwa [splitWithin] at h ⊢
      | cons c rest => contradiction
  | succ steps ih =>
      obtain ⟨more, rfl⟩ := Nat.exists_eq_add_of_le' (Nat.le_trans (Nat.succ_pos steps) hle)
      have hle := Nat.le_of_succ_le_succ hle
      cases cs with
      | nil => rwa [splitWithin] at h ⊢
      | cons c rest =>
          cases hc : isSpace c with
          | true =>
              rw [splitWithin_space hc] at h ⊢
              exact ih h hle
          | false =>
              rw [splitWithin_token hc] at h ⊢
              obtain ⟨⟨t, rest⟩, hread, hrest⟩ := Option.bind_eq_some_iff.mp h
              obtain ⟨tokens, hsplit, rfl⟩ := Option.map_eq_some_iff.mp hrest
              simp only [hread, Option.bind_some, ih hsplit hle, Option.map_some]

/-- The characters are split into these tokens, in at most as many steps as there are
characters. -/
def Splits (cs : List Char) (tokens : List Token) : Prop :=
  ∃ steps ≤ cs.length, splitWithin steps cs = some tokens

variable {blanks cs rest meant : List Char} {tokens : List Token} {t : Token} {c : Char}

theorem Splits.split (h : Splits cs tokens) : split cs = some tokens := by
  obtain ⟨steps, hle, hsplit⟩ := h
  exact splitWithin_mono hsplit hle

theorem splits_nil : Splits [] [] := ⟨0, Nat.le_refl 0, rfl⟩

theorem Splits.space (h : Splits cs tokens) (hc : isSpace c = true) : Splits (c :: cs) tokens := by
  obtain ⟨steps, hle, hsplit⟩ := h
  refine ⟨steps + 1, Nat.succ_le_succ hle, ?_⟩
  rw [splitWithin_space hc, hsplit]

theorem Splits.blank (h : Splits cs tokens) (hblank : IsBlank blanks) :
    Splits (blanks ++ cs) tokens := by
  induction blanks with
  | nil => exact h
  | cons c blanks ih =>
      obtain ⟨hc, hrest⟩ := List.forall_mem_cons.mp hblank
      exact (ih hrest).space hc

theorem Splits.token (h : Splits rest tokens) (hread : read c (cs ++ rest) = some (t, rest))
    (hc : isSpace c = false) : Splits (c :: (cs ++ rest)) (t :: tokens) := by
  obtain ⟨steps, hle, hsplit⟩ := h
  refine ⟨steps + 1, ?_, ?_⟩
  · rw [List.length_cons, List.length_append]
    omega
  · simp only [splitWithin_token hc, hread, Option.bind_some, hsplit, Option.map_some]

theorem Splits.mark (h : Splits rest tokens) (hread : read c rest = some (t, rest))
    (hc : isSpace c = false) : Splits (c :: rest) (t :: tokens) := by
  have hread' : read c ([] ++ rest) = some (t, rest) := hread
  exact h.token hread' hc

theorem Splits.text (h : Splits rest tokens) (hspelled : Spelled cs meant) :
    Splits ('"' :: (cs ++ '"' :: rest)) (.text (some (String.ofList meant)) :: tokens) := by
  have hread := read_text hspelled rest
  rw [List.append_cons] at hread ⊢
  exact h.token hread rfl

theorem Splits.number (h : Splits rest tokens) (n : Nat) (hends : EndsNumber rest) :
    Splits (Nat.toDigits 10 n ++ rest) (.number (numeralOf n) :: tokens) := by
  obtain ⟨c, cs, hdigits, hc, hread⟩ := read_number n hends
  rw [hdigits]
  exact h.token hread hc

end GateGame.Json
