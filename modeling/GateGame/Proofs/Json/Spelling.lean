import GateGame.Json.Token
import GateGame.Json.Writer

namespace GateGame.Json

/-! The spellings of a string. Most characters may stand for themselves, and each may also
be escaped by one unit of sixteen bits or by two; whichever spelling is chosen, reading
gives the characters that were meant. The writer chooses one of the spellings. -/

/-- The inside of a string as it may be written, and the characters it is meant for. -/
inductive Spelled : List Char → List Char → Prop
  | nil : Spelled [] []
  | plain {c : Char} {cs meant : List Char} (hmark : c ≠ '"') (hslash : c ≠ '\\')
      (hcontrol : 0x20 ≤ c.toNat) (hrest : Spelled cs meant) :
      Spelled (c :: cs) (c :: meant)
  | escaped {e c : Char} {cs meant : List Char} (hletter : Token.simpleEscape? e = some c)
      (hrest : Spelled cs meant) :
      Spelled ('\\' :: e :: cs) (c :: meant)
  | unit {h₁ h₂ h₃ h₄ c : Char} {cs meant : List Char}
      (hunit : Token.hexUnit? h₁ h₂ h₃ h₄ = some c.toNat) (hrest : Spelled cs meant) :
      Spelled ('\\' :: 'u' :: h₁ :: h₂ :: h₃ :: h₄ :: cs) (c :: meant)
  | surrogates {h₁ h₂ h₃ h₄ l₁ l₂ l₃ l₄ c : Char} {high low : Nat} {cs meant : List Char}
      (hhigh : Token.hexUnit? h₁ h₂ h₃ h₄ = some (0xD800 + high)) (hhigh' : high < 0x400)
      (hlow : Token.hexUnit? l₁ l₂ l₃ l₄ = some (0xDC00 + low)) (hlow' : low < 0x400)
      (hchar : c.toNat = 0x10000 + high * 0x400 + low) (hrest : Spelled cs meant) :
      Spelled ('\\' :: 'u' :: h₁ :: h₂ :: h₃ :: h₄ :: '\\' :: 'u' :: l₁ :: l₂ :: l₃ :: l₄ :: cs)
        (c :: meant)

namespace Token

theorem not_surrogate (c : Char) : ¬ (0xD800 ≤ c.toNat ∧ c.toNat < 0xE000) := by
  have hvalid : c.toNat < 0xD800 ∨ 0xDFFF < c.toNat ∧ c.toNat < 0x110000 := c.valid
  omega

/-- A unit that is no half of a surrogate pair is a character, whatever follows. -/
theorem assemble_unit (c : Char) (pieces : List Piece) :
    assemble (.unit c.toNat :: pieces) = (assemble pieces).map (c :: ·) := by
  have hsurrogate := not_surrogate c
  have hhigh : ¬ (0xD800 ≤ c.toNat ∧ c.toNat < 0xDC00) := by omega
  match pieces with
  | [] => simp [assemble, hsurrogate]
  | .char c' :: rest => simp [assemble, hsurrogate]
  | .unit low :: rest =>
      rw [assemble, if_neg (fun h => hhigh ⟨h.1, h.2.1⟩), if_neg hsurrogate, Char.ofNat_toNat]

theorem assemble_pair {c : Char} {high low : Nat} (hhigh : high < 0x400) (hlow : low < 0x400)
    (hchar : c.toNat = 0x10000 + high * 0x400 + low) (pieces : List Piece) :
    assemble (.unit (0xD800 + high) :: .unit (0xDC00 + low) :: pieces) =
      (assemble pieces).map (c :: ·) := by
  have hpair : 0xD800 ≤ 0xD800 + high ∧ 0xD800 + high < 0xDC00 ∧
      0xDC00 ≤ 0xDC00 + low ∧ 0xDC00 + low < 0xE000 := by omega
  rw [assemble, if_pos hpair, Nat.add_sub_cancel_left, Nat.add_sub_cancel_left, ← hchar,
    Char.ofNat_toNat]

theorem readPieces_plain {c : Char} (hmark : c ≠ '"') (hslash : c ≠ '\\')
    (hcontrol : 0x20 ≤ c.toNat) (cs : List Char) :
    readPieces (c :: cs) =
      (readPieces cs).map fun (pieces, rest) => (.char c :: pieces, rest) := by
  rw [readPieces.eq_def]
  split
  · contradiction
  · next h => exact absurd (List.cons.inj h).1 hmark
  · next h => exact absurd (List.cons.inj h).1 hslash
  · next h => exact absurd (List.cons.inj h).1 hslash
  · next h =>
    obtain ⟨rfl, rfl⟩ := List.cons.inj h
    rw [if_neg (Nat.not_lt.mpr hcontrol), Option.map_eq_bind]
    rfl

theorem readPieces_escaped {e c : Char} (h : simpleEscape? e = some c) (cs : List Char) :
    readPieces ('\\' :: e :: cs) =
      (readPieces cs).map fun (pieces, rest) => (.char c :: pieces, rest) := by
  have hunit : e ≠ 'u' := by
    rintro rfl
    contradiction
  rw [readPieces, h, Option.map_eq_bind]
  · rfl
  · intro a b c d rest he
    exact absurd he hunit

theorem readPieces_unit {h₁ h₂ h₃ h₄ : Char} {u : Nat} (h : hexUnit? h₁ h₂ h₃ h₄ = some u)
    (cs : List Char) :
    readPieces ('\\' :: 'u' :: h₁ :: h₂ :: h₃ :: h₄ :: cs) =
      (readPieces cs).map fun (pieces, rest) => (.unit u :: pieces, rest) := by
  rw [readPieces, h, Option.map_eq_bind]
  rfl

/-- Whatever the spelling, what is read up to the closing mark is what was meant. -/
theorem readPieces_spelled {cs meant : List Char} (h : Spelled cs meant) (rest : List Char) :
    ∃ pieces, readPieces (cs ++ '"' :: rest) = some (pieces, rest) ∧
      assemble pieces = some meant := by
  induction h with
  | nil => exact ⟨[], rfl, rfl⟩
  | plain hmark hslash hcontrol _ ih =>
      obtain ⟨pieces, hread, hmeant⟩ := ih
      refine ⟨.char _ :: pieces, ?_, by rw [assemble, hmeant]; rfl⟩
      rw [List.cons_append, readPieces_plain hmark hslash hcontrol, hread]
      rfl
  | escaped hletter _ ih =>
      obtain ⟨pieces, hread, hmeant⟩ := ih
      refine ⟨.char _ :: pieces, ?_, by rw [assemble, hmeant]; rfl⟩
      rw [List.cons_append, List.cons_append, readPieces_escaped hletter, hread]
      rfl
  | unit hunit _ ih =>
      obtain ⟨pieces, hread, hmeant⟩ := ih
      refine ⟨.unit _ :: pieces, ?_, by rw [assemble_unit, hmeant]; rfl⟩
      simp only [List.cons_append]
      rw [readPieces_unit hunit, hread]
      rfl
  | surrogates hhigh hhigh' hlow hlow' hchar _ ih =>
      obtain ⟨pieces, hread, hmeant⟩ := ih
      refine ⟨.unit _ :: .unit _ :: pieces, ?_, by
        rw [assemble_pair hhigh' hlow' hchar, hmeant]; rfl⟩
      simp only [List.cons_append]
      rw [readPieces_unit hhigh, readPieces_unit hlow, hread]
      rfl

theorem read_text {cs meant : List Char} (h : Spelled cs meant) (rest : List Char) :
    read '"' (cs ++ '"' :: rest) = some (.text (some (String.ofList meant)), rest) := by
  obtain ⟨pieces, hread, hmeant⟩ := readPieces_spelled h rest
  simp only [read, hread, hmeant, Option.map_some]

end Token

theorem Spelled.append {cs cs' meant meant' : List Char} (h : Spelled cs meant)
    (h' : Spelled cs' meant') : Spelled (cs ++ cs') (meant ++ meant') := by
  induction h with
  | nil => exact h'
  | plain hmark hslash hcontrol _ ih => exact .plain hmark hslash hcontrol ih
  | escaped hletter _ ih => exact .escaped hletter ih
  | unit hunit _ ih => exact .unit hunit ih
  | surrogates hhigh hhigh' hlow hlow' hchar _ ih =>
      exact .surrogates hhigh hhigh' hlow hlow' hchar ih

theorem hexUnit?_control : ∀ n < 0x20,
    Token.hexUnit? '0' '0' (Nat.digitChar (n / 16)) (Nat.digitChar (n % 16)) = some n := by
  decide

theorem spelled_escape_char (c : Char) : Spelled (escape c) [c] := by
  unfold escape
  split
  · exact .escaped rfl .nil
  · exact .escaped rfl .nil
  · exact .escaped rfl .nil
  · exact .escaped rfl .nil
  · exact .escaped rfl .nil
  · exact .escaped rfl .nil
  · exact .escaped rfl .nil
  · split
    · next hcontrol => exact .unit (hexUnit?_control c.toNat hcontrol) .nil
    · next hmark hslash _ _ _ _ _ hcontrol =>
      exact .plain hmark hslash (Nat.not_lt.mp hcontrol) .nil

/-- The writer writes one of the spellings. -/
theorem spelled_escape (meant : List Char) : Spelled (meant.flatMap escape) meant := by
  induction meant with
  | nil => exact .nil
  | cons c meant ih => exact (spelled_escape_char c).append ih

end GateGame.Json
