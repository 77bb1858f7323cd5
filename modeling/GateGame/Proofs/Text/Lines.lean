import Mathlib.Data.List.Basic

namespace GateGame

/-! Numbers and lines read back from a text. The digits of a number end where a character
comes that is no digit, and a line ends at the first newline. -/

theorem toList_toString (n : Nat) : (toString n).toList = Nat.toDigits 10 n := by
  rw [Nat.toString_eq_ofList_toDigits, String.toList_ofList]

theorem isDigit_of_mem_toDigits {c : Char} {n : Nat} (h : c ∈ Nat.toDigits 10 n) :
    c.isDigit = true :=
  Nat.isDigit_of_mem_toDigits (by decide) (by decide) h

theorem not_mem_toDigits {c : Char} (h : c.isDigit = false) (n : Nat) :
    c ∉ Nat.toDigits 10 n := by
  intro hmem
  rw [isDigit_of_mem_toDigits hmem] at h
  cases h

theorem toDigits_inj {m n : Nat} (h : Nat.toDigits 10 m = Nat.toDigits 10 n) : m = n := by
  rw [← Nat.ofDigitChars_ten_toDigits (n := m), h, Nat.ofDigitChars_ten_toDigits]

theorem length_toDigits_le {m n : Nat} (h : m ≤ n) :
    (Nat.toDigits 10 m).length ≤ (Nat.toDigits 10 n).length := by
  have hfits (k : Nat) := Nat.length_toDigits_le_iff (b := 10) (n := k) (by decide)
    (Nat.length_toDigits_pos (b := 10) (n := n))
  exact (hfits m).mpr (Nat.lt_of_le_of_lt h ((hfits n).mp (Nat.le_refl _)))

/-- What stands before the first occurrence of a character, and after it. -/
theorem append_cons_inj {c : Char} {xs ys s t : List Char} (hx : c ∉ xs) (hy : c ∉ ys)
    (h : xs ++ c :: s = ys ++ c :: t) : xs = ys ∧ s = t := by
  induction xs generalizing ys with
  | nil =>
      cases ys with
      | nil => exact ⟨rfl, (List.cons.inj h).2⟩
      | cons y ys => exact absurd (List.cons.inj h).1 (fun heq => hy (heq ▸ List.mem_cons_self))
  | cons x xs ih =>
      cases ys with
      | nil => exact absurd (List.cons.inj h).1.symm (fun heq => hx (heq ▸ List.mem_cons_self))
      | cons y ys =>
          obtain ⟨rfl, hrest⟩ := List.cons.inj h
          obtain ⟨rfl, rfl⟩ := ih (mt (List.mem_cons_of_mem x) hx) (mt (List.mem_cons_of_mem x) hy)
            hrest
          exact ⟨rfl, rfl⟩

/-- A text of whole lines determines the lines. -/
theorem lines_inj {lines lines' : List (List Char)} (hlines : ∀ line ∈ lines, '\n' ∉ line)
    (hlines' : ∀ line ∈ lines', '\n' ∉ line)
    (h : lines.flatMap (· ++ ['\n']) = lines'.flatMap (· ++ ['\n'])) : lines = lines' := by
  induction lines generalizing lines' with
  | nil =>
      cases lines' with
      | nil => rfl
      | cons line' rest' => simp at h
  | cons line rest ih =>
      cases lines' with
      | nil => simp at h
      | cons line' rest' =>
          obtain ⟨hline, hrest⟩ := List.forall_mem_cons.mp hlines
          obtain ⟨hline', hrest'⟩ := List.forall_mem_cons.mp hlines'
          rw [List.flatMap_cons, List.flatMap_cons, List.append_assoc, List.append_assoc] at h
          obtain ⟨rfl, hsame⟩ := append_cons_inj hline hline' h
          rw [ih hrest hrest' hsame]

end GateGame
