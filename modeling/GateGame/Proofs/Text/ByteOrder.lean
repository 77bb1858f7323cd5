import Mathlib.Data.String.Basic
import Mathlib.Tactic.SplitIfs

namespace GateGame

/-! The order of strings is the order of their bytes. A greater character has a greater
encoding, and at the first byte where two encodings differ neither of them has ended, so
what follows the characters does not matter. -/

def bytes (s : String) : List UInt8 :=
  s.toUTF8.data.toList

theorem bytes_eq (s : String) : bytes s = s.toList.flatMap String.utf8EncodeChar := by
  rw [bytes, String.toUTF8_eq_toByteArray, ← String.utf8Encode_toList, List.utf8Encode,
    List.data_toByteArray]

theorem ofNat_cons_lt {a b : Nat} {cs ds : List UInt8} (hb : b < 256)
    (h : a < b ∨ a = b ∧ cs < ds) : UInt8.ofNat a :: cs < UInt8.ofNat b :: ds := by
  rw [List.cons_lt_cons_iff]
  rcases h with hlt | ⟨rfl, hlt⟩
  · left
    rw [UInt8.lt_iff_toNat_lt, UInt8.toNat_ofNat_of_lt' (Nat.lt_trans hlt hb),
      UInt8.toNat_ofNat_of_lt' hb]
    exact hlt
  · exact .inr ⟨rfl, hlt⟩

/-- A byte that holds the last digit of a number: of two numbers with the same other
digits, the digit decides, or else what follows. -/
theorem digit_cons_lt {base shift p q : Nat} {cs ds : List UInt8} (hle : p ≤ q)
    (hhigh : p / base = q / base) (hbase : 0 < base) (hfit : base + shift ≤ 256)
    (hrest : p = q → cs < ds) :
    UInt8.ofNat (p % base + shift) :: cs < UInt8.ofNat (q % base + shift) :: ds := by
  have hdigit := Nat.mod_lt q hbase
  apply ofNat_cons_lt (by omega)
  rcases Nat.eq_or_lt_of_le hle with rfl | hlt
  · exact .inr ⟨rfl, hrest rfl⟩
  · have hp := Nat.div_add_mod p base
    have hq := Nat.div_add_mod q base
    rw [hhigh] at hp
    exact .inl (by omega)

theorem utf8EncodeChar_lt {c d : Char} (h : c < d) (rest rest' : List UInt8) :
    String.utf8EncodeChar c ++ rest < String.utf8EncodeChar d ++ rest' := by
  have hlt : c.val.toNat < d.val.toNat := h
  have hne (heq : c.val.toNat = d.val.toNat) : rest < rest' := absurd heq (Nat.ne_of_lt hlt)
  have hbound : d.val.toNat < 0x110000 := by
    rcases d.valid with hvalid | hvalid
    · exact Nat.lt_trans hvalid (by decide)
    · exact hvalid.2
  simp only [String.utf8EncodeChar]
  -- Of two encodings of different lengths the longer one has the greater first byte.
  split_ifs <;> first
    | omega
    | exact ofNat_cons_lt (by omega) (.inl (by omega))
    | skip
  · refine digit_cons_lt (by omega) (by omega) (by decide) (by decide) fun _ => ?_
    exact digit_cons_lt (by omega) (by omega) (by decide) (by decide) hne
  · refine digit_cons_lt (by omega) (by omega) (by decide) (by decide) fun _ => ?_
    refine digit_cons_lt (by omega) (by omega) (by decide) (by decide) fun _ => ?_
    exact digit_cons_lt (by omega) (by omega) (by decide) (by decide) hne
  · refine digit_cons_lt (by omega) (by omega) (by decide) (by decide) fun _ => ?_
    refine digit_cons_lt (by omega) (by omega) (by decide) (by decide) fun _ => ?_
    refine digit_cons_lt (by omega) (by omega) (by decide) (by decide) fun _ => ?_
    exact digit_cons_lt (by omega) (by omega) (by decide) (by decide) hne

theorem flatMap_utf8EncodeChar_lt {cs ds : List Char} (h : cs < ds) :
    cs.flatMap String.utf8EncodeChar < ds.flatMap String.utf8EncodeChar := by
  induction h with
  | @nil d ds =>
      have hne : String.utf8EncodeChar d ++ ds.flatMap String.utf8EncodeChar ≠ [] :=
        List.append_ne_nil_of_left_ne_nil String.utf8EncodeChar_ne_nil _
      obtain ⟨b, bs, hbytes⟩ := List.exists_cons_of_ne_nil hne
      rw [List.flatMap_nil, List.flatMap_cons, hbytes]
      exact List.nil_lt_cons b bs
  | rel hlt => exact utf8EncodeChar_lt hlt _ _
  | cons _ ih => exact List.append_left_lt ih

theorem lt_iff_bytes_lt {s t : String} : s < t ↔ bytes s < bytes t := by
  rw [String.lt_iff_toList_lt, bytes_eq, bytes_eq]
  constructor
  · exact flatMap_utf8EncodeChar_lt
  · intro h
    by_contra hnot
    rcases List.le_iff_lt_or_eq.mp (List.not_lt.mp hnot) with hlt | heq
    · exact List.lt_asymm h (flatMap_utf8EncodeChar_lt hlt)
    · rw [heq] at h
      exact List.lt_irrefl _ h

end GateGame
