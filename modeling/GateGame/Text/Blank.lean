namespace GateGame.Text

/-! Blank text: nothing but characters of the Unicode property White_Space. -/

def blankIntervals : List (Nat × Nat) := [
    (0x9, 0xD), (0x20, 0x20), (0x85, 0x85), (0xA0, 0xA0), (0x1680, 0x1680),
    (0x2000, 0x200A), (0x2028, 0x2029), (0x202F, 0x202F), (0x205F, 0x205F),
    (0x3000, 0x3000)]

def isBlankChar (c : Char) : Bool :=
  blankIntervals.any fun (first, last) => first ≤ c.toNat && c.toNat ≤ last

def isBlank (s : String) : Bool :=
  s.toList.all isBlankChar

end GateGame.Text
