namespace GateGame.Decimal

/-! The exact value of a double-precision number. -/

/-- A double taken apart: no number, an infinity, or a sign together with
`significand * 2 ^ exponent`. -/
inductive Binary where
  | nan
  | infinite (negative : Bool)
  | finite (negative : Bool) (significand : Nat) (exponent : Int)

def leastNormal : Nat := 1 <<< 52

def Binary.ofBits (bits : UInt64) : Binary :=
  let negative := bits >>> 63 == 1
  let field := ((bits >>> 52) &&& 0x7FF).toNat
  let fraction := (bits &&& 0xFFFFFFFFFFFFF).toNat
  if field = 0x7FF then
    if fraction = 0 then .infinite negative else .nan
  else if field = 0 then .finite negative fraction (-1074)
  else .finite negative (leastNormal + fraction) (field - 1075)

structure Ratio where
  numerator : Nat
  denominator : Nat

def Ratio.ofBinary (size : Nat) (exponent : Int) : Ratio :=
  if 0 ≤ exponent then ⟨size * Nat.pow 2 exponent.toNat, 1⟩
  else ⟨size, Nat.pow 2 (-exponent).toNat⟩

def digitCount (n : Nat) : Nat :=
  if n = 0 then 0 else (Nat.toDigits 10 n).length

def Ratio.leadingExponent (value : Ratio) : Int :=
  if value.denominator ≤ value.numerator then
    (digitCount (value.numerator / value.denominator) : Int) - 1
  else
    -(digitCount ((value.denominator - 1) / value.numerator) : Int)

def Ratio.scaled (value : Ratio) (exponent : Int) : Ratio :=
  if 0 ≤ exponent then ⟨value.numerator, value.denominator * Nat.pow 10 exponent.toNat⟩
  else ⟨value.numerator * Nat.pow 10 (-exponent).toNat, value.denominator⟩

end GateGame.Decimal
