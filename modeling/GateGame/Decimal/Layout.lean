import GateGame.Decimal.Shortest

namespace GateGame.Decimal

/-! How a decimal is written down: everything in place, or a leading digit with
an exponent. -/

def digitsOf (n : Nat) : List Nat :=
  (Nat.toDigits 10 n).map fun c => c.toNat - '0'.toNat

/-- The digits before and after the point when everything stands in place; a
missing whole part is a zero, a missing fraction is empty. -/
def places (d : Decimal) : List Nat × List Nat :=
  let digits := digitsOf d.digits
  if 0 ≤ d.exponent then (digits ++ List.replicate d.exponent.toNat 0, [])
  else
    let behind := (-d.exponent).toNat
    if digits.length ≤ behind then
      ([0], List.replicate (behind - digits.length) 0 ++ digits)
    else (digits.take (digits.length - behind), digits.drop (digits.length - behind))

def leadingExponent (d : Decimal) : Int :=
  d.exponent + (digitsOf d.digits).length - 1

def writeDigits (digits : List Nat) : String :=
  String.ofList (digits.map Nat.digitChar)

def plain : Binary → String
  | .nan => "NaN"
  | .infinite negative => if negative then "-inf" else "inf"
  | .finite negative significand exponent =>
      let sign := if negative then "-" else ""
      if significand = 0 then sign ++ "0"
      else
        match (shortest .up significand exponent).places with
        | (whole, []) => sign ++ writeDigits whole
        | (whole, fraction) => sign ++ writeDigits whole ++ "." ++ writeDigits fraction

/-- `numerator / denominator` rounded to the nearest whole number, a half going
to the even neighbour. -/
def roundHalfEven (value : Ratio) : Nat :=
  let floor := value.numerator / value.denominator
  let rest := value.numerator % value.denominator
  if 2 * rest < value.denominator then floor
  else if value.denominator < 2 * rest then floor + 1
  else if floor % 2 = 0 then floor else floor + 1

def fixed (count : Nat) : Binary → String
  | .nan => "NaN"
  | .infinite negative => if negative then "-inf" else "inf"
  | .finite negative significand exponent =>
      let sign := if negative then "-" else ""
      let digits := roundHalfEven ((Ratio.ofBinary significand exponent).scaled (-count))
      let (whole, fraction) := (⟨digits, -count⟩ : Decimal).places
      if count = 0 then sign ++ writeDigits whole
      else sign ++ writeDigits whole ++ "." ++ writeDigits fraction

end GateGame.Decimal
