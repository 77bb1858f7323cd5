import GateGame.Json.Basic
import GateGame.Decimal.Layout

namespace GateGame.Numeral

/-! What the numerals of a JSON text mean as words and as doubles, and how
doubles are written there. -/

def word? (numeral : Numeral) : Option UInt64 :=
  let value := numeral.whole.foldl (fun value digit => value * 10 + digit) 0
  if numeral.negative ∨ numeral.fraction ≠ [] ∨ numeral.exponent ≠ none then none
  else if value < UInt64.size then some (UInt64.ofNat value)
  else none

structure Significand where
  value : UInt64
  exponent : Int

def Significand.takeWhole (s : Significand) : List Nat → Significand
  | [] => s
  | digit :: rest =>
      let value := s.value.toNat * 10 + digit
      if value < UInt64.size then takeWhole { s with value := UInt64.ofNat value } rest
      else { s with exponent := s.exponent + (rest.length + 1) }

/-- Takes digits after the point while the word has room; the others are lost. -/
def Significand.takeFraction (s : Significand) : List Nat → Significand
  | [] => s
  | digit :: rest =>
      let value := s.value.toNat * 10 + digit
      if value < UInt64.size then
        takeFraction ⟨UInt64.ofNat value, s.exponent - 1⟩ rest
      else s

def tenPower (k : Nat) : Float :=
  Float.ofScientific 1 false k

/-- `x * 10 ^ exponent` by one multiplication or division when the power is a
double, after divisions by `10 ^ 308` that bring the exponent into reach; `none`
when the product overflows. Beyond the steps allowed nothing but zero is left. -/
def scaleByTen : Nat → Float → Int → Option Float
  | steps, x, exponent =>
      if exponent.natAbs ≤ 308 then
        if 0 ≤ exponent then
          let product := x * tenPower exponent.toNat
          if product.isInf then none else some product
        else some (x / tenPower exponent.natAbs)
      else if x == 0 then some x
      else if 0 ≤ exponent then none
      else match steps with
        | 0 => some 0
        | steps + 1 => scaleByTen steps (x / tenPower 308) (exponent + 308)

/-- The double that a numeral stands for: a significand of at most one word,
rounded, and then scaled by its power of ten, rounded again. `none` when the
number is too great for a double. -/
def double? (numeral : Numeral) : Option Float := do
  let s := ((Significand.mk 0 0).takeWhole numeral.whole).takeFraction numeral.fraction
  let size ← scaleByTen 3 s.value.toFloat (s.exponent + numeral.exponent.getD 0)
  pure (if numeral.negative then -size else size)

end GateGame.Numeral

namespace GateGame.Json

open GateGame.Decimal

/-- A double as a JSON number: the shortest decimal that reads back, in place
with at least one digit after the point when its leading digit stands at
`10 ^ (-5)` up to `10 ^ 15`, and otherwise with a signed exponent. What is no
finite number is written `null`. -/
def writeDouble (x : Float) : String :=
  match Binary.ofBits x.toBits with
  | .nan | .infinite _ => "null"
  | .finite negative significand exponent =>
      let sign := if negative then "-" else ""
      if significand = 0 then sign ++ "0.0"
      else
        let d := shortest .even significand exponent
        let leading := d.leadingExponent
        if -5 ≤ leading ∧ leading < 16 then
          match d.places with
          | (whole, []) => sign ++ writeDigits whole ++ ".0"
          | (whole, fraction) => sign ++ writeDigits whole ++ "." ++ writeDigits fraction
        else
          let mark := if leading < 0 then "e-" else "e+"
          match digitsOf d.digits with
          | [] => sign
          | [first] => sign ++ writeDigits [first] ++ mark ++ toString leading.natAbs
          | first :: rest =>
              sign ++ writeDigits [first] ++ "." ++ writeDigits rest ++ mark ++
                toString leading.natAbs

end GateGame.Json
