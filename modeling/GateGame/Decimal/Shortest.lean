import GateGame.Decimal.Binary

namespace GateGame

/-! The shortest decimal that reads back as a given double: of all decimals that
round to it, those with the fewest digits, and of these the nearest. Two that
are equally near are told apart by the caller's rule for ties. -/

structure Decimal where
  digits : Nat
  exponent : Int
  deriving DecidableEq

namespace Decimal

inductive Tie where
  | up
  | even
  deriving DecidableEq

/-- Whether `candidate / 1` lies among the numbers that round to the double, all
measured in quarters of the double's last place: the double is `4 * significand`,
and the bounds themselves count when the significand is even. -/
def roundsTo (significand : Nat) (atPower : Bool) (quarter : Ratio) (candidate : Nat) : Bool :=
  let low := (4 * significand - (if atPower then 1 else 2)) * quarter.numerator
  let high := (4 * significand + 2) * quarter.numerator
  let place := candidate * quarter.denominator
  if significand % 2 = 0 then low ≤ place ∧ place ≤ high
  else low < place ∧ place < high

/-- The better of the two neighbours `floor` and `floor + 1` of `value` on a
decimal grid, if either reads back. -/
def pickNeighbour (tie : Tie) (value : Ratio) (readsBack : Nat → Bool) : Option Nat :=
  let floor := value.numerator / value.denominator
  let rest := value.numerator % value.denominator
  match readsBack floor, readsBack (floor + 1) with
  | false, false => none
  | true, false => some floor
  | false, true => some (floor + 1)
  | true, true =>
      if 2 * rest < value.denominator then some floor
      else if value.denominator < 2 * rest then some (floor + 1)
      else match tie with
        | .up => some (floor + 1)
        | .even => some (if floor % 2 = 0 then floor else floor + 1)

def stripZeros : Nat → Decimal → Decimal
  | 0, d => d
  | steps + 1, d =>
      if d.digits ≠ 0 ∧ d.digits % 10 = 0 then
        stripZeros steps ⟨d.digits / 10, d.exponent + 1⟩
      else d

/-- The shortest decimal for the positive double `significand * 2 ^ exponent`.
Grids of one digit, two digits and so on are tried in turn; seventeen digits
are always enough. -/
def shortest (tie : Tie) (significand : Nat) (exponent : Int) : Decimal :=
  let atPower := significand = leastNormal ∧ exponent ≠ -1074
  let value := Ratio.ofBinary significand exponent
  let quarter := Ratio.ofBinary 1 (exponent - 2)
  let leading := value.leadingExponent
  let onGrid (count : Nat) : Option Decimal :=
    let grid := leading - count
    (pickNeighbour tie (value.scaled grid)
      (roundsTo significand atPower (quarter.scaled grid))).map (⟨·, grid⟩)
  ((List.range 17).findSome? onGrid).getD ⟨0, 0⟩ |>.stripZeros 17

end Decimal

end GateGame
