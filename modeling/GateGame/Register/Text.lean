import GateGame.Decimal.Double
import GateGame.Register.Basic

namespace GateGame

/-! Amplitudes and registers as text. -/

open Decimal in
/-- A complex number with four digits after the points. The sign of a part is
told by comparison with zero, so a negative zero keeps its own. -/
def Amplitude.text (a : Amplitude Float) : String :=
  let part (x : Float) : String := fixed 4 (.ofBits (if x < 0 then -x else x).toBits)
  (if a.re < 0 then "-" else "") ++ part a.re ++
    (if a.im < 0 then "-" else "+") ++ part a.im ++ "i"

def Register.text {wires : Nat} (register : Register Float wires) : String :=
  "State[" ++ ", ".intercalate (register.amplitudes.toList.map Amplitude.text) ++ "]"

end GateGame
