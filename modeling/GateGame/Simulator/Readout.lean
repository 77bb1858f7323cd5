import GateGame.Circuit.Basic
import GateGame.Random.Source

namespace GateGame

/-! From a basis state to the outcome of a shot: measured wires are copied into
the classical bits, in the order of the measurements. -/

namespace Readout

variable {α ρ : Type} [Scalar α] [RandomSource ρ]

/-- Whether a measurement is reported flipped; nothing is drawn when errors
cannot occur. -/
def flips (error : α) : StateM ρ Bool :=
  if 0 < error then do
    let draw : α ← RandomSource.uniform
    pure (decide (draw < error))
  else pure false

def measureInto (error : α) (index : Nat) :
    List Measurement → Array Bool → StateM ρ (Array Bool)
  | [], bits => pure bits
  | measurement :: rest, bits => do
      let flipped ← flips error
      measureInto error index rest
        (bits.setIfInBounds measurement.bit (index.testBit measurement.wire ^^ flipped))

def bitstring (bits : Array Bool) : String :=
  String.ofList (bits.toList.reverse.map fun bit => if bit then '1' else '0')

/-- The outcome of a shot that ended in a basis state. Bits that nothing is
measured into read zero. -/
def read (circuit : Circuit) (error : α) (index : Nat) : StateM ρ String := do
  let bits ← measureInto error index circuit.measurements (Array.replicate circuit.bits false)
  pure (bitstring bits)

end Readout

end GateGame
