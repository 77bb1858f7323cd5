import GateGame.Random.Source

namespace GateGame

/-! A source that repeats a list of words for ever. -/

/-- The words, and how many have been drawn. A source without words draws
zeros. -/
structure Replay where
  words : List UInt64
  drawn : Nat

namespace Replay

def ofWords (words : List UInt64) : Replay :=
  ⟨words, 0⟩

def next (source : Replay) : UInt64 × Replay :=
  (source.words[source.drawn % source.words.length]?.getD 0,
    { source with drawn := source.drawn + 1 })

instance : RandomSource Replay where
  word := next
  halfWord := do
    let w : UInt64 ← next
    pure w.toUInt32

end Replay

end GateGame
