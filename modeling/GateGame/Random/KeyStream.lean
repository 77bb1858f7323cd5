import GateGame.Random.Source

namespace GateGame

/-! The key stream of the ChaCha cipher with twelve rounds as a source: a key
grown from a seed, a block counter of 64 bits that starts at zero, and no nonce.
Words of 32 bits are taken in order, and a word of 64 bits is two of them, the
lower half first. -/

namespace ChaCha

abbrev Matrix := Vector UInt32 16

def rotateLeft (x : UInt32) (count : UInt32) : UInt32 :=
  (x <<< count) ||| (x >>> (32 - count))

def quarterRound (m : Matrix) (a b c d : Fin 16) : Matrix :=
  let m := m.set a (m[a] + m[b])
  let m := m.set d (rotateLeft (m[d] ^^^ m[a]) 16)
  let m := m.set c (m[c] + m[d])
  let m := m.set b (rotateLeft (m[b] ^^^ m[c]) 12)
  let m := m.set a (m[a] + m[b])
  let m := m.set d (rotateLeft (m[d] ^^^ m[a]) 8)
  let m := m.set c (m[c] + m[d])
  m.set b (rotateLeft (m[b] ^^^ m[c]) 7)

def doubleRound (m : Matrix) : Matrix :=
  let m := quarterRound m 0 4 8 12
  let m := quarterRound m 1 5 9 13
  let m := quarterRound m 2 6 10 14
  let m := quarterRound m 3 7 11 15
  let m := quarterRound m 0 5 10 15
  let m := quarterRound m 1 6 11 12
  let m := quarterRound m 2 7 8 13
  quarterRound m 3 4 9 14

def start (key : Vector UInt32 8) (counter : UInt64) : Matrix :=
  #v[0x61707865, 0x3320646e, 0x79622d32, 0x6b206574,
    key[0], key[1], key[2], key[3], key[4], key[5], key[6], key[7],
    counter.toUInt32, (counter >>> 32).toUInt32, 0, 0]

def block (key : Vector UInt32 8) (counter : UInt64) : Matrix :=
  let m := start key counter
  (Nat.repeat doubleRound 6 m).zipWith (· + ·) m

end ChaCha

/-- A place in a key stream: the key, the number of the next block, and the words
of the current block that are still to be taken. -/
structure KeyStream where
  key : Vector UInt32 8
  counter : UInt64
  pending : List UInt32

namespace KeyStream

def stepSeed (state : UInt64) : UInt64 :=
  state * 0x5851F42D4C957F2D + 0xA17654E46FBE17F3

/-- The word that a state of that generator gives: its upper bits folded and
then turned right by the uppermost five. -/
def seedWord (state : UInt64) : UInt32 :=
  let folded := (((state >>> 18) ^^^ state) >>> 27).toUInt32
  let turn := (state >>> 59).toUInt32
  (folded >>> turn) ||| (folded <<< (32 - turn))

def ofSeed (seed : UInt64) : KeyStream where
  key := Vector.ofFn fun i => seedWord (Nat.repeat stepSeed (i + 1) seed)
  counter := 0
  pending := []

def next (stream : KeyStream) : UInt32 × KeyStream :=
  match stream.pending with
  | word :: rest => (word, { stream with pending := rest })
  | [] =>
      let block := ChaCha.block stream.key stream.counter
      (block[0],
        { stream with counter := stream.counter + 1, pending := block.toList.tail })

instance : RandomSource KeyStream where
  word := do
    let low : UInt32 ← next
    let high : UInt32 ← next
    pure (low.toUInt64 ||| (high.toUInt64 <<< 32))
  halfWord := next

end KeyStream

end GateGame
