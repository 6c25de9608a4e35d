/-!
# The ChaCha stream with eight rounds

A stream is determined by a key of eight words. It is produced in blocks of sixteen words: the
state of a block is four constants, the key, the number of the block as two words and two zero
words; four double rounds stir a copy of it, and the copy and the state are added word by word.
Words are taken from the blocks in order.
-/

namespace Skirmish.Random

/-- The sixteen words of a block. -/
abbrev Block := Vector UInt32 16

/-- A word turned to the left by some bits. -/
def rotateLeft (x : UInt32) (bits : UInt32) : UInt32 := (x <<< bits) ||| (x >>> (32 - bits))

/-- Stir four words of a block. -/
def quarterRound (a b c d : Fin 16) (s : Block) : Block :=
  let s := s.set a (s[a] + s[b])
  let s := s.set d (rotateLeft (s[d] ^^^ s[a]) 16)
  let s := s.set c (s[c] + s[d])
  let s := s.set b (rotateLeft (s[b] ^^^ s[c]) 12)
  let s := s.set a (s[a] + s[b])
  let s := s.set d (rotateLeft (s[d] ^^^ s[a]) 8)
  let s := s.set c (s[c] + s[d])
  s.set b (rotateLeft (s[b] ^^^ s[c]) 7)

/-- Stir the four columns of a block and then its four diagonals. -/
def doubleRound (s : Block) : Block :=
  let s := quarterRound 0 4 8 12 s
  let s := quarterRound 1 5 9 13 s
  let s := quarterRound 2 6 10 14 s
  let s := quarterRound 3 7 11 15 s
  -- From here on the diagonals.
  let s := quarterRound 0 5 10 15 s
  let s := quarterRound 1 6 11 12 s
  let s := quarterRound 2 7 8 13 s
  quarterRound 3 4 9 14 s

/-- The state from which a block is made. -/
def initialBlock (key : Vector UInt32 8) (counter : UInt64) : Block :=
  #v[0x61707865, 0x3320646e, 0x79622d32, 0x6b206574,
    key[0], key[1], key[2], key[3], key[4], key[5], key[6], key[7],
    counter.toUInt32, (counter >>> 32).toUInt32, 0, 0]

/-- The words of one block of the stream. -/
def block (key : Vector UInt32 8) (counter : UInt64) : Block :=
  let start := initialBlock key counter
  let stirred := doubleRound (doubleRound (doubleRound (doubleRound start)))
  Vector.zipWith (· + ·) stirred start

/-- The word of the stream at a position. -/
def word (key : Vector UInt32 8) (position : Nat) : UInt32 :=
  (block key (UInt64.ofNat (position / 16))).get ⟨position % 16, Nat.mod_lt _ (by decide)⟩

end Skirmish.Random
