import Skirmish.Number.Single
import Skirmish.Random.ChaCha

/-!
# Random numbers

The source of random numbers is a seed and the number of words drawn so far. The seed expands to
the key of a stream (`Random.key`), and drawing takes the next word of that stream, so a source
says at once how far it has come and what it will give next.
-/

namespace Skirmish

/-- A source of random numbers. -/
structure Random where
  seed : UInt64
  /-- The number of words drawn so far. -/
  drawn : Nat
deriving DecidableEq, Repr, Inhabited

namespace Random

/-- The source of a seed, before anything is drawn. -/
def ofSeed (seed : UInt64) : Random := ⟨seed, 0⟩

/-- One step of the generator that expands a seed. -/
def expandStep (s : UInt64) : UInt64 := s * 6364136223846793005 + 11634580027462260723

/-- The word that the seed generator shows in a state. -/
def expandWord (s : UInt64) : UInt32 :=
  let x := (((s >>> 18) ^^^ s) >>> 27).toUInt32
  -- The five highest bits say how far the word is turned to the right.
  let turn := (s >>> 59).toUInt32
  (x >>> turn) ||| (x <<< ((32 - turn) % 32))

/-- The state of the seed generator after some steps. -/
def expandState (seed : UInt64) : Nat → UInt64
  | 0 => seed
  | n + 1 => expandStep (expandState seed n)

/-- The key of the stream that a seed selects. -/
def key (seed : UInt64) : Vector UInt32 8 :=
  Vector.ofFn fun i => expandWord (expandState seed (i + 1))

/-- Draw the next word. -/
def next (r : Random) : UInt32 × Random :=
  (word (key r.seed) r.drawn, { r with drawn := r.drawn + 1 })

/-- Draw a number from zero up to but not including one, a multiple of `2 ^ (-24)`. -/
def unit (r : Random) : Number.Single × Random :=
  let (w, r) := r.next
  (.ofFloat ((w >>> 8).toFloat32) * ⟨0x33800000⟩, r)

end Random

end Skirmish
