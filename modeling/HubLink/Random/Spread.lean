import HubLink.Random.ChaCha

/-! # Reproducible spread

A number between minus one and one drawn from a 64-bit seed: the seed is stretched to a ChaCha key
by a linear congruential generator with permuted output, and the first 64 bits of the stream are
scaled to the interval. The same seed always gives the same number. -/

namespace HubLink.Random

/-- One step of the generator that stretches a seed. -/
def stretchStep (state : UInt64) : UInt64 := state * 6364136223846793005 + 11634580027462260723

/-- The word given out at a state of the stretching generator. -/
def stretchWord (state : UInt64) : UInt32 :=
  let x := (((state >>> 18) ^^^ state) >>> 27).toUInt32
  let n := (state >>> 59).toUInt32
  (x >>> n) ||| (x <<< ((32 - n) % 32))

/-- The state after `n` steps. -/
def stretchState (seed : UInt64) : Nat → UInt64
  | 0 => seed
  | n + 1 => stretchStep (stretchState seed n)

/-- The key a seed is stretched to. -/
def keyOfSeed (seed : UInt64) : Vector UInt32 8 :=
  Vector.ofFn fun i => stretchWord (stretchState seed (i.val + 1))

/-- The first 64 bits drawn under a seed. -/
def firstBits (seed : UInt64) : UInt64 :=
  let block := ChaCha.firstBlock (keyOfSeed seed)
  block[0].toUInt64 ||| (block[1].toUInt64 <<< 32)

/-- The distance between a double at one and the next one below two. -/
def step52 : Float := 1.0 / 4503599627370496.0

/-- The number between minus one and one drawn under a seed. -/
def spread (seed : UInt64) : Float :=
  let unit := (firstBits seed >>> 12).toFloat * step52
  unit * (2.0 / (1.0 - step52)) - 1.0

end HubLink.Random
