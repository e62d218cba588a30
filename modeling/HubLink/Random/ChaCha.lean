/-! # ChaCha key stream

The first block of the ChaCha key stream with twelve rounds: sixteen words made of four constant
ones, the key of eight words, a block counter and a nonce, the last four all zero here. -/

namespace HubLink.Random.ChaCha

/-- The sixteen words the rounds work on. -/
abbrev State := Vector UInt32 16

/-- Rotate a word to the left. -/
def rotateLeft (x n : UInt32) : UInt32 := (x <<< n) ||| (x >>> (32 - n))

/-- Mix four of the words. -/
def quarterRound (a b c d : Fin 16) (s : State) : State :=
  let s := s.set a (s[a] + s[b])
  let s := s.set d (rotateLeft (s[d] ^^^ s[a]) 16)
  let s := s.set c (s[c] + s[d])
  let s := s.set b (rotateLeft (s[b] ^^^ s[c]) 12)
  let s := s.set a (s[a] + s[b])
  let s := s.set d (rotateLeft (s[d] ^^^ s[a]) 8)
  let s := s.set c (s[c] + s[d])
  s.set b (rotateLeft (s[b] ^^^ s[c]) 7)

/-- A round on the columns, then a round on the diagonals. -/
def doubleRound (s : State) : State :=
  let s := quarterRound 0 4 8 12 s
  let s := quarterRound 1 5 9 13 s
  let s := quarterRound 2 6 10 14 s
  let s := quarterRound 3 7 11 15 s
  let s := quarterRound 0 5 10 15 s
  let s := quarterRound 1 6 11 12 s
  let s := quarterRound 2 7 8 13 s
  quarterRound 3 4 9 14 s

/-- The words before the first round: the constants spell `expand 32-byte k`. -/
def initial (key : Vector UInt32 8) : State :=
  #v[0x61707865, 0x3320646e, 0x79622d32, 0x6b206574,
    key[0], key[1], key[2], key[3], key[4], key[5], key[6], key[7], 0, 0, 0, 0]

/-- The first block of the stream of a key, after six double rounds. -/
def firstBlock (key : Vector UInt32 8) : State :=
  let s := initial key
  Vector.zipWith (· + ·) (Nat.repeat doubleRound 6 s) s

end HubLink.Random.ChaCha
