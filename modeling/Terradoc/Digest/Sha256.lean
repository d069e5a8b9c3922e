import Terradoc.Digest.Blocks

namespace Terradoc.Digest.Sha256

/-- Constants of the rounds: fractional parts of the cube roots of the first primes. -/
def constants : List UInt32 := [
  0x428a2f98, 0x71374491, 0xb5c0fbcf, 0xe9b5dba5, 0x3956c25b, 0x59f111f1,
  0x923f82a4, 0xab1c5ed5, 0xd807aa98, 0x12835b01, 0x243185be, 0x550c7dc3,
  0x72be5d74, 0x80deb1fe, 0x9bdc06a7, 0xc19bf174, 0xe49b69c1, 0xefbe4786,
  0x0fc19dc6, 0x240ca1cc, 0x2de92c6f, 0x4a7484aa, 0x5cb0a9dc, 0x76f988da,
  0x983e5152, 0xa831c66d, 0xb00327c8, 0xbf597fc7, 0xc6e00bf3, 0xd5a79147,
  0x06ca6351, 0x14292967, 0x27b70a85, 0x2e1b2138, 0x4d2c6dfc, 0x53380d13,
  0x650a7354, 0x766a0abb, 0x81c2c92e, 0x92722c85, 0xa2bfe8a1, 0xa81a664b,
  0xc24b8b70, 0xc76c51a3, 0xd192e819, 0xd6990624, 0xf40e3585, 0x106aa070,
  0x19a4c116, 0x1e376c08, 0x2748774c, 0x34b0bcb5, 0x391c0cb3, 0x4ed8aa4a,
  0x5b9cca4f, 0x682e6ff3, 0x748f82ee, 0x78a5636f, 0x84c87814, 0x8cc70208,
  0x90befffa, 0xa4506ceb, 0xbef9a3f7, 0xc67178f2]

/-- Start of the state: fractional parts of the square roots of the first primes. -/
def start : List UInt32 := [
  0x6a09e667, 0xbb67ae85, 0x3c6ef372, 0xa54ff53a,
  0x510e527f, 0x9b05688c, 0x1f83d9ab, 0x5be0cd19]

def turn (count : UInt32) (word : UInt32) : UInt32 :=
  (word >>> count) ||| (word <<< (32 - count))

def wordsOf (block : List UInt8) : List UInt32 :=
  (pieces 4 16 block).map fun bytes => UInt32.ofNat (ofBigEndian bytes)

/-- The word that follows sixteen others in the schedule. -/
def nextWord (last : List UInt32) : UInt32 :=
  let a := last.getD 1 0
  let b := last.getD 14 0
  let small := turn 7 a ^^^ turn 18 a ^^^ (a >>> 3)
  let large := turn 17 b ^^^ turn 19 b ^^^ (b >>> 10)
  last.getD 0 0 + small + last.getD 9 0 + large

/-- Working variables of a block. -/
structure State where
  a : UInt32
  b : UInt32
  c : UInt32
  d : UInt32
  e : UInt32
  f : UInt32
  g : UInt32
  h : UInt32

def State.round (state : State) (constant word : UInt32) : State :=
  let large := turn 6 state.e ^^^ turn 11 state.e ^^^ turn 25 state.e
  let choice := (state.e &&& state.f) ^^^ ((~~~state.e) &&& state.g)
  let first := state.h + large + choice + constant + word
  let small := turn 2 state.a ^^^ turn 13 state.a ^^^ turn 22 state.a
  let majority := (state.a &&& state.b) ^^^ (state.a &&& state.c) ^^^ (state.b &&& state.c)
  ⟨first + small + majority, state.a, state.b, state.c, state.d + first, state.e, state.f, state.g⟩

/-- All rounds of a block, with a sliding window of the schedule. -/
def rounds : List UInt32 → List UInt32 → State → State
  | [], _, state => state
  | constant :: rest, window, state =>
    rounds rest (window.drop 1 ++ [nextWord window])
      (state.round constant (window.getD 0 0))

/-- Adds the outcome of a block to the state. -/
def State.add (state after : State) : State :=
  ⟨state.a + after.a, state.b + after.b, state.c + after.c, state.d + after.d,
    state.e + after.e, state.f + after.f, state.g + after.g, state.h + after.h⟩

def State.words (state : State) : List UInt32 :=
  [state.a, state.b, state.c, state.d, state.e, state.f, state.g, state.h]

/-- The state before the first block. -/
def State.initial : State :=
  ⟨start.getD 0 0, start.getD 1 0, start.getD 2 0, start.getD 3 0,
    start.getD 4 0, start.getD 5 0, start.getD 6 0, start.getD 7 0⟩

def digest (message : List UInt8) : List UInt8 :=
  let whole := padded 64 (bigEndian 8 (message.length * 8)) message
  let state := (blocks 64 whole).foldl
    (fun state block => state.add (rounds constants (wordsOf block) state)) State.initial
  state.words.flatMap fun word => bigEndian 4 word.toNat

end Terradoc.Digest.Sha256
