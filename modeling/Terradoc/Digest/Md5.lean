import Terradoc.Digest.Blocks

namespace Terradoc.Digest.Md5

/-- Constants of the steps: sines of whole numbers. -/
def constants : List UInt32 := [
  0xd76aa478, 0xe8c7b756, 0x242070db, 0xc1bdceee, 0xf57c0faf, 0x4787c62a,
  0xa8304613, 0xfd469501, 0x698098d8, 0x8b44f7af, 0xffff5bb1, 0x895cd7be,
  0x6b901122, 0xfd987193, 0xa679438e, 0x49b40821, 0xf61e2562, 0xc040b340,
  0x265e5a51, 0xe9b6c7aa, 0xd62f105d, 0x02441453, 0xd8a1e681, 0xe7d3fbc8,
  0x21e1cde6, 0xc33707d6, 0xf4d50d87, 0x455a14ed, 0xa9e3e905, 0xfcefa3f8,
  0x676f02d9, 0x8d2a4c8a, 0xfffa3942, 0x8771f681, 0x6d9d6122, 0xfde5380c,
  0xa4beea44, 0x4bdecfa9, 0xf6bb4b60, 0xbebfbc70, 0x289b7ec6, 0xeaa127fa,
  0xd4ef3085, 0x04881d05, 0xd9d4d039, 0xe6db99e5, 0x1fa27cf8, 0xc4ac5665,
  0xf4292244, 0x432aff97, 0xab9423a7, 0xfc93a039, 0x655b59c3, 0x8f0ccc92,
  0xffeff47d, 0x85845dd1, 0x6fa87e4f, 0xfe2ce6e0, 0xa3014314, 0x4e0811a1,
  0xf7537e82, 0xbd3af235, 0x2ad7d2bb, 0xeb86d391]

/-- How far each of the four kinds of step turns, over and over. -/
def turns : List (List UInt32) :=
  [[7, 12, 17, 22], [5, 9, 14, 20], [4, 11, 16, 23], [6, 10, 15, 21]]

def turn (count : UInt32) (word : UInt32) : UInt32 :=
  (word <<< count) ||| (word >>> (32 - count))

/-- Working variables of a block. -/
structure State where
  a : UInt32
  b : UInt32
  c : UInt32
  d : UInt32

/-- The mixing function of a step and the word that it takes. -/
def State.mix (state : State) (step : Nat) : UInt32 × Nat :=
  if step < 16 then ((state.b &&& state.c) ||| ((~~~state.b) &&& state.d), step)
  else if step < 32 then
    ((state.d &&& state.b) ||| ((~~~state.d) &&& state.c), (5 * step + 1) % 16)
  else if step < 48 then (state.b ^^^ state.c ^^^ state.d, (3 * step + 5) % 16)
  else (state.c ^^^ (state.b ||| (~~~state.d)), 7 * step % 16)

def State.step (words : List UInt32) (state : State) (step : Nat) : State :=
  let (mixed, place) := state.mix step
  let sum := mixed + state.a + constants.getD step 0 + words.getD place 0
  ⟨state.d, state.b + turn ((turns.getD (step / 16) []).getD (step % 4) 0) sum, state.b, state.c⟩

def wordsOf (block : List UInt8) : List UInt32 :=
  (pieces 4 16 block).map fun bytes => UInt32.ofNat (ofBigEndian bytes.reverse)

def State.block (state : State) (block : List UInt8) : State :=
  let after := (List.range 64).foldl (State.step (wordsOf block)) state
  ⟨state.a + after.a, state.b + after.b, state.c + after.c, state.d + after.d⟩

def digest (message : List UInt8) : List UInt8 :=
  let whole := padded 64 (littleEndian 8 (message.length * 8)) message
  let state := (blocks 64 whole).foldl State.block ⟨0x67452301, 0xefcdab89, 0x98badcfe, 0x10325476⟩
  [state.a, state.b, state.c, state.d].flatMap fun word => littleEndian 4 word.toNat

end Terradoc.Digest.Md5
