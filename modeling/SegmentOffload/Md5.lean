import SegmentOffload.Bytes

/-!
The MD5 digest.

The message is closed by a one bit, zeros and its bit length (least significant byte first), cut
into blocks of sixteen 32-bit words, and each block is mixed into four words of state by sixty-four
steps.
-/

namespace SegmentOffload.Md5

structure State where
  a : UInt32
  b : UInt32
  c : UInt32
  d : UInt32

def State.initial : State :=
  ⟨0x67452301, 0xefcdab89, 0x98badcfe, 0x10325476⟩

/-- The constant of each step: the fractional part of the absolute sine of 1, 2, …, 64. -/
def sines : Array UInt32 := #[
  0xd76aa478, 0xe8c7b756, 0x242070db, 0xc1bdceee, 0xf57c0faf, 0x4787c62a,
  0xa8304613, 0xfd469501, 0x698098d8, 0x8b44f7af, 0xffff5bb1, 0x895cd7be,
  0x6b901122, 0xfd987193, 0xa679438e, 0x49b40821, 0xf61e2562, 0xc040b340,
  0x265e5a51, 0xe9b6c7aa, 0xd62f105d, 0x02441453, 0xd8a1e681, 0xe7d3fbc8,
  0x21e1cde6, 0xc33707d6, 0xf4d50d87, 0x455a14ed, 0xa9e3e905, 0xfcefa3f8,
  0x676f02d9, 0x8d2a4c8a, 0xfffa3942, 0x8771f681, 0x6d9d6122, 0xfde5380c,
  0xa4beea44, 0x4bdecfa9, 0xf6bb4b60, 0xbebfbc70, 0x289b7ec6, 0xeaa127fa,
  0xd4ef3085, 0x04881d05, 0xd9d4d039, 0xe6db99e5, 0x1fa27cf8, 0xc4ac5665,
  0xf4292244, 0x432aff97, 0xab9423a7, 0xfc93a039, 0x655b59c3, 0x8f0ccc92,
  0xffeff47d, 0x85845dd1, 0x6fa87e4f, 0xfe2ce6e0, 0xa3014314, 0x4e0811a1,
  0xf7537e82, 0xbd3af235, 0x2ad7d2bb, 0xeb86d391]

/-- How far each step rotates, by round and by step within a group of four. -/
def rotations : Array UInt32 := #[7, 12, 17, 22, 5, 9, 14, 20, 4, 11, 16, 23, 6, 10, 15, 21]

def rotateLeft (word amount : UInt32) : UInt32 :=
  (word <<< amount) ||| (word >>> (32 - amount))

def mix (step : Nat) (state : State) : UInt32 :=
  match step / 16 with
  | 0 => (state.b &&& state.c) ||| (~~~state.b &&& state.d)
  | 1 => (state.d &&& state.b) ||| (~~~state.d &&& state.c)
  | 2 => state.b ^^^ state.c ^^^ state.d
  | _ => state.c ^^^ (state.b ||| ~~~state.d)

def wordIndex (step : Nat) : Nat :=
  match step / 16 with
  | 0 => step
  | 1 => (5 * step + 1) % 16
  | 2 => (3 * step + 5) % 16
  | _ => (7 * step) % 16

def applyStep (block : Array UInt32) (state : State) (step : Nat) : State :=
  let sum := mix step state + state.a + sines.getD step 0 + block.getD (wordIndex step) 0
  { a := state.d
    b := state.b + rotateLeft sum (rotations.getD (step / 16 * 4 + step % 4) 0)
    c := state.b
    d := state.c }

def absorb (state : State) (block : Array UInt32) : State :=
  let mixed := (List.range 64).foldl (applyStep block) state
  ⟨state.a + mixed.a, state.b + mixed.b, state.c + mixed.c, state.d + mixed.d⟩

def littleEndian (width number : Nat) : Bytes :=
  (bigEndian width number).reverse

/-- A message closed to a whole number of 64-byte blocks. -/
def pad (message : Bytes) : Bytes :=
  let zeros := (119 - message.length % 64) % 64
  message ++ 0x80 :: List.replicate zeros 0 ++ littleEndian 8 (message.length * 8)

/-- Bytes taken four at a time as words, least significant byte first. -/
def words : Bytes → List UInt32
  | a :: b :: c :: d :: rest => .ofNat (bigEndianValue [d, c, b, a]) :: words rest
  | _ => []

def absorbAll (state : State) (input : List UInt32) : State :=
  if input.length < 16 then state
  else absorbAll (absorb state (input.take 16).toArray) (input.drop 16)
termination_by input.length
decreasing_by
  rw [List.length_drop]
  omega

def digest (message : Bytes) : Bytes :=
  let state := absorbAll .initial (words (pad message))
  [state.a, state.b, state.c, state.d].flatMap fun word => littleEndian 4 word.toNat

end SegmentOffload.Md5
