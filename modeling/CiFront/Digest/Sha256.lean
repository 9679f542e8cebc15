import CiFront.Text.Hex
/-!
# SHA-256

A message is padded to whole blocks of sixteen words. Each block is stretched to a schedule of sixty-four
words, and the eight words of the state go through one round per word of the schedule.
-/

namespace CiFront.Sha256

/-- The eight words of the state between blocks. -/
structure State where
  a : UInt32
  b : UInt32
  c : UInt32
  d : UInt32
  e : UInt32
  f : UInt32
  g : UInt32
  h : UInt32

/-- The state before the first block: the square roots of the first eight primes, of which the first
thirty-two bits behind the point. -/
def initial : State where
  a := 0x6a09e667
  b := 0xbb67ae85
  c := 0x3c6ef372
  d := 0xa54ff53a
  e := 0x510e527f
  f := 0x9b05688c
  g := 0x1f83d9ab
  h := 0x5be0cd19

/-- The constants of the rounds: the cube roots of the first sixty-four primes, of which the first
thirty-two bits behind the point. -/
def roundConstants : List UInt32 :=
  [0x428a2f98, 0x71374491, 0xb5c0fbcf, 0xe9b5dba5, 0x3956c25b, 0x59f111f1, 0x923f82a4, 0xab1c5ed5,
   0xd807aa98, 0x12835b01, 0x243185be, 0x550c7dc3, 0x72be5d74, 0x80deb1fe, 0x9bdc06a7, 0xc19bf174,
   0xe49b69c1, 0xefbe4786, 0x0fc19dc6, 0x240ca1cc, 0x2de92c6f, 0x4a7484aa, 0x5cb0a9dc, 0x76f988da,
   0x983e5152, 0xa831c66d, 0xb00327c8, 0xbf597fc7, 0xc6e00bf3, 0xd5a79147, 0x06ca6351, 0x14292967,
   0x27b70a85, 0x2e1b2138, 0x4d2c6dfc, 0x53380d13, 0x650a7354, 0x766a0abb, 0x81c2c92e, 0x92722c85,
   0xa2bfe8a1, 0xa81a664b, 0xc24b8b70, 0xc76c51a3, 0xd192e819, 0xd6990624, 0xf40e3585, 0x106aa070,
   0x19a4c116, 0x1e376c08, 0x2748774c, 0x34b0bcb5, 0x391c0cb3, 0x4ed8aa4a, 0x5b9cca4f, 0x682e6ff3,
   0x748f82ee, 0x78a5636f, 0x84c87814, 0x8cc70208, 0x90befffa, 0xa4506ceb, 0xbef9a3f7, 0xc67178f2]

/-! ### Words -/

/-- A word turned to the right. -/
def turn (x n : UInt32) : UInt32 :=
  (x >>> n) ||| (x <<< (32 - n))

/-- The word of four bytes, the most significant one first. -/
def word (a b c d : UInt8) : UInt32 :=
  (a.toUInt32 <<< 24) ||| (b.toUInt32 <<< 16) ||| (c.toUInt32 <<< 8) ||| d.toUInt32

/-- The words of a run of bytes. -/
def words : List UInt8 → List UInt32
  | a :: b :: c :: d :: rest => word a b c d :: words rest
  | _ => []

/-- The bytes of a message's length in bits, the most significant one first. -/
def lengthBytes (size : Nat) : List UInt8 :=
  (List.range 8).map fun i => UInt8.ofNat ((8 * size) >>> (8 * (7 - i)))

/-- A message with a set bit, zeros and its length behind it, so that it fills whole blocks. -/
def pad (message : List UInt8) : List UInt8 :=
  let size := message.length
  message ++ 0x80 :: List.replicate ((119 - size % 64) % 64) 0 ++ lengthBytes size

/-! ### Rounds -/

/-- The word of the schedule at a position, by the words before it. -/
def nextWord (schedule : Array UInt32) (i : Nat) : UInt32 :=
  let w (back : Nat) := schedule.getD (i - back) 0
  let mix15 := turn (w 15) 7 ^^^ turn (w 15) 18 ^^^ (w 15 >>> 3)
  let mix2 := turn (w 2) 17 ^^^ turn (w 2) 19 ^^^ (w 2 >>> 10)
  w 16 + mix15 + w 7 + mix2

/-- The schedule of a block. -/
def schedule (block : List UInt32) : List UInt32 :=
  ((List.range 48).foldl (fun words i => words.push (nextWord words (16 + i))) block.toArray).toList

/-- One round, with a constant and a word of the schedule. -/
def round (s : State) (constant w : UInt32) : State :=
  let mixE := turn s.e 6 ^^^ turn s.e 11 ^^^ turn s.e 25
  let choice := (s.e &&& s.f) ^^^ (~~~s.e &&& s.g)
  let fresh := s.h + mixE + choice + constant + w
  let mixA := turn s.a 2 ^^^ turn s.a 13 ^^^ turn s.a 22
  let majority := (s.a &&& s.b) ^^^ (s.a &&& s.c) ^^^ (s.b &&& s.c)
  ⟨fresh + mixA + majority, s.a, s.b, s.c, s.d + fresh, s.e, s.f, s.g⟩

/-- Takes in one block. -/
def compress (s : State) (block : List UInt32) : State :=
  let t := (roundConstants.zip (schedule block)).foldl (fun t (constant, w) => round t constant w) s
  ⟨s.a + t.a, s.b + t.b, s.c + t.c, s.d + t.d, s.e + t.e, s.f + t.f, s.g + t.g, s.h + t.h⟩

/-- Takes in a number of blocks. -/
def absorb : (blocks : Nat) → State → List UInt32 → State
  | 0, s, _ => s
  | blocks + 1, s, ws => absorb blocks (compress s (ws.take 16)) (ws.drop 16)

/-- The words of a message's digest. -/
def digest (message : List UInt8) : List UInt32 :=
  let ws := words (pad message)
  let s := absorb (ws.length / 16) initial ws
  [s.a, s.b, s.c, s.d, s.e, s.f, s.g, s.h]

/-- The hexadecimal digits of a message's digest. -/
def hex (message : List UInt8) : List Char :=
  (digest message).flatMap fun w => Text.Hex.padded 8 w.toNat

end CiFront.Sha256
