import ParserSplice.Text.Chunk
import ParserSplice.Text.Hex

set_option autoImplicit false

namespace ParserSplice.Digest

/-- The chaining value between blocks, and the working words within one. -/
structure Chain where
  a : UInt32
  b : UInt32
  c : UInt32
  d : UInt32
  e : UInt32
  f : UInt32
  g : UInt32
  h : UInt32
deriving DecidableEq

/-- The first 32 bits of the fractional parts of the square roots of the first eight primes. -/
def initial : Chain :=
  ⟨0x6a09e667, 0xbb67ae85, 0x3c6ef372, 0xa54ff53a, 0x510e527f, 0x9b05688c, 0x1f83d9ab, 0x5be0cd19⟩

/-- The first 32 bits of the fractional parts of the cube roots of the first 64 primes. -/
def roundConstants : List UInt32 :=
  [0x428a2f98, 0x71374491, 0xb5c0fbcf, 0xe9b5dba5, 0x3956c25b, 0x59f111f1, 0x923f82a4, 0xab1c5ed5,
   0xd807aa98, 0x12835b01, 0x243185be, 0x550c7dc3, 0x72be5d74, 0x80deb1fe, 0x9bdc06a7, 0xc19bf174,
   0xe49b69c1, 0xefbe4786, 0x0fc19dc6, 0x240ca1cc, 0x2de92c6f, 0x4a7484aa, 0x5cb0a9dc, 0x76f988da,
   0x983e5152, 0xa831c66d, 0xb00327c8, 0xbf597fc7, 0xc6e00bf3, 0xd5a79147, 0x06ca6351, 0x14292967,
   0x27b70a85, 0x2e1b2138, 0x4d2c6dfc, 0x53380d13, 0x650a7354, 0x766a0abb, 0x81c2c92e, 0x92722c85,
   0xa2bfe8a1, 0xa81a664b, 0xc24b8b70, 0xc76c51a3, 0xd192e819, 0xd6990624, 0xf40e3585, 0x106aa070,
   0x19a4c116, 0x1e376c08, 0x2748774c, 0x34b0bcb5, 0x391c0cb3, 0x4ed8aa4a, 0x5b9cca4f, 0x682e6ff3,
   0x748f82ee, 0x78a5636f, 0x84c87814, 0x8cc70208, 0x90befffa, 0xa4506ceb, 0xbef9a3f7, 0xc67178f2]

/-- A word rotated to the right by fewer than 32 places. -/
def rotate (x n : UInt32) : UInt32 := (x >>> n) ||| (x <<< (32 - n))

/-- The word that follows a window of sixteen words in the message schedule. -/
def scheduled (window : List UInt32) : UInt32 :=
  let x := window[1]?.getD 0
  let y := window[14]?.getD 0
  window.headD 0 + (rotate x 7 ^^^ rotate x 18 ^^^ (x >>> 3)) + window[9]?.getD 0 +
    (rotate y 17 ^^^ rotate y 19 ^^^ (y >>> 10))

def round (s : Chain) (constant word : UInt32) : Chain :=
  let first := s.h + (rotate s.e 6 ^^^ rotate s.e 11 ^^^ rotate s.e 25) +
    ((s.e &&& s.f) ^^^ ((~~~ s.e) &&& s.g)) + constant + word
  let second := (rotate s.a 2 ^^^ rotate s.a 13 ^^^ rotate s.a 22) +
    ((s.a &&& s.b) ^^^ (s.a &&& s.c) ^^^ (s.b &&& s.c))
  ⟨first + second, s.a, s.b, s.c, s.d + first, s.e, s.f, s.g⟩

/-- The rounds for some constants. The window holds the next sixteen words of the schedule. -/
def rounds (s : Chain) (window : List UInt32) : List UInt32 → Chain
  | [] => s
  | constant :: rest =>
    rounds (round s constant (window.headD 0)) (window.tail ++ [scheduled window]) rest

/-- Mixes the sixteen words of a block into the chaining value. -/
def compress (s : Chain) (block : List UInt32) : Chain :=
  let t := rounds s block roundConstants
  ⟨s.a + t.a, s.b + t.b, s.c + t.c, s.d + t.d, s.e + t.e, s.f + t.f, s.g + t.g, s.h + t.h⟩

/-- The word that bytes form, the first byte on top. -/
def word (bytes : List UInt8) : UInt32 :=
  bytes.foldl (fun total b => (total <<< 8) ||| b.toUInt32) 0

/-- The lowest `count` bytes of a number, the lowest byte last. -/
def lowBytes (count value : Nat) : List UInt8 :=
  (List.range count).reverse.map (fun i => UInt8.ofNat (value >>> (8 * i)))

/-- A message with a one bit, zeros and its length in bits, which fill the last block. -/
def padded (message : List UInt8) : List UInt8 :=
  message ++ 128 :: (List.replicate ((119 - message.length % 64) % 64) 0 ++
    lowBytes 8 (8 * message.length))

theorem length_padded (message : List UInt8) : (padded message).length % 64 = 0 := by
  simp [padded, lowBytes]
  omega

def Chain.words (s : Chain) : List UInt32 := [s.a, s.b, s.c, s.d, s.e, s.f, s.g, s.h]

/-- The 32 bytes of the digest of a message. -/
def ofBytes (message : List UInt8) : List UInt8 :=
  let blocks := (chunks 64 (padded message)).map (fun block => (chunks 4 block).map word)
  (blocks.foldl compress initial).words.flatMap (fun w => lowBytes 4 w.toNat)

theorem length_ofBytes (message : List UInt8) : (ofBytes message).length = 32 := by
  simp [ofBytes, Chain.words, lowBytes]

/-- The digest of a message as 64 lower-case hexadecimal digits. -/
def text (message : List UInt8) : String := Hex.ofBytes (ofBytes message)

end ParserSplice.Digest
