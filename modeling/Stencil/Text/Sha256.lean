import Stencil.Text.Bytes

/-!
# The SHA-256 digest

A text is padded to a whole number of blocks of 64 bytes, and each block stirs the eight
working words. The constants are the first 32 bits of the fractional parts of the square
roots of the first 8 primes and of the cube roots of the first 64.
-/

namespace Stencil.Sha256

/-- The constant of each round. -/
def rounds : List UInt32 :=
  [0x428a2f98, 0x71374491, 0xb5c0fbcf, 0xe9b5dba5, 0x3956c25b, 0x59f111f1, 0x923f82a4, 0xab1c5ed5,
    0xd807aa98, 0x12835b01, 0x243185be, 0x550c7dc3, 0x72be5d74, 0x80deb1fe, 0x9bdc06a7, 0xc19bf174,
    0xe49b69c1, 0xefbe4786, 0x0fc19dc6, 0x240ca1cc, 0x2de92c6f, 0x4a7484aa, 0x5cb0a9dc, 0x76f988da,
    0x983e5152, 0xa831c66d, 0xb00327c8, 0xbf597fc7, 0xc6e00bf3, 0xd5a79147, 0x06ca6351, 0x14292967,
    0x27b70a85, 0x2e1b2138, 0x4d2c6dfc, 0x53380d13, 0x650a7354, 0x766a0abb, 0x81c2c92e, 0x92722c85,
    0xa2bfe8a1, 0xa81a664b, 0xc24b8b70, 0xc76c51a3, 0xd192e819, 0xd6990624, 0xf40e3585, 0x106aa070,
    0x19a4c116, 0x1e376c08, 0x2748774c, 0x34b0bcb5, 0x391c0cb3, 0x4ed8aa4a, 0x5b9cca4f, 0x682e6ff3,
    0x748f82ee, 0x78a5636f, 0x84c87814, 0x8cc70208, 0x90befffa, 0xa4506ceb, 0xbef9a3f7, 0xc67178f2]

/-- A word rotated right. -/
def rotate (x n : UInt32) : UInt32 := (x >>> n) ||| (x <<< (32 - n))

/-- The word of four bytes, the most significant first. -/
def wordOf (a b c d : UInt8) : UInt32 :=
  (a.toUInt32 <<< 24) ||| (b.toUInt32 <<< 16) ||| (c.toUInt32 <<< 8) ||| d.toUInt32

/-- The words of a text. -/
def wordsOf : Bytes → List UInt32
  | a :: b :: c :: d :: r => wordOf a b c d :: wordsOf r
  | _ => []

/-- The bytes of a word, the most significant first. -/
def bytesOf (w : UInt32) : Bytes :=
  [(w >>> 24).toUInt8, (w >>> 16).toUInt8, (w >>> 8).toUInt8, w.toUInt8]

/-- The text and what fills it up: a one bit, zeros, and the length in bits. -/
def padded (s : Bytes) : Bytes :=
  let zeros := (119 - s.length % 64) % 64
  s ++ 0x80 :: List.replicate zeros 0
    ++ ((List.range 8).reverse.map fun i => (8 * s.length / Nat.pow 256 i).toUInt8)

/-- The words of the rounds that follow the given sixteen, latest first. -/
def extend : Nat → List UInt32 → List UInt32
  | 0, w => w
  | n + 1, w =>
    let back (i : Nat) := w.getD (i - 1) 0
    let a := back 15
    let b := back 2
    let s0 := rotate a 7 ^^^ rotate a 18 ^^^ (a >>> 3)
    let s1 := rotate b 17 ^^^ rotate b 19 ^^^ (b >>> 10)
    extend n ((back 16 + s0 + back 7 + s1) :: w)

/-- The eight words that are stirred. -/
structure State where
  /-- The first word. -/
  a : UInt32
  /-- The second word. -/
  b : UInt32
  /-- The third word. -/
  c : UInt32
  /-- The fourth word. -/
  d : UInt32
  /-- The fifth word. -/
  e : UInt32
  /-- The sixth word. -/
  f : UInt32
  /-- The seventh word. -/
  g : UInt32
  /-- The eighth word. -/
  h : UInt32

/-- The working words before the first block. -/
def State.start : State :=
  ⟨0x6a09e667, 0xbb67ae85, 0x3c6ef372, 0xa54ff53a, 0x510e527f, 0x9b05688c, 0x1f83d9ab, 0x5be0cd19⟩

/-- One round with its constant and its word of the block. -/
def round (s : State) (k w : UInt32) : State :=
  let s1 := rotate s.e 6 ^^^ rotate s.e 11 ^^^ rotate s.e 25
  let choice := (s.e &&& s.f) ^^^ ((~~~ s.e) &&& s.g)
  let t1 := s.h + s1 + choice + k + w
  let s0 := rotate s.a 2 ^^^ rotate s.a 13 ^^^ rotate s.a 22
  let majority := (s.a &&& s.b) ^^^ (s.a &&& s.c) ^^^ (s.b &&& s.c)
  ⟨t1 + (s0 + majority), s.a, s.b, s.c, s.d + t1, s.e, s.f, s.g⟩

/-- The working words after a block. -/
def block (s : State) (words : List UInt32) : State :=
  let schedule := (extend 48 words.reverse).reverse
  let t := (rounds.zip schedule).foldl (fun t (k, w) => round t k w) s
  ⟨s.a + t.a, s.b + t.b, s.c + t.c, s.d + t.d, s.e + t.e, s.f + t.f, s.g + t.g, s.h + t.h⟩

/-- The working words after a number of blocks. -/
def blocks : Nat → State → List UInt32 → State
  | 0, s, _ => s
  | n + 1, s, words => blocks n (block s (words.take 16)) (words.drop 16)

/-- **The digest of a text**, 32 bytes. -/
def digest (s : Bytes) : Bytes :=
  let p := padded s
  let t := blocks (p.length / 64) .start (wordsOf p)
  [t.a, t.b, t.c, t.d, t.e, t.f, t.g, t.h].flatMap bytesOf

/-- The digest in base sixteen. -/
def hexDigest (s : Bytes) : Bytes := (digest s).flatMap fun b => Bytes.hex 2 b.toNat

end Stencil.Sha256
