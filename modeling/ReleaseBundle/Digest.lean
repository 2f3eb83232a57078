/-!
# SHA-256

The digest by which a bundle is known: SHA-256 of its bytes, in lower-case
hexadecimal.  A message is padded to whole blocks of sixteen words, each block
is spread to sixty-four words, and each of these turns the eight words of the
state once.
-/

namespace ReleaseBundle.Digest

/-- The first thirty-two bits of the fractional parts of the square roots of the
first eight primes: the state before the first block. -/
def initialWords : List UInt32 :=
  [0x6a09e667, 0xbb67ae85, 0x3c6ef372, 0xa54ff53a, 0x510e527f, 0x9b05688c, 0x1f83d9ab, 0x5be0cd19]

/-- The first thirty-two bits of the fractional parts of the cube roots of the
first sixty-four primes, one for each turn. -/
def roundConstants : List UInt32 :=
  [0x428a2f98, 0x71374491, 0xb5c0fbcf, 0xe9b5dba5, 0x3956c25b, 0x59f111f1,
   0x923f82a4, 0xab1c5ed5, 0xd807aa98, 0x12835b01, 0x243185be, 0x550c7dc3,
   0x72be5d74, 0x80deb1fe, 0x9bdc06a7, 0xc19bf174, 0xe49b69c1, 0xefbe4786,
   0x0fc19dc6, 0x240ca1cc, 0x2de92c6f, 0x4a7484aa, 0x5cb0a9dc, 0x76f988da,
   0x983e5152, 0xa831c66d, 0xb00327c8, 0xbf597fc7, 0xc6e00bf3, 0xd5a79147,
   0x06ca6351, 0x14292967, 0x27b70a85, 0x2e1b2138, 0x4d2c6dfc, 0x53380d13,
   0x650a7354, 0x766a0abb, 0x81c2c92e, 0x92722c85, 0xa2bfe8a1, 0xa81a664b,
   0xc24b8b70, 0xc76c51a3, 0xd192e819, 0xd6990624, 0xf40e3585, 0x106aa070,
   0x19a4c116, 0x1e376c08, 0x2748774c, 0x34b0bcb5, 0x391c0cb3, 0x4ed8aa4a,
   0x5b9cca4f, 0x682e6ff3, 0x748f82ee, 0x78a5636f, 0x84c87814, 0x8cc70208,
   0x90befffa, 0xa4506ceb, 0xbef9a3f7, 0xc67178f2]

/-- A word turned to the right by `n` places. -/
def rotate (w : UInt32) (n : UInt32) : UInt32 := (w >>> n) ||| (w <<< (32 - n))

/-- The word made of up to four bytes, the first the highest. -/
def word (bytes : List UInt8) : UInt32 := bytes.foldl (fun w b => (w <<< 8) ||| b.toUInt32) 0

/-- The words of a list of bytes, four bytes each; `count` bounds their number. -/
def words : Nat → List UInt8 → List UInt32
  | 0, _ => []
  | count + 1, bytes => word (bytes.take 4) :: words count (bytes.drop 4)

/-- A number as eight bytes, the highest first. -/
def lengthBytes (n : Nat) : List UInt8 :=
  [56, 48, 40, 32, 24, 16, 8, 0].map fun shift => UInt8.ofNat (n >>> shift)

/-- A message with a one bit, zeros up to eight bytes before the end of a block,
and its length in bits. -/
def padded (message : List UInt8) : List UInt8 :=
  let zeros := (119 - message.length % 64) % 64
  message ++ 0x80 :: List.replicate zeros 0 ++ lengthBytes (8 * message.length)

/-- The words of a block and `count` more, each made from the sixteen before
it. -/
def spread : Nat → List UInt32 → List UInt32
  | 0, window => window
  | count + 1, window =>
    match window with
    | [] => []
    | first :: rest =>
      let second := rest.getD 0 0
      let tenth := rest.getD 8 0
      let fifteenth := rest.getD 13 0
      let low := rotate second 7 ^^^ rotate second 18 ^^^ (second >>> 3)
      let high := rotate fifteenth 17 ^^^ rotate fifteenth 19 ^^^ (fifteenth >>> 10)
      first :: spread count (rest ++ [first + low + tenth + high])

/-- The eight words that a block turns. -/
structure State where
  a : UInt32
  b : UInt32
  c : UInt32
  d : UInt32
  e : UInt32
  f : UInt32
  g : UInt32
  h : UInt32

namespace State

/-- The state of eight words. -/
def ofWords : List UInt32 → State
  | [a, b, c, d, e, f, g, h] => ⟨a, b, c, d, e, f, g, h⟩
  | _ => ⟨0, 0, 0, 0, 0, 0, 0, 0⟩

/-- The words of a state. -/
def toWords (s : State) : List UInt32 := [s.a, s.b, s.c, s.d, s.e, s.f, s.g, s.h]

/-- One turn, by a word of the message and the constant of the turn. -/
def turn (s : State) (step : UInt32 × UInt32) : State :=
  let high := rotate s.e 6 ^^^ rotate s.e 11 ^^^ rotate s.e 25
  let choice := (s.e &&& s.f) ^^^ (~~~s.e &&& s.g)
  let first := s.h + high + choice + step.1 + step.2
  let low := rotate s.a 2 ^^^ rotate s.a 13 ^^^ rotate s.a 22
  let majority := (s.a &&& s.b) ^^^ (s.a &&& s.c) ^^^ (s.b &&& s.c)
  ⟨first + low + majority, s.a, s.b, s.c, s.d + first, s.e, s.f, s.g⟩

/-- The state after a block of sixteen words. -/
def absorb (s : State) (block : List UInt32) : State :=
  let turned := ((spread 48 block).zip roundConstants).foldl turn s
  ofWords (List.zipWith (· + ·) s.toWords turned.toWords)

/-- The state after `count` blocks of sixty-four bytes. -/
def absorbAll : Nat → State → List UInt8 → State
  | 0, s, _ => s
  | count + 1, s, bytes => absorbAll count (s.absorb (words 16 (bytes.take 64))) (bytes.drop 64)

end State

/-- The thirty-two bytes of the digest, as eight words. -/
def digestWords (message : List UInt8) : List UInt32 :=
  let bytes := padded message
  (State.absorbAll (bytes.length / 64) (State.ofWords initialWords) bytes).toWords

/-- A word as eight hexadecimal digits. -/
def hexWord (w : UInt32) : List Char :=
  [28, 24, 20, 16, 12, 8, 4, 0].map fun shift => Nat.digitChar ((w.toNat >>> shift) % 16)

/-- The SHA-256 digest of bytes, in lower-case hexadecimal. -/
def sha256 (bytes : ByteArray) : String :=
  String.ofList ((digestWords bytes.toList).flatMap hexWord)

end ReleaseBundle.Digest
