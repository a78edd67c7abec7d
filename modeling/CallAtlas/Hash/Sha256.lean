import CallAtlas.Text.Hex

/-!
# SHA-256

The hash of FIPS 180-4 on octets: `digest` has the 32 octets, `hexDigest` writes them in lower case
hexadecimal.
-/

namespace CallAtlas.Hash.Sha256

/-- The eight working words. -/
structure Words where
  a : UInt32
  b : UInt32
  c : UInt32
  d : UInt32
  e : UInt32
  f : UInt32
  g : UInt32
  h : UInt32

/-- The first 32 bits of the fractional parts of the square roots of the first eight primes. -/
def Words.initial : Words :=
  ⟨0x6A09E667, 0xBB67AE85, 0x3C6EF372, 0xA54FF53A,
   0x510E527F, 0x9B05688C, 0x1F83D9AB, 0x5BE0CD19⟩

/-- The first 32 bits of the fractional parts of the cube roots of the first 64 primes. -/
def roundConstants : List UInt32 :=
  [0x428A2F98, 0x71374491, 0xB5C0FBCF, 0xE9B5DBA5, 0x3956C25B, 0x59F111F1, 0x923F82A4, 0xAB1C5ED5,
   0xD807AA98, 0x12835B01, 0x243185BE, 0x550C7DC3, 0x72BE5D74, 0x80DEB1FE, 0x9BDC06A7, 0xC19BF174,
   0xE49B69C1, 0xEFBE4786, 0x0FC19DC6, 0x240CA1CC, 0x2DE92C6F, 0x4A7484AA, 0x5CB0A9DC, 0x76F988DA,
   0x983E5152, 0xA831C66D, 0xB00327C8, 0xBF597FC7, 0xC6E00BF3, 0xD5A79147, 0x06CA6351, 0x14292967,
   0x27B70A85, 0x2E1B2138, 0x4D2C6DFC, 0x53380D13, 0x650A7354, 0x766A0ABB, 0x81C2C92E, 0x92722C85,
   0xA2BFE8A1, 0xA81A664B, 0xC24B8B70, 0xC76C51A3, 0xD192E819, 0xD6990624, 0xF40E3585, 0x106AA070,
   0x19A4C116, 0x1E376C08, 0x2748774C, 0x34B0BCB5, 0x391C0CB3, 0x4ED8AA4A, 0x5B9CCA4F, 0x682E6FF3,
   0x748F82EE, 0x78A5636F, 0x84C87814, 0x8CC70208, 0x90BEFFFA, 0xA4506CEB, 0xBEF9A3F7, 0xC67178F2]

/-- The word, rotated to the right. -/
def rotate (x : UInt32) (n : UInt32) : UInt32 :=
  (x >>> n) ||| (x <<< (32 - n))

/-- The sum of two words of one block. -/
def Words.add (x y : Words) : Words :=
  ⟨x.a + y.a, x.b + y.b, x.c + y.c, x.d + y.d, x.e + y.e, x.f + y.f, x.g + y.g, x.h + y.h⟩

/-- One round, with its constant and its word of the schedule. -/
def Words.round (s : Words) (k w : UInt32) : Words :=
  let sum1 := rotate s.e 6 ^^^ rotate s.e 11 ^^^ rotate s.e 25
  let choice := (s.e &&& s.f) ^^^ (~~~ s.e &&& s.g)
  let first := s.h + sum1 + choice + k + w
  let sum0 := rotate s.a 2 ^^^ rotate s.a 13 ^^^ rotate s.a 22
  let majority := (s.a &&& s.b) ^^^ (s.a &&& s.c) ^^^ (s.b &&& s.c)
  ⟨first + (sum0 + majority), s.a, s.b, s.c, s.d + first, s.e, s.f, s.g⟩

/-- The big-endian words of the octets, four to a word. -/
def bigEndian : List UInt8 → List UInt32
  | x :: y :: z :: t :: rest =>
    ((x.toUInt32 <<< 24) ||| (y.toUInt32 <<< 16) ||| (z.toUInt32 <<< 8) ||| t.toUInt32) ::
      bigEndian rest
  | _ => []

/-- The schedule's next word, from the sixteen before it in `w`. -/
def nextWord (w : Array UInt32) : UInt32 :=
  let at' (n : Nat) : UInt32 := w.getD (w.size - n) 0
  let early := at' 15
  let late := at' 2
  at' 16 + (rotate early 7 ^^^ rotate early 18 ^^^ (early >>> 3)) + at' 7 +
    (rotate late 17 ^^^ rotate late 19 ^^^ (late >>> 10))

/-- The 64 words that a block of 16 words is spread over. -/
def schedule (block : List UInt32) : List UInt32 :=
  ((List.range 48).foldl (fun w _ => w.push (nextWord w)) block.toArray).toList

/-- The words after a block of 64 octets. -/
def Words.compress (s : Words) (block : List UInt8) : Words :=
  s.add ((roundConstants.zip (schedule (bigEndian block))).foldl (fun t kw => t.round kw.1 kw.2) s)

/-- The eight octets of a length in bits. -/
def lengthOctets (bits : Nat) : List UInt8 :=
  [56, 48, 40, 32, 24, 16, 8, 0].map fun shift => UInt8.ofNat (bits >>> shift)

/-- The message with its end mark, zeros up to a multiple of 64 octets, and its length. -/
def padded (message : List UInt8) : List UInt8 :=
  message ++ 0x80 :: List.replicate ((119 - message.length % 64) % 64) 0 ++
    lengthOctets (8 * message.length)

/-- The octets in `count` blocks of 64. -/
def blocks (count : Nat) (octets : List UInt8) : List (List UInt8) :=
  match count with
  | 0 => []
  | n + 1 => octets.take 64 :: blocks n (octets.drop 64)

/-- The four octets of a word. -/
def wordOctets (w : UInt32) : List UInt8 :=
  [(w >>> 24).toUInt8, (w >>> 16).toUInt8, (w >>> 8).toUInt8, w.toUInt8]

/-- The 32 octets of the words. -/
def Words.octets (s : Words) : List UInt8 :=
  [s.a, s.b, s.c, s.d, s.e, s.f, s.g, s.h].flatMap wordOctets

/-- The hash of a message. -/
def digest (message : List UInt8) : List UInt8 :=
  let octets := padded message
  ((blocks (octets.length / 64) octets).foldl Words.compress .initial).octets

/-- The hash of a message in hexadecimal. -/
def hexDigest (message : List UInt8) : List Char :=
  (digest message).flatMap fun b => Text.Hex.hexDigits 2 b.toNat

theorem length_digest (message : List UInt8) : (digest message).length = 32 := by
  simp [digest, Words.octets, wordOctets]

end CallAtlas.Hash.Sha256
