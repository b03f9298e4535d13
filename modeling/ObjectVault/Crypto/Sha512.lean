import ObjectVault.Bytes

/-!
# The SHA-512 digest

Eight 64-bit words are updated by every 128-byte block of the padded message; the digest is the
words that remain.
-/

namespace ObjectVault.Sha512

/-- The eight words of a digest under way. -/
structure Chain where
  a : UInt64
  b : UInt64
  c : UInt64
  d : UInt64
  e : UInt64
  f : UInt64
  g : UInt64
  h : UInt64
  deriving DecidableEq, Repr

/-- The words of a chain in order. -/
def Chain.words (chain : Chain) : List UInt64 :=
  [chain.a, chain.b, chain.c, chain.d, chain.e, chain.f, chain.g, chain.h]

/-- The wordwise sum of two chains. -/
def Chain.add (left right : Chain) : Chain :=
  ⟨left.a + right.a, left.b + right.b, left.c + right.c, left.d + right.d,
    left.e + right.e, left.f + right.f, left.g + right.g, left.h + right.h⟩

/-- The first 64 bits of the fractional parts of the square roots of the first eight primes. -/
def start : Chain := ⟨
  0x6a09e667f3bcc908, 0xbb67ae8584caa73b, 0x3c6ef372fe94f82b, 0xa54ff53a5f1d36f1,
  0x510e527fade682d1, 0x9b05688c2b3e6c1f, 0x1f83d9abfb41bd6b, 0x5be0cd19137e2179⟩

/-- The first 64 bits of the fractional parts of the cube roots of the first eighty primes. -/
def roundConstants : List UInt64 := [
  0x428a2f98d728ae22, 0x7137449123ef65cd, 0xb5c0fbcfec4d3b2f, 0xe9b5dba58189dbbc,
  0x3956c25bf348b538, 0x59f111f1b605d019, 0x923f82a4af194f9b, 0xab1c5ed5da6d8118,
  0xd807aa98a3030242, 0x12835b0145706fbe, 0x243185be4ee4b28c, 0x550c7dc3d5ffb4e2,
  0x72be5d74f27b896f, 0x80deb1fe3b1696b1, 0x9bdc06a725c71235, 0xc19bf174cf692694,
  0xe49b69c19ef14ad2, 0xefbe4786384f25e3, 0x0fc19dc68b8cd5b5, 0x240ca1cc77ac9c65,
  0x2de92c6f592b0275, 0x4a7484aa6ea6e483, 0x5cb0a9dcbd41fbd4, 0x76f988da831153b5,
  0x983e5152ee66dfab, 0xa831c66d2db43210, 0xb00327c898fb213f, 0xbf597fc7beef0ee4,
  0xc6e00bf33da88fc2, 0xd5a79147930aa725, 0x06ca6351e003826f, 0x142929670a0e6e70,
  0x27b70a8546d22ffc, 0x2e1b21385c26c926, 0x4d2c6dfc5ac42aed, 0x53380d139d95b3df,
  0x650a73548baf63de, 0x766a0abb3c77b2a8, 0x81c2c92e47edaee6, 0x92722c851482353b,
  0xa2bfe8a14cf10364, 0xa81a664bbc423001, 0xc24b8b70d0f89791, 0xc76c51a30654be30,
  0xd192e819d6ef5218, 0xd69906245565a910, 0xf40e35855771202a, 0x106aa07032bbd1b8,
  0x19a4c116b8d2d0c8, 0x1e376c085141ab53, 0x2748774cdf8eeb99, 0x34b0bcb5e19b48a8,
  0x391c0cb3c5c95a63, 0x4ed8aa4ae3418acb, 0x5b9cca4f7763e373, 0x682e6ff3d6b2b8a3,
  0x748f82ee5defb2fc, 0x78a5636f43172f60, 0x84c87814a1f0ab72, 0x8cc702081a6439ec,
  0x90befffa23631e28, 0xa4506cebde82bde9, 0xbef9a3f7b2c67915, 0xc67178f2e372532b,
  0xca273eceea26619c, 0xd186b8c721c0c207, 0xeada7dd6cde0eb1e, 0xf57d4f7fee6ed178,
  0x06f067aa72176fba, 0x0a637dc5a2c898a6, 0x113f9804bef90dae, 0x1b710b35131c471b,
  0x28db77f523047d84, 0x32caab7b40c72493, 0x3c9ebe0a15c9bebc, 0x431d67c49c100d4c,
  0x4cc5d4becb3e42b6, 0x597f299cfc657e2a, 0x5fcb6fab3ad6faec, 0x6c44198c4a475817
]

/-- Rotation of a word to the right. -/
def rotateRight (word places : UInt64) : UInt64 := (word >>> places) ||| (word <<< (64 - places))

/-- Bitwise choice between two words by a third. -/
def choose (x y z : UInt64) : UInt64 := (x &&& y) ^^^ (~~~x &&& z)

/-- Bitwise majority of three words. -/
def majority (x y z : UInt64) : UInt64 := (x &&& y) ^^^ (x &&& z) ^^^ (y &&& z)

/-- The mixing of the first word in a round. -/
def mixFirst (x : UInt64) : UInt64 := rotateRight x 28 ^^^ rotateRight x 34 ^^^ rotateRight x 39

/-- The mixing of the fifth word in a round. -/
def mixFifth (x : UInt64) : UInt64 := rotateRight x 14 ^^^ rotateRight x 18 ^^^ rotateRight x 41

/-- The mixing of the older word in the message schedule. -/
def mixOlder (x : UInt64) : UInt64 := rotateRight x 1 ^^^ rotateRight x 8 ^^^ (x >>> 7)

/-- The mixing of the newer word in the message schedule. -/
def mixNewer (x : UInt64) : UInt64 := rotateRight x 19 ^^^ rotateRight x 61 ^^^ (x >>> 6)

/-- Appends the next word to the latest sixteen of the schedule, of which it drops the oldest. -/
def advance (window : List UInt64) : List UInt64 :=
  let word := mixNewer (window.getD 14 0) + window.getD 9 0 + mixOlder (window.getD 1 0) +
    window.getD 0 0
  window.drop 1 ++ [word]

/-- One round with a word of the schedule and a constant. -/
def round (chain : Chain) (word constant : UInt64) : Chain :=
  let first := chain.h + mixFifth chain.e + choose chain.e chain.f chain.g + constant + word
  let second := mixFirst chain.a + majority chain.a chain.b chain.c
  ⟨first + second, chain.a, chain.b, chain.c, chain.d + first, chain.e, chain.f, chain.g⟩

/-- The rounds with the given constants, from sixteen words of the schedule on. -/
def rounds : (constants : List UInt64) → (window : List UInt64) → Chain → Chain
  | [], _, chain => chain
  | constant :: rest, window, chain =>
    rounds rest (advance window) (round chain (window.getD 0 0) constant)

/-- Updates a chain by one block of 128 bytes. -/
def compress (chain : Chain) (block : Bytes) : Chain :=
  let window := (Bytes.pieces 8 block).map fun piece =>
    UInt64.ofNat (Bytes.toNatLittle piece.reverse)
  chain.add (rounds roundConstants window chain)

/-- The message followed by a one bit, zeros, and its length in bits. -/
def padded (message : Bytes) : Bytes :=
  let zeros := (239 - message.length % 128) % 128
  message ++ 0x80 :: (List.replicate zeros 0 ++ Bytes.ofNatBig 16 (8 * message.length))

/-- The 64-byte digest of a message. -/
def digest (message : Bytes) : Bytes :=
  let chain := (Bytes.pieces 128 (padded message)).foldl compress start
  chain.words.flatMap fun word => Bytes.ofNatBig 8 word.toNat

@[simp] theorem length_digest (message : Bytes) : (digest message).length = 64 := by
  simp [digest, Chain.words]

end ObjectVault.Sha512
