import AccountAccess.Bytes

/-!
SHA-256, and HMAC over it.

* `pad` fills a message to whole blocks of 64 octets: a one bit, zeros, and the bit length.
* `schedule` expands the sixteen words of a block to sixty-four and `round` mixes one of them into
  the eight chaining words.
* `digest` is the fold of `compress` over the blocks; `length_digest`: 32 octets.
* `hmac` is the digest of the outer pad and the digest of the inner pad and the message;
  `length_hmac`: 32 octets, whatever the key.
-/

namespace AccountAccess.Sha256

/-- The constants of the rounds: the first 32 fractional bits of the cube roots of the first
sixty-four primes. -/
def roundConstants : List UInt32 := [
  0x428a2f98, 0x71374491, 0xb5c0fbcf, 0xe9b5dba5, 0x3956c25b, 0x59f111f1, 0x923f82a4, 0xab1c5ed5,
  0xd807aa98, 0x12835b01, 0x243185be, 0x550c7dc3, 0x72be5d74, 0x80deb1fe, 0x9bdc06a7, 0xc19bf174,
  0xe49b69c1, 0xefbe4786, 0x0fc19dc6, 0x240ca1cc, 0x2de92c6f, 0x4a7484aa, 0x5cb0a9dc, 0x76f988da,
  0x983e5152, 0xa831c66d, 0xb00327c8, 0xbf597fc7, 0xc6e00bf3, 0xd5a79147, 0x06ca6351, 0x14292967,
  0x27b70a85, 0x2e1b2138, 0x4d2c6dfc, 0x53380d13, 0x650a7354, 0x766a0abb, 0x81c2c92e, 0x92722c85,
  0xa2bfe8a1, 0xa81a664b, 0xc24b8b70, 0xc76c51a3, 0xd192e819, 0xd6990624, 0xf40e3585, 0x106aa070,
  0x19a4c116, 0x1e376c08, 0x2748774c, 0x34b0bcb5, 0x391c0cb3, 0x4ed8aa4a, 0x5b9cca4f, 0x682e6ff3,
  0x748f82ee, 0x78a5636f, 0x84c87814, 0x8cc70208, 0x90befffa, 0xa4506ceb, 0xbef9a3f7, 0xc67178f2]

/-- The eight chaining words. -/
structure Chain where
  a : UInt32
  b : UInt32
  c : UInt32
  d : UInt32
  e : UInt32
  f : UInt32
  g : UInt32
  h : UInt32

/-- The first chaining words: the first 32 fractional bits of the square roots of the first eight
primes. -/
def Chain.initial : Chain :=
  ⟨0x6a09e667, 0xbb67ae85, 0x3c6ef372, 0xa54ff53a, 0x510e527f, 0x9b05688c, 0x1f83d9ab, 0x5be0cd19⟩

/-- Wordwise sum. -/
def Chain.add (x y : Chain) : Chain :=
  ⟨x.a + y.a, x.b + y.b, x.c + y.c, x.d + y.d, x.e + y.e, x.f + y.f, x.g + y.g, x.h + y.h⟩

/-! ### Words and octets -/

/-- The four octets of a word, the most significant first. -/
def octets (w : UInt32) : Bytes :=
  [(w >>> 24).toUInt8, (w >>> 16).toUInt8, (w >>> 8).toUInt8, w.toUInt8]

/-- Octets as words, the most significant octet first. -/
def words : Bytes → List UInt32
  | p :: q :: r :: s :: rest =>
    (p.toUInt32 <<< 24 ||| q.toUInt32 <<< 16 ||| r.toUInt32 <<< 8 ||| s.toUInt32) :: words rest
  | _ => []

/-- The octets of the chaining words. -/
def Chain.bytes (x : Chain) : Bytes :=
  octets x.a ++ octets x.b ++ octets x.c ++ octets x.d ++
    octets x.e ++ octets x.f ++ octets x.g ++ octets x.h

/-! ### Blocks -/

/-- A length in bits, in eight octets. -/
def bitLength (n : Nat) : Bytes :=
  let w : UInt64 := (8 * n).toUInt64
  octets (w >>> 32).toUInt32 ++ octets w.toUInt32

/-- The message filled up to whole blocks. -/
def pad (m : Bytes) : Bytes :=
  m ++ 0x80 :: List.replicate ((119 - m.length % 64) % 64) 0 ++ bitLength m.length

/-- The first `n` blocks of `size` octets. -/
def blocks (size : Nat) : Nat → Bytes → List Bytes
  | 0, _ => []
  | n + 1, m => m.take size :: blocks size n (m.drop size)

/-! ### Compression -/

/-- Rotation to the right. -/
def rotate (w n : UInt32) : UInt32 := w >>> n ||| w <<< (32 - n)

/-- One more word of the schedule, from the sixteen before it; the latest comes first. -/
def nextWord (w : List UInt32) : UInt32 :=
  let far := w.getD 15 0
  let s := w.getD 14 0
  let mid := w.getD 6 0
  let t := w.getD 1 0
  far + (rotate s 7 ^^^ rotate s 18 ^^^ s >>> 3) + mid +
    (rotate t 17 ^^^ rotate t 19 ^^^ t >>> 10)

/-- Adds `n` words to a schedule whose latest word comes first. -/
def extend : Nat → List UInt32 → List UInt32
  | 0, w => w
  | n + 1, w => extend n (nextWord w :: w)

/-- The sixty-four words of a block. -/
def schedule (block : Bytes) : List UInt32 := (extend 48 (words block).reverse).reverse

/-- Mixes one word of the schedule, with its constant, into the chaining words. -/
def round (x : Chain) (kw : UInt32 × UInt32) : Chain :=
  let t₁ := x.h + (rotate x.e 6 ^^^ rotate x.e 11 ^^^ rotate x.e 25) +
    ((x.e &&& x.f) ^^^ (~~~x.e &&& x.g)) + kw.1 + kw.2
  let t₂ := (rotate x.a 2 ^^^ rotate x.a 13 ^^^ rotate x.a 22) +
    ((x.a &&& x.b) ^^^ (x.a &&& x.c) ^^^ (x.b &&& x.c))
  ⟨t₁ + t₂, x.a, x.b, x.c, x.d + t₁, x.e, x.f, x.g⟩

/-- Takes a block into the chaining words. -/
def compress (x : Chain) (block : Bytes) : Chain :=
  x.add ((roundConstants.zip (schedule block)).foldl round x)

/-- The SHA-256 digest. -/
def digest (m : Bytes) : Bytes :=
  let p := pad m
  ((blocks 64 (p.length / 64) p).foldl compress Chain.initial).bytes

@[simp] theorem length_digest (m : Bytes) : (digest m).length = 32 := rfl

end AccountAccess.Sha256

namespace AccountAccess

/-! ### HMAC -/

/-- The key in exactly one block: a key longer than a block counts by its digest, and a shorter one
is filled up with zeros. -/
def Hmac.blockKey (key : Bytes) : Bytes :=
  let k := if key.length > 64 then Sha256.digest key else key
  k ++ List.replicate (64 - k.length) 0

/-- The message authentication code of `message` under `key`. -/
def hmac (key message : Bytes) : Bytes :=
  let k := Hmac.blockKey key
  Sha256.digest (k.map (· ^^^ 0x5C) ++ Sha256.digest (k.map (· ^^^ 0x36) ++ message))

@[simp] theorem length_hmac (key message : Bytes) : (hmac key message).length = 32 := by
  simp [hmac]

end AccountAccess
