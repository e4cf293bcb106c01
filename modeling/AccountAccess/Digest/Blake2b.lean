import AccountAccess.Bytes

/-!
BLAKE2b without a key, for digests of 1 to 64 octets.

* `mix` is the mixing of four words with two message words; twelve rounds of eight mixings, each
  with its own order of the message words, compress a block of 128 octets.
* `digest n` writes the first `n` octets of the chaining words; `length_digest`.
-/

namespace AccountAccess.Blake2b

/-- The first 64 fractional bits of the square roots of the first eight primes. -/
def initial : Vector UInt64 8 := #v[
  0x6a09e667f3bcc908, 0xbb67ae8584caa73b, 0x3c6ef372fe94f82b, 0xa54ff53a5f1d36f1,
  0x510e527fade682d1, 0x9b05688c2b3e6c1f, 0x1f83d9abfb41bd6b, 0x5be0cd19137e2179]

/-- The order of the message words in each of the twelve rounds. -/
def orders : List (Vector (Fin 16) 16) := [
  #v[0, 1, 2, 3, 4, 5, 6, 7, 8, 9, 10, 11, 12, 13, 14, 15],
  #v[14, 10, 4, 8, 9, 15, 13, 6, 1, 12, 0, 2, 11, 7, 5, 3],
  #v[11, 8, 12, 0, 5, 2, 15, 13, 10, 14, 3, 6, 7, 1, 9, 4],
  #v[7, 9, 3, 1, 13, 12, 11, 14, 2, 6, 5, 10, 4, 0, 15, 8],
  #v[9, 0, 5, 7, 2, 4, 10, 15, 14, 1, 11, 12, 6, 8, 3, 13],
  #v[2, 12, 6, 10, 0, 11, 8, 3, 4, 13, 7, 5, 15, 14, 1, 9],
  #v[12, 5, 1, 15, 14, 13, 4, 10, 0, 7, 6, 3, 9, 2, 8, 11],
  #v[13, 11, 7, 14, 12, 1, 3, 9, 5, 0, 15, 4, 8, 6, 2, 10],
  #v[6, 15, 14, 9, 11, 3, 0, 8, 12, 2, 13, 7, 1, 4, 10, 5],
  #v[10, 2, 8, 4, 7, 6, 1, 5, 15, 11, 9, 14, 3, 12, 13, 0],
  #v[0, 1, 2, 3, 4, 5, 6, 7, 8, 9, 10, 11, 12, 13, 14, 15],
  #v[14, 10, 4, 8, 9, 15, 13, 6, 1, 12, 0, 2, 11, 7, 5, 3]]

/-! ### Words and octets -/

/-- The eight octets of a word, the least significant first. -/
def octets (w : UInt64) : Bytes :=
  [w.toUInt8, (w >>> 8).toUInt8, (w >>> 16).toUInt8, (w >>> 24).toUInt8,
    (w >>> 32).toUInt8, (w >>> 40).toUInt8, (w >>> 48).toUInt8, (w >>> 56).toUInt8]

/-- Octets as words, the least significant octet first. -/
def words : Bytes → List UInt64
  | a :: b :: c :: d :: e :: f :: g :: h :: rest =>
    (a.toUInt64 ||| b.toUInt64 <<< 8 ||| c.toUInt64 <<< 16 ||| d.toUInt64 <<< 24 |||
      e.toUInt64 <<< 32 ||| f.toUInt64 <<< 40 ||| g.toUInt64 <<< 48 ||| h.toUInt64 <<< 56) ::
      words rest
  | _ => []

/-- The sixteen words of a block; missing octets are zero. -/
def blockWords (block : Bytes) : Vector UInt64 16 :=
  let w := (words (block ++ List.replicate (128 - block.length) 0)).toArray
  Vector.ofFn fun i => w.getD i 0

/-! ### Compression -/

/-- Rotation to the right. -/
def rotate (w n : UInt64) : UInt64 := w >>> n ||| w <<< (64 - n)

/-- Mixes the words at four places with two message words. -/
def mix (v : Vector UInt64 16) (a b c d : Fin 16) (x y : UInt64) : Vector UInt64 16 :=
  let va := v[a] + v[b] + x
  let vd := rotate (v[d] ^^^ va) 32
  let vc := v[c] + vd
  let vb := rotate (v[b] ^^^ vc) 24
  let va := va + vb + y
  let vd := rotate (vd ^^^ va) 16
  let vc := vc + vd
  let vb := rotate (vb ^^^ vc) 63
  (((v.set a va).set b vb).set c vc).set d vd

/-- A round: the four columns, then the four diagonals. -/
def round (m v : Vector UInt64 16) (order : Vector (Fin 16) 16) : Vector UInt64 16 :=
  let v := mix v 0 4 8 12 m[order[0]] m[order[1]]
  let v := mix v 1 5 9 13 m[order[2]] m[order[3]]
  let v := mix v 2 6 10 14 m[order[4]] m[order[5]]
  let v := mix v 3 7 11 15 m[order[6]] m[order[7]]
  let v := mix v 0 5 10 15 m[order[8]] m[order[9]]
  let v := mix v 1 6 11 12 m[order[10]] m[order[11]]
  let v := mix v 2 7 8 13 m[order[12]] m[order[13]]
  mix v 3 4 9 14 m[order[14]] m[order[15]]

/-- Takes a block into the chaining words; `count` octets were read up to its end. -/
def compress (h : Vector UInt64 8) (block : Bytes) (count : Nat) (last : Bool) :
    Vector UInt64 8 :=
  let m := blockWords block
  let v : Vector UInt64 16 := h ++ initial
  let v := v.set 12 (v[12] ^^^ count.toUInt64)
  let v := v.set 13 (v[13] ^^^ (count / UInt64.size).toUInt64)
  let v := if last then v.set 14 (~~~v[14]) else v
  let w := orders.foldl (round m) v
  Vector.ofFn fun i : Fin 8 => h[i] ^^^ w[i.val] ^^^ w[i.val + 8]

/-- Takes the message, of which `count` octets were read before, into the chaining words. The last
block is never empty unless the message is. -/
def absorb : Nat → Vector UInt64 8 → Nat → Bytes → Vector UInt64 8
  | 0, h, count, m => compress h m (count + m.length) true
  | blocks + 1, h, count, m =>
    absorb blocks (compress h (m.take 128) (count + 128) false) (count + 128) (m.drop 128)

/-- The digest of `n` octets, for `n` up to 64. -/
def digest (n : Nat) (m : Bytes) : Bytes :=
  let h := initial.set 0 (initial[0] ^^^ 0x01010000 ^^^ n.toUInt64)
  ((absorb ((m.length - 1) / 128) h 0 m).toList.flatMap octets).take n

theorem length_digest {n : Nat} (hn : n ≤ 64) (m : Bytes) : (digest n m).length = n := by
  have h : ∀ l : List UInt64, (l.flatMap octets).length = 8 * l.length := by
    intro l
    induction l with
    | nil => rfl
    | cons x r ih => simp [octets, ih]; omega
  simp [digest, h]
  omega

end AccountAccess.Blake2b
