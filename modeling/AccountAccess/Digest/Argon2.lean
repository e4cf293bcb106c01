import AccountAccess.Digest.Blake2b

/-!
Argon2, the memory-hard password hash, in its three variants and two versions.

The memory is a matrix of blocks of 1024 octets, one row a lane and four slices a row. A pass fills
it slice by slice; each block is the compression of its predecessor and of a reference block, which
is chosen by the predecessor's contents (data-dependent), by a stream of addresses (independent of
the data), or by one or the other (`Variant.isIndependent`).

* `Block.compress` mixes the rows of two blocks' sum, then its columns.
* `reference` is the rule by which sixty-four pseudo-random bits choose a block.
* `fill` runs the passes and `tag` is the digest of the last column's sum; `length_tag`.
-/

namespace AccountAccess.Argon2

/-! ### Parameters -/

/-- Which reference blocks depend on the password: all, none, or those after the first half of the
first pass. -/
inductive Variant where
  | d
  | i
  | id
  deriving DecidableEq, Repr

/-- The number of the variant in the first digest. -/
def Variant.code : Variant → Nat
  | .d => 0
  | .i => 1
  | .id => 2

/-- The versions of the algorithm: in the later one a pass after the first adds to the block that it
replaces. -/
inductive Version where
  | v16
  | v19
  deriving DecidableEq, Repr

/-- The number of the version. -/
def Version.code : Version → Nat
  | .v16 => 16
  | .v19 => 19

/-- What is hashed, and at what cost. -/
structure Input where
  variant : Variant
  version : Version
  /-- Memory, in blocks of 1024 octets. -/
  memory : Nat
  /-- Passes over the memory. -/
  passes : Nat
  lanes : Nat
  /-- Octets of the result. -/
  length : Nat
  password : Bytes
  salt : Bytes
  /-- Data that is hashed besides password and salt. -/
  associated : Bytes

/-! ### Blocks -/

/-- Sixteen words: an eighth of a block. -/
structure Row where
  w0 : UInt64
  w1 : UInt64
  w2 : UInt64
  w3 : UInt64
  w4 : UInt64
  w5 : UInt64
  w6 : UInt64
  w7 : UInt64
  w8 : UInt64
  w9 : UInt64
  w10 : UInt64
  w11 : UInt64
  w12 : UInt64
  w13 : UInt64
  w14 : UInt64
  w15 : UInt64

/-- A block: eight rows of sixteen words. -/
structure Block where
  r0 : Row
  r1 : Row
  r2 : Row
  r3 : Row
  r4 : Row
  r5 : Row
  r6 : Row
  r7 : Row

/-- The words of a row. -/
def Row.words (r : Row) : List UInt64 :=
  [r.w0, r.w1, r.w2, r.w3, r.w4, r.w5, r.w6, r.w7,
    r.w8, r.w9, r.w10, r.w11, r.w12, r.w13, r.w14, r.w15]

/-- The row of sixteen words; a missing word is zero. -/
def Row.ofArray (a : Array UInt64) (start : Nat) : Row :=
  let w := fun i => a.getD (start + i) 0
  ⟨w 0, w 1, w 2, w 3, w 4, w 5, w 6, w 7, w 8, w 9, w 10, w 11, w 12, w 13, w 14, w 15⟩

/-- Wordwise exclusive or. -/
def Row.xor (x y : Row) : Row :=
  ⟨x.w0 ^^^ y.w0, x.w1 ^^^ y.w1, x.w2 ^^^ y.w2, x.w3 ^^^ y.w3, x.w4 ^^^ y.w4,
    x.w5 ^^^ y.w5, x.w6 ^^^ y.w6, x.w7 ^^^ y.w7, x.w8 ^^^ y.w8, x.w9 ^^^ y.w9,
    x.w10 ^^^ y.w10, x.w11 ^^^ y.w11, x.w12 ^^^ y.w12, x.w13 ^^^ y.w13, x.w14 ^^^ y.w14,
    x.w15 ^^^ y.w15⟩

/-- The row of zeros. -/
def Row.zero : Row := ⟨0, 0, 0, 0, 0, 0, 0, 0, 0, 0, 0, 0, 0, 0, 0, 0⟩

namespace Block

/-- The words of a block. -/
def words (b : Block) : List UInt64 :=
  b.r0.words ++ b.r1.words ++ b.r2.words ++ b.r3.words ++
    b.r4.words ++ b.r5.words ++ b.r6.words ++ b.r7.words

/-- The block of 1024 octets. -/
def ofBytes (m : Bytes) : Block :=
  let a := (Blake2b.words m).toArray
  ⟨Row.ofArray a 0, Row.ofArray a 16, Row.ofArray a 32, Row.ofArray a 48,
    Row.ofArray a 64, Row.ofArray a 80, Row.ofArray a 96, Row.ofArray a 112⟩

/-- The octets of a block. -/
def bytes (b : Block) : Bytes := b.words.flatMap Blake2b.octets

/-- The block of zeros. -/
def zero : Block := ⟨.zero, .zero, .zero, .zero, .zero, .zero, .zero, .zero⟩

/-- Wordwise exclusive or. -/
def xor (x y : Block) : Block :=
  ⟨x.r0.xor y.r0, x.r1.xor y.r1, x.r2.xor y.r2, x.r3.xor y.r3,
    x.r4.xor y.r4, x.r5.xor y.r5, x.r6.xor y.r6, x.r7.xor y.r7⟩

/-- Swaps the pairs of words across the diagonal: pair `i` of row `j` becomes pair `j` of row
`i`. -/
def transpose (b : Block) : Block :=
  ⟨
    ⟨b.r0.w0, b.r0.w1, b.r1.w0, b.r1.w1, b.r2.w0, b.r2.w1, b.r3.w0, b.r3.w1,
      b.r4.w0, b.r4.w1, b.r5.w0, b.r5.w1, b.r6.w0, b.r6.w1, b.r7.w0, b.r7.w1⟩,
    ⟨b.r0.w2, b.r0.w3, b.r1.w2, b.r1.w3, b.r2.w2, b.r2.w3, b.r3.w2, b.r3.w3,
      b.r4.w2, b.r4.w3, b.r5.w2, b.r5.w3, b.r6.w2, b.r6.w3, b.r7.w2, b.r7.w3⟩,
    ⟨b.r0.w4, b.r0.w5, b.r1.w4, b.r1.w5, b.r2.w4, b.r2.w5, b.r3.w4, b.r3.w5,
      b.r4.w4, b.r4.w5, b.r5.w4, b.r5.w5, b.r6.w4, b.r6.w5, b.r7.w4, b.r7.w5⟩,
    ⟨b.r0.w6, b.r0.w7, b.r1.w6, b.r1.w7, b.r2.w6, b.r2.w7, b.r3.w6, b.r3.w7,
      b.r4.w6, b.r4.w7, b.r5.w6, b.r5.w7, b.r6.w6, b.r6.w7, b.r7.w6, b.r7.w7⟩,
    ⟨b.r0.w8, b.r0.w9, b.r1.w8, b.r1.w9, b.r2.w8, b.r2.w9, b.r3.w8, b.r3.w9,
      b.r4.w8, b.r4.w9, b.r5.w8, b.r5.w9, b.r6.w8, b.r6.w9, b.r7.w8, b.r7.w9⟩,
    ⟨b.r0.w10, b.r0.w11, b.r1.w10, b.r1.w11, b.r2.w10, b.r2.w11, b.r3.w10, b.r3.w11,
      b.r4.w10, b.r4.w11, b.r5.w10, b.r5.w11, b.r6.w10, b.r6.w11, b.r7.w10, b.r7.w11⟩,
    ⟨b.r0.w12, b.r0.w13, b.r1.w12, b.r1.w13, b.r2.w12, b.r2.w13, b.r3.w12, b.r3.w13,
      b.r4.w12, b.r4.w13, b.r5.w12, b.r5.w13, b.r6.w12, b.r6.w13, b.r7.w12, b.r7.w13⟩,
    ⟨b.r0.w14, b.r0.w15, b.r1.w14, b.r1.w15, b.r2.w14, b.r2.w15, b.r3.w14, b.r3.w15,
      b.r4.w14, b.r4.w15, b.r5.w14, b.r5.w15, b.r6.w14, b.r6.w15, b.r7.w14, b.r7.w15⟩⟩

end Block

/-! ### Compression -/

/-- The sum of two words and of twice the product of their lower halves. -/
@[inline] def mulAdd (x y : UInt64) : UInt64 :=
  x + y + 2 * (x.toUInt32.toUInt64 * y.toUInt32.toUInt64)

/-- Four words. -/
structure Quad where
  a : UInt64
  b : UInt64
  c : UInt64
  d : UInt64

/-- Mixes four words. -/
@[inline] def mix (a b c d : UInt64) : Quad :=
  let a := mulAdd a b
  let d := Blake2b.rotate (d ^^^ a) 32
  let c := mulAdd c d
  let b := Blake2b.rotate (b ^^^ c) 24
  let a := mulAdd a b
  let d := Blake2b.rotate (d ^^^ a) 16
  let c := mulAdd c d
  let b := Blake2b.rotate (b ^^^ c) 63
  ⟨a, b, c, d⟩

/-- Mixes the words of a row: the columns of its four by four square, then the diagonals. -/
def Row.mix (r : Row) : Row :=
  let p := Argon2.mix r.w0 r.w4 r.w8 r.w12
  let q := Argon2.mix r.w1 r.w5 r.w9 r.w13
  let s := Argon2.mix r.w2 r.w6 r.w10 r.w14
  let t := Argon2.mix r.w3 r.w7 r.w11 r.w15
  let u := Argon2.mix p.a q.b s.c t.d
  let v := Argon2.mix q.a s.b t.c p.d
  let w := Argon2.mix s.a t.b p.c q.d
  let x := Argon2.mix t.a p.b q.c s.d
  ⟨u.a, v.a, w.a, x.a, x.b, u.b, v.b, w.b, w.c, x.c, u.c, v.c, v.d, w.d, x.d, u.d⟩

/-- Mixes each row. -/
def Block.mixRows (b : Block) : Block :=
  ⟨b.r0.mix, b.r1.mix, b.r2.mix, b.r3.mix, b.r4.mix, b.r5.mix, b.r6.mix, b.r7.mix⟩

/-- The compression of two blocks: their sum, and the same with its rows and then its columns
mixed. -/
def Block.compress (x y : Block) : Block :=
  let s := x.xor y
  s.xor s.mixRows.transpose.mixRows.transpose

/-! ### Digests of any length -/

/-- A number below 2³² in four octets, the least significant first. -/
def word32 (n : Nat) : Bytes :=
  let w : UInt32 := n.toUInt32
  [w.toUInt8, (w >>> 8).toUInt8, (w >>> 16).toUInt8, (w >>> 24).toUInt8]

/-- `n` further links of 32 octets, and a last digest of `rest` octets. -/
def chain (rest : Nat) : Nat → Bytes → Bytes
  | 0, v => Blake2b.digest rest v
  | n + 1, v =>
    let w := Blake2b.digest 64 v
    w.take 32 ++ chain rest n w

/-- A digest of `n` octets: a single one if that suffices, else the first halves of a chain of
digests and the whole of the last one. -/
def digest (n : Nat) (m : Bytes) : Bytes :=
  if n ≤ 64 then Blake2b.digest n (word32 n ++ m)
  else
    let links := (n + 31) / 32 - 2
    chain (n - 32 * links) links (word32 n ++ m)

theorem length_chain {rest : Nat} (h : rest ≤ 64) (n : Nat) (v : Bytes) :
    (chain rest n v).length = 32 * n + rest := by
  induction n generalizing v with
  | zero => simp [chain, Blake2b.length_digest h]
  | succ n ih =>
    simp [chain, ih, Blake2b.length_digest (Nat.le_refl 64)]
    omega

theorem length_digest (n : Nat) (m : Bytes) : (digest n m).length = n := by
  unfold digest
  split
  · exact Blake2b.length_digest (by assumption) _
  · rw [length_chain (by omega)]
    omega

/-! ### Filling the memory -/

namespace Input

/-- Octets preceded by their number. -/
def counted (b : Bytes) : Bytes := word32 b.length ++ b

/-- The digest that everything else is derived from. No secret is hashed. -/
def seed (p : Input) : Bytes :=
  Blake2b.digest 64 (word32 p.lanes ++ word32 p.length ++ word32 p.memory ++ word32 p.passes ++
    word32 p.version.code ++ word32 p.variant.code ++ counted p.password ++ counted p.salt ++
    counted [] ++ counted p.associated)

/-- Blocks in a quarter of a lane. -/
def sliceLength (p : Input) : Nat := p.memory / (4 * p.lanes)

/-- Blocks in a lane. -/
def laneLength (p : Input) : Nat := 4 * p.sliceLength

end Input

/-- A place in the order in which blocks are filled. -/
structure Position where
  pass : Nat
  slice : Nat
  lane : Nat
  /-- The index in the slice. -/
  index : Nat

/-- Whether the block to be filled is chosen without regard to the data. -/
def Variant.isIndependent (v : Variant) (pos : Position) : Bool :=
  match v with
  | .d => false
  | .i => true
  | .id => pos.pass == 0 && pos.slice < 2

/-- The addresses `128 * count` to `128 * count + 127` of the slice that `pos` is in: a counter
compressed twice. -/
def addresses (p : Input) (pos : Position) (count : Nat) : Array UInt64 :=
  let head : Row := { Row.zero with
    w0 := pos.pass.toUInt64, w1 := pos.lane.toUInt64, w2 := pos.slice.toUInt64,
    w3 := (p.lanes * p.laneLength).toUInt64, w4 := p.passes.toUInt64,
    w5 := p.variant.code.toUInt64, w6 := (count + 1).toUInt64 }
  let counter := { Block.zero with r0 := head }
  (Block.zero.compress (Block.zero.compress counter)).words.toArray

/-- The block that sixty-four pseudo-random bits choose: the upper half a lane, the lower half one
of the blocks there that are already filled, the later ones being likelier. -/
def reference (p : Input) (pos : Position) (bits : UInt64) : Nat :=
  let lane :=
    if pos.pass == 0 && pos.slice == 0 then pos.lane else (bits >>> 32).toNat % p.lanes
  let same := lane == pos.lane
  let before := if pos.pass == 0 then pos.slice * p.sliceLength else 3 * p.sliceLength
  let area :=
    if same then before + pos.index - 1
    else if pos.index == 0 then before - 1 else before
  let x := bits.toNat % UInt32.size
  let y := x * x / UInt32.size
  let back := area - 1 - area * y / UInt32.size
  let start := if pos.pass == 0 then 0 else (pos.slice + 1) % 4 * p.sliceLength
  lane * p.laneLength + (start + back) % p.laneLength

/-- Fills the block at a place. -/
def fillBlock (p : Input) (pos : Position) (bits? : Option UInt64) (memory : Array Block) :
    Array Block :=
  let column := pos.slice * p.sliceLength + pos.index
  let current := pos.lane * p.laneLength + column
  let previous :=
    memory.getD (pos.lane * p.laneLength + (column + p.laneLength - 1) % p.laneLength) Block.zero
  let bits := bits?.getD previous.r0.w0
  let chosen := memory.getD (reference p pos bits) Block.zero
  let new := previous.compress chosen
  let new :=
    if pos.pass == 0 || p.version == .v16 then new
    else new.xor (memory.getD current Block.zero)
  memory.setIfInBounds current new

/-- Fills the last `n` blocks of a slice; `known` holds the addresses of the current run of 128 in a
slice whose references do not depend on the data. -/
def fillSlice (p : Input) (pass slice lane : Nat) :
    Nat → Array UInt64 → Array Block → Array Block
  | 0, _, memory => memory
  | n + 1, known, memory =>
    let index := p.sliceLength - (n + 1)
    let pos : Position := { pass, slice, lane, index }
    let independent := p.variant.isIndependent pos
    let known := if independent && index % 128 == 0 then addresses p pos (index / 128) else known
    let skipped := pass == 0 && slice == 0 && index < 2
    let memory :=
      if skipped then memory
      else fillBlock p pos (if independent then some (known.getD (index % 128) 0) else none) memory
    fillSlice p pass slice lane n known memory

/-- The memory before the first pass: the first two blocks of each lane, the rest zero. -/
def initialMemory (p : Input) : Array Block :=
  let seed := p.seed
  (List.range p.lanes).foldl
    (fun memory lane =>
      let first := fun i => Block.ofBytes (digest 1024 (seed ++ word32 i ++ word32 lane))
      (memory.setIfInBounds (lane * p.laneLength) (first 0)).setIfInBounds
        (lane * p.laneLength + 1) (first 1))
    (Array.replicate (p.lanes * p.laneLength) Block.zero)

/-- The memory after all passes. -/
def fill (p : Input) : Array Block :=
  (List.range p.passes).foldl
    (fun memory pass => (List.range 4).foldl
      (fun memory slice => (List.range p.lanes).foldl
        (fun memory lane => fillSlice p pass slice lane p.sliceLength #[] memory) memory) memory)
    (initialMemory p)

/-- The hash: a digest of the sum of the last blocks of all lanes. -/
def tag (p : Input) : Bytes :=
  let memory := fill p
  let last := (List.range p.lanes).foldl
    (fun sum lane => sum.xor (memory.getD (lane * p.laneLength + p.laneLength - 1) Block.zero))
    Block.zero
  digest p.length last.bytes

@[simp] theorem length_tag (p : Input) : (tag p).length = p.length := length_digest _ _

end AccountAccess.Argon2
