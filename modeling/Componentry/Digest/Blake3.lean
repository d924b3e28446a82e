/-
  The BLAKE3 hash of a sequence of bytes.

  The bytes are cut into chunks of 1024, each chunk into
  blocks of 64.  A block is compressed into a chaining value
  of eight words; the chaining values of the chunks are merged
  in a binary tree whose left sides are full.

  The sixteen words of the compression state are four rows of
  four.  A round mixes the columns, then the diagonals, which
  are the columns after the rows have been rotated by 0, 1, 2
  and 3 places.

  Key definitions:
    * `Blake3.compress`
    * `Blake3.hash`
-/

------------------------------------------------------------
-- Words
------------------------------------------------------------

namespace Componentry

namespace Blake3

/- Four words. -/
structure Row where
  a : UInt32
  b : UInt32
  c : UInt32
  d : UInt32
deriving DecidableEq, Repr

namespace Row

/- Combine two rows word by word. -/
def zip
    (f : UInt32 → UInt32 → UInt32)
    (x y : Row) :
    Row :=
  ⟨f x.a y.a, f x.b y.b, f x.c y.c, f x.d y.d⟩

/- Change every word of a row. -/
def map
    (f : UInt32 → UInt32)
    (x : Row) :
    Row :=
  ⟨f x.a, f x.b, f x.c, f x.d⟩

/- Rotate a row to the left by one place. -/
def turn (x : Row) : Row :=
  ⟨x.b, x.c, x.d, x.a⟩

/- The words of a row. -/
def toList (x : Row) : List UInt32 :=
  [x.a, x.b, x.c, x.d]

end Row

/- A chaining value: eight words. -/
structure Chain where
  left : Row
  right : Row
deriving DecidableEq, Repr

/- The words of a block: sixteen. -/
structure Block where
  w0 : Row
  w1 : Row
  w2 : Row
  w3 : Row
deriving DecidableEq, Repr

/- The chaining value that every hash starts from. -/
def initial : Chain :=
  ⟨⟨0x6a09e667, 0xbb67ae85, 0x3c6ef372, 0xa54ff53a⟩,
   ⟨0x510e527f, 0x9b05688c, 0x1f83d9ab, 0x5be0cd19⟩⟩

/- Rotate a word to the right. -/
def rotate
    (places : UInt32)
    (word : UInt32) :
    UInt32 :=
  (word >>> places) ||| (word <<< (32 - places))

end Blake3

end Componentry

------------------------------------------------------------
-- Compression
------------------------------------------------------------

namespace Componentry

namespace Blake3

/- The compression state: four rows. -/
structure State where
  a : Row
  b : Row
  c : Row
  d : Row

/- Mix four columns at once, with two rows of message words. -/
def State.mix
    (s : State)
    (x y : Row) :
    State :=
  let a := (s.a.zip (· + ·) s.b).zip (· + ·) x
  let d := (s.d.zip (· ^^^ ·) a).map (rotate 16)
  let c := s.c.zip (· + ·) d
  let b := (s.b.zip (· ^^^ ·) c).map (rotate 12)
  let a := (a.zip (· + ·) b).zip (· + ·) y
  let d := (d.zip (· ^^^ ·) a).map (rotate 8)
  let c := c.zip (· + ·) d
  let b := (b.zip (· ^^^ ·) c).map (rotate 7)
  ⟨a, b, c, d⟩

/- Mix the columns, then the diagonals. -/
def State.round
    (s : State)
    (m : Block) :
    State :=
  let s :=
    s.mix ⟨m.w0.a, m.w0.c, m.w1.a, m.w1.c⟩
      ⟨m.w0.b, m.w0.d, m.w1.b, m.w1.d⟩
  let s : State :=
    ⟨s.a, s.b.turn, s.c.turn.turn, s.d.turn.turn.turn⟩
  let s :=
    s.mix ⟨m.w2.a, m.w2.c, m.w3.a, m.w3.c⟩
      ⟨m.w2.b, m.w2.d, m.w3.b, m.w3.d⟩
  ⟨s.a, s.b.turn.turn.turn, s.c.turn.turn, s.d.turn⟩

/- The order of the message words in the next round. -/
def Block.permute (m : Block) : Block :=
  ⟨⟨m.w0.c, m.w1.c, m.w0.d, m.w2.c⟩,
   ⟨m.w1.d, m.w0.a, m.w1.a, m.w3.b⟩,
   ⟨m.w0.b, m.w2.d, m.w3.a, m.w1.b⟩,
   ⟨m.w2.b, m.w3.c, m.w3.d, m.w2.a⟩⟩

/- Mix a number of rounds. -/
def State.rounds
    (s : State)
    (m : Block) :
    Nat → State
  | 0 => s
  | n + 1 => (s.round m).rounds m.permute n

/- What a block is to the hash, besides its words. -/
structure Role where
  -- The number of the chunk.
  chunk : Nat
  -- How many bytes the block holds.
  size : Nat
  -- The first block of a chunk.
  isStart : Bool
  -- The last block of a chunk.
  isEnd : Bool
  -- The block of two chaining values.
  isParent : Bool
  -- The block that gives the hash.
  isRoot : Bool

/- The marks of a block as bits of a word. -/
def Role.flags (role : Role) : UInt32 :=
  (if role.isStart then 1 else 0)
    ||| (if role.isEnd then 2 else 0)
    ||| (if role.isParent then 4 else 0)
    ||| (if role.isRoot then 8 else 0)

/- Compress a block into a chaining value. -/
def compress
    (chain : Chain)
    (m : Block)
    (role : Role) :
    Chain :=
  let counter : Row :=
    ⟨UInt32.ofNat role.chunk,
     UInt32.ofNat (role.chunk / 0x100000000),
     UInt32.ofNat role.size,
     role.flags⟩
  let s : State :=
    ⟨chain.left, chain.right, initial.left, counter⟩
  let s := s.rounds m 7
  ⟨s.a.zip (· ^^^ ·) s.c, s.b.zip (· ^^^ ·) s.d⟩

end Blake3

end Componentry

------------------------------------------------------------
-- Chunks
------------------------------------------------------------

namespace Componentry

namespace Blake3

/- Cut a list into parts of at most `size + 1` items. -/
def parts
    {α : Type}
    (size : Nat)
    (items : List α) :
    List (List α) :=
  match items with
  | [] => []
  | first :: rest =>
      (first :: rest.take size) :: parts size (rest.drop size)
termination_by items.length
decreasing_by
  simp only [List.length_drop, List.length_cons]
  omega

/- The word of four bytes, the lowest byte first. -/
def word (a b c d : UInt8) : UInt32 :=
  a.toUInt32
    ||| (b.toUInt32 <<< 8)
    ||| (c.toUInt32 <<< 16)
    ||| (d.toUInt32 <<< 24)

/- Cut a row off some bytes; missing bytes are zero. -/
def takeRow (bytes : List UInt8) : Row × List UInt8 :=
  let byte (i : Nat) : UInt8 := bytes.getD i 0
  (⟨word (byte 0) (byte 1) (byte 2) (byte 3),
    word (byte 4) (byte 5) (byte 6) (byte 7),
    word (byte 8) (byte 9) (byte 10) (byte 11),
    word (byte 12) (byte 13) (byte 14) (byte 15)⟩,
   bytes.drop 16)

/- The words of at most 64 bytes. -/
def Block.ofBytes (bytes : List UInt8) : Block :=
  let (w0, bytes) := takeRow bytes
  let (w1, bytes) := takeRow bytes
  let (w2, bytes) := takeRow bytes
  let (w3, _) := takeRow bytes
  ⟨w0, w1, w2, w3⟩

/- Compress the blocks of a chunk, one after the other. -/
def chunkFrom
    (number : Nat)
    (isRoot : Bool)
    (isStart : Bool)
    (chain : Chain) :
    List (List UInt8) → Chain
  | [] => chain
  | [last] =>
      compress chain (Block.ofBytes last)
        ⟨number, last.length, isStart, true, false, isRoot⟩
  | block :: next :: rest =>
      chunkFrom number isRoot false
        (compress chain (Block.ofBytes block)
          ⟨number, block.length, isStart, false, false, false⟩)
        (next :: rest)

/-
  The chaining value of a chunk.  The empty chunk has one
  block, an empty one.
-/
def chunk
    (number : Nat)
    (isRoot : Bool)
    (bytes : List UInt8) :
    Chain :=
  let blocks := if bytes.isEmpty then [[]] else parts 63 bytes
  chunkFrom number isRoot true initial blocks

end Blake3

end Componentry

------------------------------------------------------------
-- The Tree
------------------------------------------------------------

namespace Componentry

namespace Blake3

/- The largest power of two below a number of chunks. -/
def leftSize (n : Nat) : Nat :=
  Nat.pow 2 (Nat.log2 (n - 1))

/- The left side of a tree is neither empty nor all of it. -/
theorem leftSize_lt
    {n : Nat}
    (h : 2 ≤ n) :
    0 < leftSize n ∧ leftSize n < n := by
  have hPositive : 0 < leftSize n := Nat.two_pow_pos _
  have hBelow : leftSize n ≤ n - 1 :=
    Nat.log2_self_le (by omega)
  exact ⟨hPositive, by omega⟩

/- The chaining value over two others. -/
def merge
    (isRoot : Bool)
    (left right : Chain) :
    Chain :=
  compress initial
    ⟨left.left, left.right, right.left, right.right⟩
    ⟨0, 64, false, false, true, isRoot⟩

/- The chaining value over chunks, the first being numbered. -/
def tree
    (number : Nat)
    (isRoot : Bool)
    (chunks : List (List UInt8)) :
    Chain :=
  if h : 2 ≤ chunks.length then
    let size := leftSize chunks.length
    have := leftSize_lt h
    merge isRoot
      (tree number false (chunks.take size))
      (tree (number + size) false (chunks.drop size))
  else chunk number isRoot chunks.flatten
termination_by chunks.length
decreasing_by
  all_goals
    simp only [List.length_take, List.length_drop]
    omega

/- The bytes of a word, the lowest first. -/
def wordBytes (w : UInt32) : List UInt8 :=
  [w.toUInt8, (w >>> 8).toUInt8, (w >>> 16).toUInt8,
   (w >>> 24).toUInt8]

/- The 32 bytes of the hash. -/
def hash (bytes : List UInt8) : List UInt8 :=
  let root := tree 0 true (parts 1023 bytes)
  (root.left.toList ++ root.right.toList).flatMap wordBytes

end Blake3

end Componentry
