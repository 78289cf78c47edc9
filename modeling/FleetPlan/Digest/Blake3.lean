/-!
# The BLAKE3 digest

BLAKE3 splits its input into chunks of 1024 bytes, compresses each chunk block by
block into eight words, and joins the chunks in pairs under a binary tree whose
left subtrees hold the largest power of two of chunks that leaves some for the
right. The digest is what the root of the tree compresses to.

Files are compared by a digest of their contents (`contentDigest`), which also gives a
stable name for what is downloaded from one place.
-/

namespace FleetPlan.Blake3

/-- Eight words, as they are passed from one compression to the next. -/
abbrev Chaining := Vector UInt32 8

/-- Sixteen words: a block of the input, or the state of a compression. -/
abbrev Block := Vector UInt32 16

/-- The words that every chunk and every parent starts from. -/
def initial : Chaining :=
  #v[0x6A09E667, 0xBB67AE85, 0x3C6EF372, 0xA54FF53A, 0x510E527F, 0x9B05688C, 0x1F83D9AB,
    0x5BE0CD19]

/-- The flag of a chunk's first block. -/
def chunkStart : UInt32 := 1
/-- The flag of a chunk's last block. -/
def chunkEnd : UInt32 := 2
/-- The flag of a block that joins two subtrees. -/
def parent : UInt32 := 4
/-- The flag of the compression that gives the digest. -/
def root : UInt32 := 8

/-- The bytes in a block. -/
def blockBytes : Nat := 64
/-- The bytes in a chunk. -/
def chunkBytes : Nat := 1024

/-- The word with its bits moved right, those that fall off coming in on the left. -/
def rotateRight (word : UInt32) (amount : UInt32) : UInt32 :=
  (word >>> amount) ||| (word <<< (32 - amount))

/-- Mix two words of the block into four words of the state. -/
def mix (state : Block) (a b c d : Fin 16) (first second : UInt32) : Block :=
  let a₁ := state[a] + state[b] + first
  let d₁ := rotateRight (state[d] ^^^ a₁) 16
  let c₁ := state[c] + d₁
  let b₁ := rotateRight (state[b] ^^^ c₁) 12
  let a₂ := a₁ + b₁ + second
  let d₂ := rotateRight (d₁ ^^^ a₂) 8
  let c₂ := c₁ + d₂
  let b₂ := rotateRight (b₁ ^^^ c₂) 7
  (((state.set a a₂).set b b₂).set c c₂).set d d₂

/-- One round: the columns of the state, then its diagonals. -/
def mixAll (state block : Block) : Block :=
  let state := mix state 0 4 8 12 block[0] block[1]
  let state := mix state 1 5 9 13 block[2] block[3]
  let state := mix state 2 6 10 14 block[4] block[5]
  let state := mix state 3 7 11 15 block[6] block[7]
  let state := mix state 0 5 10 15 block[8] block[9]
  let state := mix state 1 6 11 12 block[10] block[11]
  let state := mix state 2 7 8 13 block[12] block[13]
  mix state 3 4 9 14 block[14] block[15]

/-- The order in which a round takes the words of the round before. -/
def permute (block : Block) : Block :=
  #v[block[2], block[6], block[3], block[10], block[7], block[0], block[4], block[13],
    block[1], block[11], block[12], block[5], block[9], block[14], block[15], block[8]]

/-- Several rounds, each on the block as permuted since the first. -/
def rounds : Nat → Block → Block → Block
  | 0, state, _ => state
  | more + 1, state, block => rounds more (mixAll state block) (permute block)

/-- A compression that is still to be done, so that the root can be told apart. -/
structure Node where
  chaining : Chaining
  block : Block
  counter : UInt64
  length : UInt32
  flags : UInt32

/-- The eight words that a node compresses to, with some more flags. -/
def Node.compress (node : Node) (more : UInt32) : Chaining :=
  let start : Block :=
    #v[node.chaining[0], node.chaining[1], node.chaining[2], node.chaining[3],
      node.chaining[4], node.chaining[5], node.chaining[6], node.chaining[7],
      initial[0], initial[1], initial[2], initial[3],
      node.counter.toUInt32, (node.counter >>> 32).toUInt32, node.length, node.flags ||| more]
  let state := rounds 7 start node.block
  Vector.ofFn fun i : Fin 8 => state[i.val] ^^^ state[i.val + 8]

/-- The pieces of a list with `size + 1` elements each, the last one possibly shorter. -/
def pieces {α : Type} (size : Nat) : List α → List (List α)
  | [] => []
  | first :: rest =>
    (first :: rest.take size) :: pieces size (rest.drop size)
termination_by list => list.length
decreasing_by simp only [List.length_drop, List.length_cons]; omega

/-- The word that starts at a byte, least significant byte first; missing bytes are zero. -/
def wordAt (bytes : Array UInt8) (index : Nat) : UInt32 :=
  (bytes.getD index 0).toUInt32 ||| ((bytes.getD (index + 1) 0).toUInt32 <<< 8) |||
    ((bytes.getD (index + 2) 0).toUInt32 <<< 16) ||| ((bytes.getD (index + 3) 0).toUInt32 <<< 24)

/-- The words of at most 64 bytes, filled up with zeros. -/
def blockOf (bytes : List UInt8) : Block :=
  let bytes := bytes.toArray
  Vector.ofFn fun i : Fin 16 => wordAt bytes (4 * i.val)

/-- The node of a chunk whose blocks are still to be compressed, given its first ones' words. -/
def chunkNodeFrom (counter : UInt64) (chaining : Chaining) (start : UInt32) :
    List (List UInt8) → Node
  | [] => ⟨chaining, blockOf [], counter, 0, start ||| chunkEnd⟩
  | [last] => ⟨chaining, blockOf last, counter, last.length.toUInt32, start ||| chunkEnd⟩
  | block :: blocks =>
    let node : Node := ⟨chaining, blockOf block, counter, block.length.toUInt32, start⟩
    chunkNodeFrom counter (node.compress 0) 0 blocks

/-- The node of one chunk, counted from zero. -/
def chunkNode (counter : Nat) (chunk : List UInt8) : Node :=
  chunkNodeFrom counter.toUInt64 initial chunkStart (pieces (blockBytes - 1) chunk)

/-- The node that joins two subtrees. -/
def parentNode (left right : Chaining) : Node :=
  ⟨initial, Vector.ofFn fun i : Fin 16 => (left ++ right)[i], 0, blockBytes.toUInt32, parent⟩

/-- The largest power of two below a number of chunks that is at least two. -/
def leftCount (chunks : Nat) : Nat := Nat.pow 2 (chunks - 1).log2

/-- The left subtree is not empty. -/
theorem leftCount_pos (chunks : Nat) : 0 < leftCount chunks := Nat.two_pow_pos _

/-- The left subtree leaves chunks for the right one. -/
theorem leftCount_lt {chunks : Nat} (several : 2 ≤ chunks) : leftCount chunks < chunks := by
  have below : leftCount chunks ≤ chunks - 1 := Nat.log2_self_le (by omega)
  omega

/-- The node of a subtree over consecutive chunks, the first of which has number `counter`. -/
def treeNode (counter : Nat) (chunks : List (List UInt8)) : Node :=
  match chunks with
  | [] => chunkNode counter []
  | [chunk] => chunkNode counter chunk
  | first :: second :: rest =>
    let all := first :: second :: rest
    let count := leftCount all.length
    parentNode ((treeNode counter (all.take count)).compress 0)
      ((treeNode (counter + count) (all.drop count)).compress 0)
termination_by chunks.length
decreasing_by
  · have below : leftCount (rest.length + 1 + 1) < rest.length + 1 + 1 :=
      leftCount_lt (by omega)
    simp only [List.length_take, List.length_cons]
    omega
  · have positive := leftCount_pos (rest.length + 1 + 1)
    simp only [List.length_drop, List.length_cons]
    omega

/-- The two digits of a byte in lower-case hexadecimal. -/
def byteDigits (byte : UInt8) : List Char :=
  [Nat.digitChar (byte.toNat / 16), Nat.digitChar (byte.toNat % 16)]

/-- The digits of a word, least significant byte first. -/
def wordDigits (word : UInt32) : List Char :=
  byteDigits word.toUInt8 ++ byteDigits (word >>> 8).toUInt8 ++
    byteDigits (word >>> 16).toUInt8 ++ byteDigits (word >>> 24).toUInt8

/-- The digest of some bytes, as 64 hexadecimal digits. -/
def hex (bytes : List UInt8) : String :=
  let digest := (treeNode 0 (pieces (chunkBytes - 1) bytes)).compress root
  String.ofList (digest.toList.flatMap wordDigits)

end FleetPlan.Blake3

namespace FleetPlan

/-- The digest of a text: the BLAKE3 digest of its UTF-8 bytes in hexadecimal. -/
def contentDigest (contents : String) : String :=
  Blake3.hex contents.toUTF8.toList

end FleetPlan
