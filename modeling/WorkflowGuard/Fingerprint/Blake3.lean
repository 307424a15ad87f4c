import WorkflowGuard.Text.Utf8

/-!
# The BLAKE3 hash

The input is cut into chunks of 1024 octets, each chunk into blocks of 64. The blocks of a
chunk are compressed one after another; the chunks are the leaves of a binary tree whose left
subtrees are complete. The node at the root is compressed once more with a flag of its own, and
the first eight words of that are the hash.
-/

namespace WorkflowGuard.Blake3

/-- A chaining value, and the hash itself. -/
abbrev Words := Vector UInt32 8

/-- A message block, and the state of the compression. -/
abbrev Block := Vector UInt32 16

def initial : Words :=
  #v[0x6A09E667, 0xBB67AE85, 0x3C6EF372, 0xA54FF53A, 0x510E527F, 0x9B05688C, 0x1F83D9AB,
    0x5BE0CD19]

/-- The order in which a round leaves the words of the message to the next round. -/
def schedule : Vector (Fin 16) 16 :=
  #v[2, 6, 3, 10, 7, 0, 4, 13, 1, 11, 12, 5, 9, 14, 15, 8]

/-- Rotation to the right by an amount between 1 and 31. -/
def rotateRight (word : UInt32) (amount : UInt32) : UInt32 :=
  (word >>> amount) ||| (word <<< (32 - amount))

/-- The quarter round: mixes two words of the message into four words of the state. -/
def mix (state : Block) (a b c d : Fin 16) (x y : UInt32) : Block :=
  let a₁ := state[a] + state[b] + x
  let d₁ := rotateRight (state[d] ^^^ a₁) 16
  let c₁ := state[c] + d₁
  let b₁ := rotateRight (state[b] ^^^ c₁) 12
  let a₂ := a₁ + b₁ + y
  let d₂ := rotateRight (d₁ ^^^ a₂) 8
  let c₂ := c₁ + d₂
  let b₂ := rotateRight (b₁ ^^^ c₂) 7
  (((state.set a a₂).set b b₂).set c c₂).set d d₂

/-- One round: the columns of the state, then its diagonals. -/
def round (state : Block) (message : Block) : Block :=
  let state := mix state 0 4 8 12 message[0] message[1]
  let state := mix state 1 5 9 13 message[2] message[3]
  let state := mix state 2 6 10 14 message[4] message[5]
  let state := mix state 3 7 11 15 message[6] message[7]
  let state := mix state 0 5 10 15 message[8] message[9]
  let state := mix state 1 6 11 12 message[10] message[11]
  let state := mix state 2 7 8 13 message[12] message[13]
  mix state 3 4 9 14 message[14] message[15]

/-- The message as the next round sees it. -/
def permute (message : Block) : Block :=
  schedule.map fun index => message[index]

def rounds : Nat → Block → Block → Block
  | 0, state, _ => state
  | count + 1, state, message => rounds count (round state message) (permute message)

/-- What is left to do for a node of the tree: one compression. -/
structure Pending where
  chaining : Words
  message : Block
  counter : UInt64
  length : UInt32
  flags : UInt32

/-- The first block of a chunk. -/
def chunkStart : UInt32 := 1

/-- The last block of a chunk. -/
def chunkEnd : UInt32 := 2

/-- A node with two children. -/
def parentNode : UInt32 := 4

/-- The root of the tree. -/
def rootNode : UInt32 := 8

/-- The first half of the compressed state, with further flags. -/
def Pending.compress (pending : Pending) (flags : UInt32) : Words :=
  let cv := pending.chaining
  let state : Block := #v[cv[0], cv[1], cv[2], cv[3], cv[4], cv[5], cv[6], cv[7], initial[0],
    initial[1], initial[2], initial[3], pending.counter.toUInt32,
    (pending.counter >>> 32).toUInt32, pending.length, pending.flags ||| flags]
  let final := rounds 7 state pending.message
  #v[final[0] ^^^ final[8], final[1] ^^^ final[9], final[2] ^^^ final[10],
    final[3] ^^^ final[11], final[4] ^^^ final[12], final[5] ^^^ final[13],
    final[6] ^^^ final[14], final[7] ^^^ final[15]]

/-- The list cut into pieces of `size + 1` items, of which only the last may be shorter. -/
def pieces {α : Type} (size : Nat) (items : List α) : List (List α) :=
  if items.length ≤ size + 1 then [items]
  else items.take (size + 1) :: pieces size (items.drop (size + 1))
termination_by items.length
decreasing_by simp only [List.length_drop]; omega

/-- The words of a block, little-endian, with zeros after the end. -/
def blockWords (bytes : Bytes) : Block :=
  Vector.ofFn fun index =>
    let octet (offset : Nat) : UInt32 := (bytes.getD (4 * index.val + offset) 0).toUInt32
    octet 0 ||| (octet 1 <<< 8) ||| (octet 2 <<< 16) ||| (octet 3 <<< 24)

/-- The last block of a chunk, after the blocks before it have been compressed. -/
def chunkPending (counter : UInt64) (chaining : Words) (flags : UInt32) : List Bytes → Pending
  | [] => ⟨chaining, blockWords [], counter, 0, flags ||| chunkEnd⟩
  | [last] => ⟨chaining, blockWords last, counter, last.length.toUInt32, flags ||| chunkEnd⟩
  | block :: rest =>
    let pending : Pending :=
      ⟨chaining, blockWords block, counter, block.length.toUInt32, flags⟩
    chunkPending counter (pending.compress 0) 0 rest

def chunkLeaf (counter : Nat) (chunk : Bytes) : Pending :=
  chunkPending counter.toUInt64 initial chunkStart (pieces 63 chunk)

def parent (left right : Words) : Pending where
  chaining := initial
  message := left ++ right
  counter := 0
  length := 64
  flags := parentNode

/-- The size of the left subtree: the greatest power of two below the number of leaves. -/
def leftLeaves (leaves : Nat) : Nat :=
  Nat.pow 2 (leaves - 1).log2

theorem leftLeaves_lt (leaves : Nat) (several : 2 ≤ leaves) : leftLeaves leaves < leaves := by
  have bound : Nat.pow 2 (leaves - 1).log2 ≤ leaves - 1 := Nat.log2_self_le (by omega)
  unfold leftLeaves
  omega

theorem leftLeaves_pos (leaves : Nat) : 0 < leftLeaves leaves :=
  Nat.two_pow_pos _

/-- The root of the tree over a list of chunks, the first of which has the given number. -/
def tree (first : Nat) (chunks : List Bytes) : Pending :=
  match chunks with
  | [] => chunkLeaf first []
  | [chunk] => chunkLeaf first chunk
  | one :: two :: rest =>
    let all := one :: two :: rest
    let size := leftLeaves all.length
    parent ((tree first (all.take size)).compress 0)
      ((tree (first + size) (all.drop size)).compress 0)
termination_by chunks.length
decreasing_by
  · have := leftLeaves_lt (one :: two :: rest).length (by simp)
    simp only [List.length_take]
    omega
  · have := leftLeaves_pos (one :: two :: rest).length
    simp only [List.length_drop]
    simp only [List.length_cons] at *
    omega

def hash (bytes : Bytes) : Words :=
  (tree 0 (pieces 1023 bytes)).compress rootNode

end WorkflowGuard.Blake3
