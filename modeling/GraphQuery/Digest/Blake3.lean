/-!
# The BLAKE3 hash

`Blake3.hash` maps a sequence of bytes to 32 bytes. The input is cut into chunks of 1024 bytes, a chunk into blocks of
64 bytes; the blocks of a chunk are compressed one after the other, and the chunks are joined by a binary tree whose
left subtrees are full.
-/

namespace GraphQuery

/-- The 32 bytes of a hash. -/
structure Fingerprint where
  bytes : List UInt8
deriving DecidableEq, Inhabited

namespace Fingerprint

/-- The two hexadecimal digits of a byte. -/
def byteDigits (byte : UInt8) : List Char :=
  [Nat.digitChar (byte.toNat / 16), Nat.digitChar (byte.toNat % 16)]

/-- All bytes in hexadecimal digits. -/
def hex (fingerprint : Fingerprint) : String := String.ofList (fingerprint.bytes.flatMap byteDigits)

/-- The first eight bytes in hexadecimal digits, as shown in messages. -/
def text (fingerprint : Fingerprint) : String := String.ofList ((fingerprint.bytes.take 8).flatMap byteDigits)

end Fingerprint

namespace Blake3

/-! ## Compression -/

/-- The initial chaining value. -/
def initial : Vector UInt32 8 :=
  #v[0x6A09E667, 0xBB67AE85, 0x3C6EF372, 0xA54FF53A, 0x510E527F, 0x9B05688C, 0x1F83D9AB, 0x5BE0CD19]

/-- The order in which the words of a block enter the next round. -/
def permutation : Vector (Fin 16) 16 := #v[2, 6, 3, 10, 7, 0, 4, 13, 1, 11, 12, 5, 9, 14, 15, 8]

/-- Rotates a word to the right. -/
def rotate (word count : UInt32) : UInt32 := (word >>> count) ||| (word <<< (32 - count))

/-- Mixes two words of a block into four words of the state. -/
def mix (state : Vector UInt32 16) (a b c d : Fin 16) (x y : UInt32) : Vector UInt32 16 :=
  let state := state.set a (state[a] + state[b] + x)
  let state := state.set d (rotate (state[d] ^^^ state[a]) 16)
  let state := state.set c (state[c] + state[d])
  let state := state.set b (rotate (state[b] ^^^ state[c]) 12)
  let state := state.set a (state[a] + state[b] + y)
  let state := state.set d (rotate (state[d] ^^^ state[a]) 8)
  let state := state.set c (state[c] + state[d])
  state.set b (rotate (state[b] ^^^ state[c]) 7)

/-- Mixes a block into the columns and the diagonals of the state. -/
def round (state block : Vector UInt32 16) : Vector UInt32 16 :=
  let state := mix state 0 4 8 12 block[0] block[1]
  let state := mix state 1 5 9 13 block[2] block[3]
  let state := mix state 2 6 10 14 block[4] block[5]
  let state := mix state 3 7 11 15 block[6] block[7]
  let state := mix state 0 5 10 15 block[8] block[9]
  let state := mix state 1 6 11 12 block[10] block[11]
  let state := mix state 2 7 8 13 block[12] block[13]
  mix state 3 4 9 14 block[14] block[15]

/-- Several rounds, the block being permuted after each. -/
def rounds : Nat → Vector UInt32 16 → Vector UInt32 16 → Vector UInt32 16
  | 0, state, _ => state
  | n + 1, state, block => rounds n (round state block) (permutation.map fun i => block[i])

/-- What is compressed into a chaining value: a block of a chunk, or two chaining values. -/
structure Node where
  chaining : Vector UInt32 8
  block : Vector UInt32 16
  /-- The number of the chunk. -/
  counter : Nat
  /-- The number of bytes in the block. -/
  length : Nat
  flags : UInt32

/-- The flag of the first block of a chunk. -/
def chunkStart : UInt32 := 1

/-- The flag of the last block of a chunk. -/
def chunkEnd : UInt32 := 2

/-- The flag of a node that joins two others. -/
def parent : UInt32 := 4

/-- The flag of the topmost node. -/
def root : UInt32 := 8

/-- The chaining value of a node. -/
def Node.compress (node : Node) : Vector UInt32 8 :=
  let position : Vector UInt32 4 :=
    #v[UInt32.ofNat node.counter, UInt32.ofNat (node.counter / 0x100000000), UInt32.ofNat node.length, node.flags]
  let mixed := rounds 7 (node.chaining ++ initial.take 4 ++ position) node.block
  Vector.ofFn fun i : Fin 8 => mixed[i.val] ^^^ mixed[i.val + 8]

/-! ## Chunks -/

/-- The pieces of the given size; the last may be shorter, and an empty list is one empty piece. -/
def pieces (size : Nat) (bytes : List UInt8) : List (List UInt8) :=
  (List.range (max 1 ((bytes.length + size - 1) / size))).map fun i => (bytes.drop (i * size)).take size

/-- The words of a block, lowest byte first; missing bytes are zero. -/
def blockWords (bytes : List UInt8) : Vector UInt32 16 :=
  let bytes := bytes.toArray
  let byte (i : Nat) : UInt32 := (bytes.getD i 0).toUInt32
  Vector.ofFn fun i : Fin 16 =>
    byte (4 * i) ||| (byte (4 * i + 1) <<< 8) ||| (byte (4 * i + 2) <<< 16) ||| (byte (4 * i + 3) <<< 24)

/-- The node of the last block of a chunk, the earlier ones compressed into its chaining value. -/
def chunkFrom (counter : Nat) (chaining : Vector UInt32 8) (flags : UInt32) : List (List UInt8) → Node
  | [] => ⟨chaining, blockWords [], counter, 0, flags ||| chunkEnd⟩
  | [block] => ⟨chaining, blockWords block, counter, block.length, flags ||| chunkEnd⟩
  | block :: rest =>
    chunkFrom counter (Node.compress ⟨chaining, blockWords block, counter, block.length, flags⟩) 0 rest

/-- The node of a chunk. -/
def chunk (counter : Nat) (bytes : List UInt8) : Node := chunkFrom counter initial chunkStart (pieces 64 bytes)

/-! ## The tree -/

/-- The node that joins two others. -/
def join (left right : Node) : Node := ⟨initial, left.compress ++ right.compress, 0, 64, parent⟩

/-- Joins neighbours; a last node without a neighbour stays as it is. -/
def joinNeighbours : List Node → List Node
  | left :: right :: rest => join left right :: joinNeighbours rest
  | nodes => nodes

/-- Joins neighbours until one node is left; every level halves their number. -/
def top : (levels : Nat) → Node → List Node → Node
  | _, node, [] => node
  | 0, node, _ => node
  | levels + 1, node, rest =>
    match joinNeighbours (node :: rest) with
    | node :: rest => top levels node rest
    | [] => node

/-- The hash of a sequence of bytes. -/
def hash (bytes : List UInt8) : Fingerprint :=
  let chunks := (pieces 1024 bytes).zipIdx.map fun (piece, i) => chunk i piece
  let node :=
    match chunks with
    | first :: rest => top chunks.length first rest
    | [] => chunk 0 []
  let words := Node.compress { node with flags := node.flags ||| root }
  ⟨words.toList.flatMap fun (w : UInt32) => [w.toUInt8, (w >>> 8).toUInt8, (w >>> 16).toUInt8, (w >>> 24).toUInt8]⟩

end Blake3

end GraphQuery
