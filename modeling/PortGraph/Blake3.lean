/-!
# The BLAKE3 digest

The unkeyed 256-bit digest of a byte string. The input is cut into chunks of 1024 bytes, a chunk
into blocks of 64; each chunk is compressed block by block into a chaining value, and the chaining
values are joined in pairs up to a root, an odd one out moving up a level as it is. The last
compression of the root is the digest.

## Main definitions

* `Blake3.compress`: the compression function, seven rounds over sixteen words
* `Blake3.chunkNode`, `Blake3.root`: the tree
* `Blake3.hex`: the digest in lowercase hexadecimal
-/

namespace PortGraph.Blake3

/-! ### Compression -/

/-- The initial chaining value. -/
def initial : Array UInt32 :=
  #[0x6A09E667, 0xBB67AE85, 0x3C6EF372, 0xA54FF53A, 0x510E527F, 0x9B05688C, 0x1F83D9AB, 0x5BE0CD19]

/-- The order in which the next round takes the words of the message. -/
def schedule : Array Nat := #[2, 6, 3, 10, 7, 0, 4, 13, 1, 11, 12, 5, 9, 14, 15, 8]

/-- First block of a chunk. -/
def chunkStart : UInt32 := 1

/-- Last block of a chunk. -/
def chunkEnd : UInt32 := 2

/-- Inner node of the tree. -/
def parent : UInt32 := 4

/-- Root of the tree. -/
def isRoot : UInt32 := 8

/-- A word of an array, zero outside. -/
def word (a : Array UInt32) (i : Nat) : UInt32 := a.getD i 0

/-- Rotation to the right. -/
def rotate (x : UInt32) (n : UInt32) : UInt32 := (x >>> n) ||| (x <<< (32 - n))

/-- The quarter round on the words `a`, `b`, `c`, `d` of the state, mixing in two message words. -/
def mix (v : Array UInt32) (a b c d : Nat) (x y : UInt32) : Array UInt32 :=
  let va := word v a + word v b + x
  let vd := rotate (word v d ^^^ va) 16
  let vc := word v c + vd
  let vb := rotate (word v b ^^^ vc) 12
  let va := va + vb + y
  let vd := rotate (vd ^^^ va) 8
  let vc := vc + vd
  let vb := rotate (vb ^^^ vc) 7
  (((v.setIfInBounds a va).setIfInBounds b vb).setIfInBounds c vc).setIfInBounds d vd

/-- One round: the columns, then the diagonals. -/
def round (v m : Array UInt32) : Array UInt32 :=
  let v := mix v 0 4 8 12 (word m 0) (word m 1)
  let v := mix v 1 5 9 13 (word m 2) (word m 3)
  let v := mix v 2 6 10 14 (word m 4) (word m 5)
  let v := mix v 3 7 11 15 (word m 6) (word m 7)
  let v := mix v 0 5 10 15 (word m 8) (word m 9)
  let v := mix v 1 6 11 12 (word m 10) (word m 11)
  let v := mix v 2 7 8 13 (word m 12) (word m 13)
  mix v 3 4 9 14 (word m 14) (word m 15)

/-- The given number of rounds, with the message permuted in between. -/
def rounds : Nat → Array UInt32 → Array UInt32 → Array UInt32
  | 0, v, _ => v
  | n + 1, v, m => rounds n (round v m) (schedule.map (word m))

/-- The input of one compression. -/
structure Node where
  chaining : Array UInt32
  block : Array UInt32
  counter : UInt64
  length : UInt32
  flags : UInt32

/-- The first eight words that a compression yields, the next chaining value. -/
def compress (n : Node) : Array UInt32 :=
  let state := n.chaining ++ initial.take 4 ++
    #[n.counter.toUInt32, (n.counter >>> 32).toUInt32, n.length, n.flags]
  let v := rounds 7 state n.block
  (Array.range 8).map fun i => word v i ^^^ word v (i + 8)

/-! ### Chunks -/

/-- Four bytes as a word, the first the lowest; missing bytes are zero. -/
def wordOfBytes (bytes : List UInt8) : UInt32 :=
  bytes.foldr (fun b w => (w <<< 8) ||| b.toUInt32) 0

/-- A list in pieces of `n + 1`, the last one shorter. -/
def pieces {α : Type} (n : Nat) (l : List α) : List (List α) :=
  match l with
  | [] => []
  | a :: rest => (a :: rest.take n) :: pieces n (rest.drop n)
termination_by l.length
decreasing_by
  simp only [List.length_drop, List.length_cons]
  omega

/-- The words of a block of 64 bytes. -/
def blockWords (bytes : List UInt8) : Array UInt32 :=
  let words := ((pieces 3 bytes).map wordOfBytes).toArray
  words ++ Array.replicate (16 - words.size) 0

/-- The last compression of a chunk, whose blocks before it have been folded into `chaining`. -/
def chunkFrom (counter : UInt64) (flags : UInt32) (chaining : Array UInt32) :
    List (List UInt8) → Node
  | [] => ⟨chaining, blockWords [], counter, 0, flags ||| chunkEnd⟩
  | [b] => ⟨chaining, blockWords b, counter, UInt32.ofNat b.length, flags ||| chunkEnd⟩
  | b :: c :: rest =>
    chunkFrom counter 0
      (compress ⟨chaining, blockWords b, counter, UInt32.ofNat b.length, flags⟩) (c :: rest)

/-- The last compression of the chunk with the given number. -/
def chunkNode (number : Nat) (bytes : List UInt8) : Node :=
  chunkFrom (UInt64.ofNat number) chunkStart initial (pieces 63 bytes)

/-! ### The tree -/

/-- The node above two others. -/
def join (left right : Node) : Node :=
  ⟨initial, compress left ++ compress right, 0, 64, parent⟩

/-- One level up: nodes joined in pairs, an odd one out as it is. -/
def joinPairs : List Node → List Node
  | a :: b :: rest => join a b :: joinPairs rest
  | l => l

theorem joinPairs_length_le : ∀ l : List Node, (joinPairs l).length ≤ l.length
  | [] => by simp [joinPairs]
  | [_] => by simp [joinPairs]
  | _ :: _ :: rest => by
    have := joinPairs_length_le rest
    simp [joinPairs]
    omega

/-- The node above all of a list that starts with `first`. -/
def root (first : Node) (rest : List Node) : Node :=
  match rest with
  | [] => first
  | b :: rest => root (join first b) (joinPairs rest)
termination_by rest.length
decreasing_by
  have := joinPairs_length_le rest
  simp
  omega

/-- The compression whose result is the digest. -/
def rootNode (bytes : List UInt8) : Node :=
  let nodes := (pieces 1023 bytes).zipIdx.map fun (chunk, i) => chunkNode i chunk
  let top := match nodes with
    | [] => chunkNode 0 []
    | first :: rest => root first rest
  { top with flags := top.flags ||| isRoot }

/-! ### Text -/

/-- The hexadecimal digits of a byte. -/
def byteHex (b : UInt8) : List Char :=
  [Nat.digitChar (b.toNat / 16), Nat.digitChar (b.toNat % 16)]

/-- The bytes of a word, the lowest first, in hexadecimal. -/
def wordHex (w : UInt32) : List Char :=
  byteHex w.toUInt8 ++ byteHex (w >>> 8).toUInt8 ++ byteHex (w >>> 16).toUInt8 ++
    byteHex (w >>> 24).toUInt8

/-- The digest of a byte string in lowercase hexadecimal. -/
def hex (bytes : List UInt8) : String :=
  String.ofList ((compress (rootNode bytes)).toList.flatMap wordHex)

end PortGraph.Blake3
