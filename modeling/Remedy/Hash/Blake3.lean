/-!
# Blake3 — a 256 bit hash of bytes

The bytes are cut into chunks of 1024 and each chunk into blocks of 64.  The blocks of a chunk are compressed one
after the other; the chunks are the leaves of a binary tree whose left side is always complete, and each inner node
compresses the two values below it.  Flags tell the first and last block of a chunk, the inner nodes and the root
apart.
-/
namespace Remedy.Blake3

/-- Eight words: the value of a node. -/
abbrev Chain := Array UInt32

/-- The value that every chunk and every inner node starts from. -/
def start : Chain :=
  #[0x6A09E667, 0xBB67AE85, 0x3C6EF372, 0xA54FF53A, 0x510E527F, 0x9B05688C, 0x1F83D9AB, 0x5BE0CD19]

/-- The order in which a round takes the words of the block of the round before. -/
def order : Array Nat := #[2, 6, 3, 10, 7, 0, 4, 13, 1, 11, 12, 5, 9, 14, 15, 8]

def chunkStart : UInt32 := 1

def chunkEnd : UInt32 := 2

def parent : UInt32 := 4

def root : UInt32 := 8

def rotate (x : UInt32) (n : UInt32) : UInt32 := (x >>> n) ||| (x <<< (32 - n))

def word (v : Array UInt32) (i : Nat) : UInt32 := v.getD i 0

/-- Mixes two words of the block into four words of the state. -/
def mix (v : Array UInt32) (a b c d : Nat) (x y : UInt32) : Array UInt32 :=
  let va := word v a + word v b + x
  let vd := rotate (word v d ^^^ va) 16
  let vc := word v c + vd
  let vb := rotate (word v b ^^^ vc) 12
  let va := va + vb + y
  let vd := rotate (vd ^^^ va) 8
  let vc := vc + vd
  let vb := rotate (vb ^^^ vc) 7
  (((v.setIfInBounds a va).setIfInBounds b vb).setIfInBounds c vc).setIfInBounds d vd

/-- A round: the columns of the state, then its diagonals. -/
def round (v m : Array UInt32) : Array UInt32 :=
  let v := mix v 0 4 8 12 (word m 0) (word m 1)
  let v := mix v 1 5 9 13 (word m 2) (word m 3)
  let v := mix v 2 6 10 14 (word m 4) (word m 5)
  let v := mix v 3 7 11 15 (word m 6) (word m 7)
  let v := mix v 0 5 10 15 (word m 8) (word m 9)
  let v := mix v 1 6 11 12 (word m 10) (word m 11)
  let v := mix v 2 7 8 13 (word m 12) (word m 13)
  mix v 3 4 9 14 (word m 14) (word m 15)

def rounds : Nat → Array UInt32 → Array UInt32 → Array UInt32
  | 0, v, _ => v
  | n + 1, v, m => rounds n (round v m) (order.map (word m))

/-- **Compresses a block into a value.** -/
def compress (chain : Chain) (block : Array UInt32) (counter : Nat) (length flags : UInt32) : Chain :=
  let v := chain ++ start.extract 0 4 ++
    #[counter.toUInt32, (counter / 0x100000000).toUInt32, length, flags]
  let v := rounds 7 v block
  Array.ofFn fun i : Fin 8 => word v i ^^^ word v (i + 8)

/-- The word that four bytes make, the lowest first. -/
def ofBytes : List UInt8 → UInt32
  | [] => 0
  | b :: rest => b.toUInt32 ||| (ofBytes rest <<< 8)

/-- The sixteen words of a block of at most 64 bytes, filled up with zeros. -/
def words (block : List UInt8) : Array UInt32 :=
  Array.ofFn fun i : Fin 16 => ofBytes ((block.drop (4 * i)).take 4)

/-- A list cut into pieces of `n`, in at most `fuel` steps; the empty list is one empty piece. -/
def pieces (n : Nat) : Nat → List UInt8 → List (List UInt8)
  | 0, _ => []
  | fuel + 1, bytes => if bytes.length ≤ n then [bytes] else bytes.take n :: pieces n fuel (bytes.drop n)

/-- Compresses the blocks of a chunk; `flags` hold what tells the first block, `last` what the last one is told by
besides. -/
def blocks (chain : Chain) (counter : Nat) (flags last : UInt32) : List (List UInt8) → Chain
  | [] => chain
  | [b] => compress chain (words b) counter b.length.toUInt32 (flags ||| chunkEnd ||| last)
  | b :: rest => blocks (compress chain (words b) counter b.length.toUInt32 flags) counter 0 last rest

def chunk (counter : Nat) (flags : UInt32) (bytes : List UInt8) : Chain :=
  blocks start counter chunkStart flags (pieces 64 (bytes.length + 1) bytes)

/-- The greatest power of two below `n`, from `p` on. -/
def leftSize (n : Nat) : Nat → Nat → Nat
  | 0, p => p
  | fuel + 1, p => if 2 * p < n then leftSize n fuel (2 * p) else p

def tree : Nat → Nat → UInt32 → List (List UInt8) → Chain
  | _, counter, flags, [] => chunk counter flags []
  | _, counter, flags, [c] => chunk counter flags c
  | 0, counter, flags, c :: _ => chunk counter flags c
  | fuel + 1, counter, flags, chunks =>
    -- the left half is a full tree, and the counter of the right one goes on after it
    let k := leftSize chunks.length chunks.length 1
    let left := tree fuel counter 0 (chunks.take k)
    let right := tree fuel (counter + k) 0 (chunks.drop k)
    compress start (left ++ right) 0 64 (parent ||| flags)

/-- **The hash of bytes.** -/
def hash (bytes : List UInt8) : Chain :=
  let chunks := pieces 1024 (bytes.length + 1) bytes
  tree chunks.length 0 root chunks

def hexByte (n : Nat) : List Char := [Nat.digitChar (n / 16), Nat.digitChar (n % 16)]

def hexWord (w : UInt32) : List Char :=
  (List.range 4).flatMap fun i => hexByte (w.toNat / Nat.pow 256 i % 256)

/-- **The hash of bytes in hexadecimal digits.** -/
def hex (bytes : List UInt8) : String := String.ofList ((hash bytes).toList.flatMap hexWord)

end Remedy.Blake3
