/-! The BLAKE3 hash of a list of bytes, by its definition: chunks of 1024 bytes, each a chain of blocks
    of 64 bytes, and a binary tree over the chunks in which every left half is full. Only the first
    eight words of the output are produced. -/

namespace ProgramGraph.Blake3

abbrev Words := Array UInt32

/-- The words that every chain starts from. -/
def initial : Words :=
  #[0x6A09E667, 0xBB67AE85, 0x3C6EF372, 0xA54FF53A, 0x510E527F, 0x9B05688C, 0x1F83D9AB, 0x5BE0CD19]

/-- The order in which a round reads the message words of the round before. -/
def schedule : List Nat :=
  [2, 6, 3, 10, 7, 0, 4, 13, 1, 11, 12, 5, 9, 14, 15, 8]

def chunkStart : UInt32 := 1
def chunkEnd : UInt32 := 2
def parentFlag : UInt32 := 4
def rootFlag : UInt32 := 8

def rotateRight (x count : UInt32) : UInt32 :=
  (x >>> count) ||| (x <<< (32 - count))

/-- Mixes two message words into four words of the state. -/
def mix (v : Words) (a b c d : Nat) (x y : UInt32) : Words :=
  let va := v.getD a 0 + v.getD b 0 + x
  let vd := rotateRight (v.getD d 0 ^^^ va) 16
  let vc := v.getD c 0 + vd
  let vb := rotateRight (v.getD b 0 ^^^ vc) 12
  let va := va + vb + y
  let vd := rotateRight (vd ^^^ va) 8
  let vc := vc + vd
  let vb := rotateRight (vb ^^^ vc) 7
  (((v.setIfInBounds a va).setIfInBounds b vb).setIfInBounds c vc).setIfInBounds d vd

/-- The columns and diagonals of the state, in the order in which a round mixes them. -/
def lanes : List (Nat × Nat × Nat × Nat) :=
  [(0, 4, 8, 12), (1, 5, 9, 13), (2, 6, 10, 14), (3, 7, 11, 15),
    (0, 5, 10, 15), (1, 6, 11, 12), (2, 7, 8, 13), (3, 4, 9, 14)]

def round (v m : Words) : Words :=
  lanes.zipIdx.foldl (fun v ((a, b, c, d), i) => mix v a b c d (m.getD (2 * i) 0) (m.getD (2 * i + 1) 0)) v

def permute (m : Words) : Words :=
  (schedule.map fun i => m.getD i 0).toArray

/-- One application of the compression function; the result are the eight words that go on. -/
def compress (chain block : Words) (counter : Nat) (length flags : UInt32) : Words :=
  let state := chain ++ initial.take 4 ++
    #[UInt32.ofNat counter, UInt32.ofNat (counter >>> 32), length, flags]
  let (v, _) := (List.range 7).foldl (fun (v, m) _ => (round v m, permute m)) (state, block)
  ((List.range 8).map fun i => v.getD i 0 ^^^ v.getD (i + 8) 0).toArray

/-- Four bytes as a word, the least first. -/
def word : List UInt8 → UInt32
  | [] => 0
  | b :: bs => b.toUInt32 ||| (word bs <<< 8)

/-- Pieces of `size` bytes, the last one perhaps shorter; nothing has no piece. -/
def cut (size : Nat) (bytes : List UInt8) : List (List UInt8) :=
  let rec go : Nat → List UInt8 → List (List UInt8)
    | 0, _ => []
    | _, [] => []
    | n + 1, bs => bs.take size :: go n (bs.drop size)
  go bytes.length bytes

/-- The sixteen words of a block; a short block is filled up with zeros. -/
def blockWords (bytes : List UInt8) : Words :=
  let words := (cut 4 bytes).map word
  (words ++ List.replicate (16 - words.length) 0).toArray

/-- The chain of the blocks of one chunk. `last` are the flags that go to its last block. -/
def chunk (index : Nat) (last : UInt32) (bytes : List UInt8) : Words :=
  let blocks := match cut 64 bytes with
    | [] => [[]]
    | blocks => blocks
  blocks.zipIdx.foldl
    (fun chain (block, i) =>
      let first := if i = 0 then chunkStart else 0
      let final := if i + 1 = blocks.length then chunkEnd ||| last else 0
      compress chain (blockWords block) index (UInt32.ofNat block.length) (first ||| final))
    initial

def parent (flags : UInt32) (left right : Words) : Words :=
  compress initial (left ++ right) 0 64 (parentFlag ||| flags)

/-- Joins neighbours; the last one goes up alone when their number is odd. -/
def pairUp : List Words → List Words
  | a :: b :: rest => parent 0 a b :: pairUp rest
  | rest => rest

/-- The root over the nodes of one level. -/
def root : Nat → List Words → Words
  | _, [] => initial
  | _, [a] => a
  | _, [a, b] => parent rootFlag a b
  | 0, a :: _ => a
  | n + 1, level => root n (pairUp level)

def hash (bytes : List UInt8) : Words :=
  match cut 1024 bytes with
  | [] => chunk 0 rootFlag []
  | [one] => chunk 0 rootFlag one
  | chunks => root chunks.length (chunks.zipIdx.map fun (bytes, i) => chunk i 0 bytes)

def hexDigit (n : Nat) : Char :=
  if n < 10 then Char.ofNat (48 + n) else Char.ofNat (87 + n)

def hexByte (n : Nat) : List Char :=
  [hexDigit (n / 16), hexDigit (n % 16)]

/-- A word as eight hexadecimal digits, its bytes least first. -/
def hexWord (w : UInt32) : List Char :=
  let n := w.toNat
  [n, n >>> 8, n >>> 16, n >>> 24].flatMap fun b => hexByte (b % 256)

/-- The first eight bytes of the hash in hexadecimal. -/
def shortHex (bytes : List UInt8) : String :=
  String.ofList (((hash bytes).toList.take 2).flatMap hexWord)

end ProgramGraph.Blake3
