import TenantAuth.Hash.Block

/-!
The hash with 64-bit words and up to 64 bytes of output, without key, salt or personal string.

Twelve rounds mix sixteen words by columns and then by diagonals; each round takes the words of the
block in an order of its own.
-/

namespace TenantAuth.Hash.Blake2b

/-- The fraction bits that start the chaining value and enter every block. -/
def initialWords : Array UInt64 := #[
  0x6a09e667f3bcc908, 0xbb67ae8584caa73b, 0x3c6ef372fe94f82b, 0xa54ff53a5f1d36f1,
  0x510e527fade682d1, 0x9b05688c2b3e6c1f, 0x1f83d9abfb41bd6b, 0x5be0cd19137e2179]

/-- The order in which each round takes the words of the block. -/
def wordOrders : List (List Nat) := [
  [0, 1, 2, 3, 4, 5, 6, 7, 8, 9, 10, 11, 12, 13, 14, 15],
  [14, 10, 4, 8, 9, 15, 13, 6, 1, 12, 0, 2, 11, 7, 5, 3],
  [11, 8, 12, 0, 5, 2, 15, 13, 10, 14, 3, 6, 7, 1, 9, 4],
  [7, 9, 3, 1, 13, 12, 11, 14, 2, 6, 5, 10, 4, 0, 15, 8],
  [9, 0, 5, 7, 2, 4, 10, 15, 14, 1, 11, 12, 6, 8, 3, 13],
  [2, 12, 6, 10, 0, 11, 8, 3, 4, 13, 7, 5, 15, 14, 1, 9],
  [12, 5, 1, 15, 14, 13, 4, 10, 0, 7, 6, 3, 9, 2, 8, 11],
  [13, 11, 7, 14, 12, 1, 3, 9, 5, 0, 15, 4, 8, 6, 2, 10],
  [6, 15, 14, 9, 11, 3, 0, 8, 12, 2, 13, 7, 1, 4, 10, 5],
  [10, 2, 8, 4, 7, 6, 1, 5, 15, 11, 9, 14, 3, 12, 13, 0],
  [0, 1, 2, 3, 4, 5, 6, 7, 8, 9, 10, 11, 12, 13, 14, 15],
  [14, 10, 4, 8, 9, 15, 13, 6, 1, 12, 0, 2, 11, 7, 5, 3]]

/-- The places of the four words of each mixing step: columns, then diagonals. -/
def mixPlaces : List (Nat × Nat × Nat × Nat) := [
  (0, 4, 8, 12), (1, 5, 9, 13), (2, 6, 10, 14), (3, 7, 11, 15),
  (0, 5, 10, 15), (1, 6, 11, 12), (2, 7, 8, 13), (3, 4, 9, 14)]

/-- A word rotated right. -/
def rotateRight64 (w : UInt64) (n : UInt64) : UInt64 := (w >>> n) ||| (w <<< (64 - n))

/-- The word at a place. -/
def wordAt (words : Array UInt64) (i : Nat) : UInt64 := words.getD i 0

/-- One mixing step with two words of the block. -/
def mix (v : Array UInt64) (places : Nat × Nat × Nat × Nat) (x y : UInt64) : Array UInt64 :=
  let (pa, pb, pc, pd) := places
  let a := wordAt v pa + wordAt v pb + x
  let d := rotateRight64 (wordAt v pd ^^^ a) 32
  let c := wordAt v pc + d
  let b := rotateRight64 (wordAt v pb ^^^ c) 24
  let a := a + b + y
  let d := rotateRight64 (d ^^^ a) 16
  let c := c + d
  let b := rotateRight64 (b ^^^ c) 63
  (((v.setIfInBounds pa a).setIfInBounds pb b).setIfInBounds pc c).setIfInBounds pd d

/-- One round over the sixteen words, taking the block in the given order. -/
def round (block : Array UInt64) (v : Array UInt64) (order : List Nat) : Array UInt64 :=
  (mixPlaces.zip (pieces 2 order)).foldl (fun v step =>
    mix v step.1 (wordAt block (step.2.headD 0)) (wordAt block (step.2.getLastD 0))) v

/-- A word from bytes, least significant first. -/
def word64 (bytes : List UInt8) : UInt64 := bytes.foldr (fun b w => w <<< 8 ||| b.toUInt64) 0

/-- The eight bytes of a word, least significant first. -/
def bytes64 (w : UInt64) : List UInt8 :=
  ([0, 8, 16, 24, 32, 40, 48, 56] : List UInt64).map fun shift => (w >>> shift).toUInt8

/-- Take in one block, when `count` bytes have been taken in with it. -/
def absorb (h : Array UInt64) (count : Nat) (isLast : Bool) (block : List UInt8) : Array UInt64 :=
  let words := ((pieces 8 (block ++ List.replicate (128 - block.length) 0)).map word64).toArray
  let low := UInt64.ofNat (count % Nat.pow 2 64)
  let high := UInt64.ofNat (count / Nat.pow 2 64)
  let v := h ++ initialWords
  let v := (v.setIfInBounds 12 (wordAt v 12 ^^^ low)).setIfInBounds 13 (wordAt v 13 ^^^ high)
  let v := if isLast then v.setIfInBounds 14 (~~~(wordAt v 14)) else v
  let mixed := wordOrders.foldl (round words) v
  Array.ofFn fun i : Fin 8 => wordAt h i ^^^ wordAt mixed i ^^^ wordAt mixed (i + 8)

/-- Take in blocks after `count` bytes; the last one is marked. -/
def absorbAll (h : Array UInt64) (count : Nat) : List (List UInt8) → Array UInt64
  | [] => h
  | [block] => absorb h (count + block.length) true block
  | block :: rest =>
    absorbAll (absorb h (count + block.length) false block) (count + block.length) rest

/-- The digest of a message, `size` bytes long, for `size` from 1 to 64. -/
def digest (size : Nat) (message : List UInt8) : List UInt8 :=
  let h := initialWords.setIfInBounds 0 (wordAt initialWords 0 ^^^ 0x01010000 ^^^ UInt64.ofNat size)
  let blocks := if message.isEmpty then [[]] else pieces 128 message
  ((absorbAll h 0 blocks).toList.flatMap bytes64).take size

end TenantAuth.Hash.Blake2b
