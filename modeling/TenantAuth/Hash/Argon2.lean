import TenantAuth.Hash.Blake2b

/-!
The memory-hard hash for passwords, in its three variants and two versions.

Memory is a matrix of blocks of 128 words: one row per lane, in four slices. Each block is
compressed from the one before it in its lane and one that an index points to. The index comes from
the block before, or, in the variants that hide the password from an observer of memory, from a
counter.
-/

namespace TenantAuth.Hash.Argon2

open Blake2b (wordAt rotateRight64)

/-- How the index of the second block is chosen. -/
inductive Variant
  | dependent
  | independent
  | hybrid
  deriving DecidableEq

/-- The number of a variant. -/
def Variant.number : Variant → Nat
  | .dependent => 0
  | .independent => 1
  | .hybrid => 2

/-- The older version overwrites a block in later passes; the newer adds to it. -/
inductive Version
  | v16
  | v19
  deriving DecidableEq

/-- The number of a version. -/
def Version.number : Version → Nat
  | .v16 => 16
  | .v19 => 19

/-- What a hash costs: kibibytes of memory, passes over it, and lanes. -/
structure Cost where
  memory : Nat
  passes : Nat
  lanes : Nat
  deriving DecidableEq

/-- A memory block: 128 words. -/
abbrev Block := Array UInt64

/-- A number in four bytes, least significant first. -/
def bytesLE (n : Nat) : List UInt8 := [0, 8, 16, 24].map fun shift => UInt8.ofNat (n >>> shift)

/-- Bytes behind their length. -/
def counted (bytes : List UInt8) : List UInt8 := bytesLE bytes.length ++ bytes

/-- The links of a long output: each is the digest of the one before it, and gives half of
itself. -/
def chain : Nat → List UInt8 → List UInt8
  | 0, link => link
  | count + 1, link => link.take 32 ++ chain count (Blake2b.digest 64 link)

/-- A digest of any length. -/
def digest (size : Nat) (message : List UInt8) : List UInt8 :=
  let message := bytesLE size ++ message
  if size ≤ 64 then Blake2b.digest size message
  else
    let links := (size + 31) / 32 - 2
    let head := (chain links (Blake2b.digest 64 message)).take (32 * links)
    let last := (List.range (links - 1)).foldl (fun link _ => Blake2b.digest 64 link)
      (Blake2b.digest 64 message)
    head ++ Blake2b.digest (size - 32 * links) last

/-- A sum of two words that their low halves enter once more as a product. -/
def blend (x y : UInt64) : UInt64 := x + y + 2 * (x &&& 0xFFFFFFFF) * (y &&& 0xFFFFFFFF)

/-- One mixing step on the words whose places `place` gives. -/
def mix (place : Nat → Nat) (v : Block) (places : Nat × Nat × Nat × Nat) : Block :=
  let pa := place places.1
  let pb := place places.2.1
  let pc := place places.2.2.1
  let pd := place places.2.2.2
  let a := blend (wordAt v pa) (wordAt v pb)
  let d := rotateRight64 (wordAt v pd ^^^ a) 32
  let c := blend (wordAt v pc) d
  let b := rotateRight64 (wordAt v pb ^^^ c) 24
  let a := blend a b
  let d := rotateRight64 (d ^^^ a) 16
  let c := blend c d
  let b := rotateRight64 (b ^^^ c) 63
  (((v.setIfInBounds pa a).setIfInBounds pb b).setIfInBounds pc c).setIfInBounds pd d

/-- Mix the sixteen words whose places `place` gives, by columns and diagonals. -/
def permute (v : Block) (place : Nat → Nat) : Block := Blake2b.mixPlaces.foldl (mix place) v

/-- Two blocks added word by word. -/
def addBlocks (x y : Block) : Block := Array.zipWith (· ^^^ ·) x y

/-- Compress two blocks into one. -/
def compress (x y : Block) : Block :=
  let sum := addBlocks x y
  let rows := (List.range 8).foldl (fun v i => permute v fun k => 16 * i + k) sum
  let columns :=
    (List.range 8).foldl (fun v i => permute v fun k => 2 * i + 16 * (k / 2) + k % 2) rows
  addBlocks sum columns

/-- The block without any bit set. -/
def zeroBlock : Block := Array.replicate 128 0

/-- A block from 1024 bytes. -/
def ofBytes (bytes : List UInt8) : Block := ((pieces 8 bytes).map Blake2b.word64).toArray

/-- All that a hash depends on besides its memory. -/
structure Job where
  variant : Variant
  version : Version
  cost : Cost
  password : List UInt8
  salt : List UInt8
  associated : List UInt8
  outputLength : Nat

/-- The blocks of a quarter of a lane. -/
def Job.segmentLength (j : Job) : Nat := j.cost.memory / (4 * j.cost.lanes)

/-- The blocks of a lane. -/
def Job.laneLength (j : Job) : Nat := 4 * j.segmentLength

/-- The digest of everything that the hash depends on. -/
def Job.seed (j : Job) : List UInt8 :=
  Blake2b.digest 64 (
    [j.cost.lanes, j.outputLength, j.cost.memory, j.cost.passes, j.version.number,
      j.variant.number].flatMap bytesLE
    ++ counted j.password ++ counted j.salt ++ counted [] ++ counted j.associated)

/-- Where a segment is: a pass, a slice and a lane. -/
structure Segment where
  pass : Nat
  slice : Nat
  lane : Nat

/-- Whether the indices of a segment come from a counter. -/
def Job.usesCounter (j : Job) (s : Segment) : Bool :=
  match j.variant with
  | .dependent => false
  | .independent => true
  | .hybrid => s.pass = 0 && s.slice < 2

/-- The index words of a segment, from the counter. -/
def Job.counterWords (j : Job) (s : Segment) : Array UInt64 :=
  let count := (j.segmentLength + 127) / 128
  (List.range count).foldl (fun words k =>
    let input := [s.pass, s.lane, s.slice, j.cost.lanes * j.laneLength, j.cost.passes,
      j.variant.number, k + 1]
    let block := (input.map UInt64.ofNat).toArray ++ Array.replicate 121 0
    words ++ compress zeroBlock (compress zeroBlock block)) #[]

/-- The place in its lane of the block that an index word points to. -/
def Job.target (j : Job) (s : Segment) (index : Nat) (isSameLane : Bool) (word : UInt64) : Nat :=
  let finished :=
    if s.pass = 0 then s.slice * j.segmentLength else j.laneLength - j.segmentLength
  let area :=
    if isSameLane then finished + index - 1
    else if index = 0 then finished - 1 else finished
  let low := word.toNat % Nat.pow 2 32
  let back := area * (low * low / Nat.pow 2 32) / Nat.pow 2 32
  let start := if s.pass = 0 then 0 else (s.slice + 1) % 4 * j.segmentLength
  (start + (area - 1 - back)) % j.laneLength

/-- Fill the block of a segment at an index. -/
def Job.fillBlock (j : Job) (s : Segment) (words : Array UInt64) (memory : Array Block)
    (index : Nat) :
    Array Block :=
  let column := s.slice * j.segmentLength + index
  let row := s.lane * j.laneLength
  let before := memory.getD (row + (column + j.laneLength - 1) % j.laneLength) zeroBlock
  let word := if j.usesCounter s then wordAt words index else wordAt before 0
  let lane := if s.pass = 0 ∧ s.slice = 0 then s.lane else (word >>> 32).toNat % j.cost.lanes
  let other := memory.getD (lane * j.laneLength + j.target s index (lane == s.lane) word) zeroBlock
  let block := compress before other
  let place := row + column
  if s.pass = 0 ∨ j.version = .v16 then memory.setIfInBounds place block
  else memory.setIfInBounds place (addBlocks block (memory.getD place zeroBlock))

/-- Fill a segment; the first two blocks of each lane are there before the first pass. -/
def Job.fillSegment (j : Job) (memory : Array Block) (s : Segment) : Array Block :=
  let words := if j.usesCounter s then j.counterWords s else #[]
  let first := if s.pass = 0 ∧ s.slice = 0 then 2 else 0
  ((List.range j.segmentLength).drop first).foldl (j.fillBlock s words) memory

/-- The segments in the order in which they are filled. -/
def Job.segments (j : Job) : List Segment :=
  (List.range j.cost.passes).flatMap fun pass =>
    (List.range 4).flatMap fun slice =>
      (List.range j.cost.lanes).map fun lane => ⟨pass, slice, lane⟩

/-- The memory before the first pass. -/
def Job.start (j : Job) : Array Block :=
  let seed := j.seed
  (List.range j.cost.lanes).foldl (fun memory lane =>
    let block (k : Nat) := ofBytes (digest 1024 (seed ++ bytesLE k ++ bytesLE lane))
    memory ++ #[block 0, block 1] ++ Array.replicate (j.laneLength - 2) zeroBlock) #[]

/-- The hash of a password, as many bytes as the job asks for. -/
def Job.run (j : Job) : List UInt8 :=
  let memory := j.segments.foldl j.fillSegment j.start
  let last := (List.range j.cost.lanes).foldl (fun sum lane =>
    addBlocks sum (memory.getD (lane * j.laneLength + j.laneLength - 1) zeroBlock)) zeroBlock
  digest j.outputLength (last.toList.flatMap Blake2b.bytes64)

end TenantAuth.Hash.Argon2
