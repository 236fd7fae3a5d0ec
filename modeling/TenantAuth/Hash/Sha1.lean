import TenantAuth.Hash.Block

/-!
The secure hash with 160 bits of output.

Eighty rounds over five words, in four groups of twenty with a function and a constant each.
-/

namespace TenantAuth.Hash.Sha1

/-- The chaining value. -/
structure State where
  a : UInt32
  b : UInt32
  c : UInt32
  d : UInt32
  e : UInt32

/-- The value before the first block. -/
def State.initial : State := ⟨0x67452301, 0xEFCDAB89, 0x98BADCFE, 0x10325476, 0xC3D2E1F0⟩

/-- The eighty words that a block spreads over. -/
def schedule (block : Array UInt32) : Array UInt32 :=
  extendWords
    (fun w => rotateLeft32 (wordBack w 3 ^^^ wordBack w 8 ^^^ wordBack w 14 ^^^ wordBack w 16) 1)
    64 block

/-- The function and constant of a round. -/
def roundMix (round : Nat) (b c d : UInt32) : UInt32 × UInt32 :=
  if round < 20 then ((b &&& c) ||| (~~~b &&& d), 0x5A827999)
  else if round < 40 then (b ^^^ c ^^^ d, 0x6ED9EBA1)
  else if round < 60 then ((b &&& c) ||| (b &&& d) ||| (c &&& d), 0x8F1BBCDC)
  else (b ^^^ c ^^^ d, 0xCA62C1D6)

/-- One round with its word. -/
def State.round (s : State) (step : UInt32 × Nat) : State :=
  let (f, k) := roundMix step.2 s.b s.c s.d
  ⟨rotateLeft32 s.a 5 + f + s.e + k + step.1, s.a, rotateLeft32 s.b 30, s.c, s.d⟩

/-- Take in one block. -/
def State.absorb (s : State) (block : Array UInt32) : State :=
  let t := (schedule block).toList.zipIdx.foldl State.round s
  ⟨s.a + t.a, s.b + t.b, s.c + t.c, s.d + t.d, s.e + t.e⟩

/-- The digest of a message: twenty bytes. -/
def digest (message : List UInt8) : List UInt8 :=
  let s := (messageBlocks message).foldl State.absorb .initial
  [s.a, s.b, s.c, s.d, s.e].flatMap bytes32

end TenantAuth.Hash.Sha1
