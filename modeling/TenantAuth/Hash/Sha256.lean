import TenantAuth.Hash.Block

/-!
The secure hash with 256 bits of output.

Sixty-four rounds over eight words; the round constants are the leading fraction bits of the cube
roots of the first sixty-four primes.
-/

namespace TenantAuth.Hash.Sha256

/-- The chaining value. -/
structure State where
  a : UInt32
  b : UInt32
  c : UInt32
  d : UInt32
  e : UInt32
  f : UInt32
  g : UInt32
  h : UInt32

/-- The value before the first block. -/
def State.initial : State :=
  ⟨0x6a09e667, 0xbb67ae85, 0x3c6ef372, 0xa54ff53a, 0x510e527f, 0x9b05688c, 0x1f83d9ab, 0x5be0cd19⟩

/-- The constants of the rounds. -/
def roundConstants : List UInt32 := [
  0x428a2f98, 0x71374491, 0xb5c0fbcf, 0xe9b5dba5, 0x3956c25b, 0x59f111f1, 0x923f82a4, 0xab1c5ed5,
  0xd807aa98, 0x12835b01, 0x243185be, 0x550c7dc3, 0x72be5d74, 0x80deb1fe, 0x9bdc06a7, 0xc19bf174,
  0xe49b69c1, 0xefbe4786, 0x0fc19dc6, 0x240ca1cc, 0x2de92c6f, 0x4a7484aa, 0x5cb0a9dc, 0x76f988da,
  0x983e5152, 0xa831c66d, 0xb00327c8, 0xbf597fc7, 0xc6e00bf3, 0xd5a79147, 0x06ca6351, 0x14292967,
  0x27b70a85, 0x2e1b2138, 0x4d2c6dfc, 0x53380d13, 0x650a7354, 0x766a0abb, 0x81c2c92e, 0x92722c85,
  0xa2bfe8a1, 0xa81a664b, 0xc24b8b70, 0xc76c51a3, 0xd192e819, 0xd6990624, 0xf40e3585, 0x106aa070,
  0x19a4c116, 0x1e376c08, 0x2748774c, 0x34b0bcb5, 0x391c0cb3, 0x4ed8aa4a, 0x5b9cca4f, 0x682e6ff3,
  0x748f82ee, 0x78a5636f, 0x84c87814, 0x8cc70208, 0x90befffa, 0xa4506ceb, 0xbef9a3f7, 0xc67178f2]

/-- The sixty-four words that a block spreads over. -/
def schedule (block : Array UInt32) : Array UInt32 :=
  extendWords (fun w =>
    let x := wordBack w 15
    let y := wordBack w 2
    let s0 := rotateRight32 x 7 ^^^ rotateRight32 x 18 ^^^ (x >>> 3)
    let s1 := rotateRight32 y 17 ^^^ rotateRight32 y 19 ^^^ (y >>> 10)
    wordBack w 16 + s0 + wordBack w 7 + s1) 48 block

/-- One round with its word and constant. -/
def State.round (s : State) (step : UInt32 × UInt32) : State :=
  let s1 := rotateRight32 s.e 6 ^^^ rotateRight32 s.e 11 ^^^ rotateRight32 s.e 25
  let choice := (s.e &&& s.f) ^^^ (~~~s.e &&& s.g)
  let t1 := s.h + s1 + choice + step.2 + step.1
  let s0 := rotateRight32 s.a 2 ^^^ rotateRight32 s.a 13 ^^^ rotateRight32 s.a 22
  let majority := (s.a &&& s.b) ^^^ (s.a &&& s.c) ^^^ (s.b &&& s.c)
  ⟨t1 + (s0 + majority), s.a, s.b, s.c, s.d + t1, s.e, s.f, s.g⟩

/-- Take in one block. -/
def State.absorb (s : State) (block : Array UInt32) : State :=
  let t := ((schedule block).toList.zip roundConstants).foldl State.round s
  ⟨s.a + t.a, s.b + t.b, s.c + t.c, s.d + t.d, s.e + t.e, s.f + t.f, s.g + t.g, s.h + t.h⟩

/-- The digest of a message: thirty-two bytes. -/
def digest (message : List UInt8) : List UInt8 :=
  let s := (messageBlocks message).foldl State.absorb .initial
  [s.a, s.b, s.c, s.d, s.e, s.f, s.g, s.h].flatMap bytes32

end TenantAuth.Hash.Sha256
