/-!
How a message becomes blocks, and blocks become words.

The two hashes of the secure-hash family share their padding: a one bit, zeros up to eight bytes
short of a whole block, and the length of the message in bits as eight bytes, most significant
first.
-/

namespace TenantAuth.Hash

/-- Consecutive pieces of `size` elements; the last piece may be shorter. -/
def pieces {α : Type} (size : Nat) (xs : List α) : List (List α) :=
  if size = 0 ∨ xs.isEmpty then []
  else xs.take size :: pieces size (xs.drop size)
  termination_by xs.length
  decreasing_by
    rename_i h
    simp only [List.length_drop]
    have hx : xs.length ≠ 0 := by
      intro h0
      exact h (.inr (by simp [List.length_eq_zero_iff.mp h0]))
    omega

/-- A word of 32 bits from bytes, most significant first. -/
def word32 (bytes : List UInt8) : UInt32 := bytes.foldl (fun w b => w <<< 8 ||| b.toUInt32) 0

/-- The four bytes of a word, most significant first. -/
def bytes32 (w : UInt32) : List UInt8 :=
  [(w >>> 24).toUInt8, (w >>> 16).toUInt8, (w >>> 8).toUInt8, w.toUInt8]

/-- The number as eight bytes, most significant first. -/
def lengthBytes (n : Nat) : List UInt8 :=
  [56, 48, 40, 32, 24, 16, 8, 0].map fun shift => UInt8.ofNat (n / Nat.pow 2 shift)

/-- A message filled up to whole blocks of 64 bytes. -/
def padded (message : List UInt8) : List UInt8 :=
  message ++ [0x80] ++ List.replicate ((119 - message.length % 64) % 64) 0
    ++ lengthBytes (8 * message.length)

/-- The sixteen words of each block of a message. -/
def messageBlocks (message : List UInt8) : List (Array UInt32) :=
  (pieces 64 (padded message)).map fun block => ((pieces 4 block).map word32).toArray

/-- The words rotated left. -/
def rotateLeft32 (w : UInt32) (n : UInt32) : UInt32 := (w <<< n) ||| (w >>> (32 - n))

/-- The words rotated right. -/
def rotateRight32 (w : UInt32) (n : UInt32) : UInt32 := (w >>> n) ||| (w <<< (32 - n))

/-- Push `count` more words, each computed from those before it. -/
def extendWords (next : Array UInt32 → UInt32) : Nat → Array UInt32 → Array UInt32
  | 0, words => words
  | count + 1, words => extendWords next count (words.push (next words))

/-- The word `back` places before the end. -/
def wordBack (words : Array UInt32) (back : Nat) : UInt32 := words.getD (words.size - back) 0

end TenantAuth.Hash
