import TenantAuth.Cipher.Aes

/-!
Authenticated encryption: counter mode with a polynomial tag, for nonces of twelve bytes.

Encrypting adds a keystream to the text and appends sixteen bytes of tag; decrypting checks the tag
over what it was given before it adds the same keystream again.
-/

namespace TenantAuth.Cipher.Gcm

/-- An element of the field of 2^128 elements; the first bit is the constant term. -/
abbrev Element := BitVec 128

/-- The first sixteen bytes as a field element, with zeros for those that are missing. -/
def ofBytes (bytes : List UInt8) : Element :=
  let full := (bytes ++ List.replicate (16 - bytes.length) 0).take 16
  BitVec.ofNat 128 (full.foldl (fun n b => n * 256 + b.toNat) 0)

/-- The sixteen bytes of a field element. -/
def toBytes (x : Element) : List UInt8 :=
  [120, 112, 104, 96, 88, 80, 72, 64, 56, 48, 40, 32, 24, 16, 8, 0].map fun shift =>
    UInt8.ofNat (x.toNat >>> shift)

/-- The reduction polynomial, without its highest term. -/
def reduction : Element := 0xE1000000000000000000000000000000#128

/-- An element times the variable. -/
def timesVariable (x : Element) : Element :=
  if x.getLsbD 0 then (x >>> 1) ^^^ reduction else x >>> 1

/-- The terms of `x` from the bit numbered `bit` on, each times the element `y`. -/
def mulFrom (x : Element) : Nat → Nat → Element → Element → Element
  | 0, _, _, sum => sum
  | count + 1, bit, y, sum =>
    mulFrom x count (bit + 1) (timesVariable y) (if x.getMsbD bit then sum ^^^ y else sum)

/-- The product of two field elements. -/
def mul (x y : Element) : Element := mulFrom x 128 0 y 0

/-- Text in blocks of sixteen bytes, the last one filled with zeros. -/
def blocks : List UInt8 → List Element
  | a :: b :: c :: d :: e :: f :: g :: h :: i :: j :: k :: l :: m :: n :: o :: p :: rest =>
    ofBytes [a, b, c, d, e, f, g, h, i, j, k, l, m, n, o, p] :: blocks rest
  | [] => []
  | rest => [ofBytes rest]

/-- The universal hash of blocks under the hash key. -/
def hash (hashKey : Element) (xs : List Element) : Element :=
  xs.foldl (fun y x => mul (y ^^^ x) hashKey) 0

/-- The counter block of a nonce. -/
def counterBlock (nonce : List UInt8) (counter : Nat) : List UInt8 :=
  nonce ++ [24, 16, 8, 0].map fun shift => UInt8.ofNat (counter >>> shift)

/-- The keystream of whole blocks from a counter on. -/
def keystream (keys : List (List UInt8)) (nonce : List UInt8) : Nat → Nat → List UInt8
  | 0, _ => []
  | count + 1, counter =>
    Aes.encryptBlock keys (counterBlock nonce counter) ++ keystream keys nonce count (counter + 1)

/-- The text with the keystream added; doing it twice gives the text back. -/
def crypt (keys : List (List UInt8)) (nonce text : List UInt8) : List UInt8 :=
  List.zipWith (· ^^^ ·) text (keystream keys nonce ((text.length + 15) / 16) 2)

/-- The tag of a ciphertext. -/
def tag (keys : List (List UInt8)) (nonce ciphertext : List UInt8) : List UInt8 :=
  let hashKey := ofBytes (Aes.encryptBlock keys (List.replicate 16 0))
  let lengths : Element := BitVec.ofNat 128 (8 * ciphertext.length)
  let sum := hash hashKey (blocks ciphertext ++ [lengths])
  toBytes (sum ^^^ ofBytes (Aes.encryptBlock keys (counterBlock nonce 1)))

/-- The ciphertext of a text, followed by its tag. -/
def encrypt (key nonce text : List UInt8) : List UInt8 :=
  let keys := Aes.roundKeys key
  let ciphertext := crypt keys nonce text
  ciphertext ++ tag keys nonce ciphertext

/-- The text that was encrypted, if the tag is right. -/
def decrypt? (key nonce secured : List UInt8) : Option (List UInt8) :=
  let keys := Aes.roundKeys key
  let ciphertext := secured.take (secured.length - 16)
  let found := secured.drop (secured.length - 16)
  if secured.length < 16 then none
  else if found = tag keys nonce ciphertext then some (crypt keys nonce ciphertext)
  else none

end TenantAuth.Cipher.Gcm
