import TenantAuth.Codec.Base64
import TenantAuth.Codec.Hex
import TenantAuth.Hash.Sha256

/-!
Opaque tokens that are handed out.

A token is thirty-two random bytes in the alphabet for addresses. Only its hash is stored, and a
token is known by having the stored hash.
-/

namespace TenantAuth.Token

/-- The number of random bytes in a token. -/
def size : Nat := 32

/-- The token of random bytes. -/
def ofBytes (bytes : List UInt8) : String := Codec.Base64.urlSafe.encodeUnpadded bytes

/-- What is stored of a token. -/
def hash (token : String) : String := Codec.Hex.encode (Hash.Sha256.digest (Text.utf8 token))

/-- Whether a token has a stored hash. -/
def hasHash (token stored : String) : Bool := hash token = stored

end TenantAuth.Token
