/-!
Message authentication from a hash: the key, filled up to a block, enters twice under two masks.
-/

namespace TenantAuth.Hash

/-- The authentication code of a message under a key, for a hash with blocks of `blockSize`
bytes. -/
def hmac (digest : List UInt8 → List UInt8) (blockSize : Nat) (key message : List UInt8) :
    List UInt8 :=
  let short := if key.length > blockSize then digest key else key
  let full := short ++ List.replicate (blockSize - short.length) 0
  digest (full.map (· ^^^ 0x5C) ++ digest (full.map (· ^^^ 0x36) ++ message))

end TenantAuth.Hash
