/-!
Where random bytes come from.

Every purpose has draws of its own, numbered from zero, and a draw is as long as needed. What the
bytes are is left open: anything that is drawn is a function of them.
-/

namespace TenantAuth

/-- What random bytes are drawn for. -/
inductive Purpose
  | identifier
  | otpSecret
  | oobCode
  | oobSecret
  | recoveryCodes
  | signInToken
  | verificationToken
  | nonce
  | salt
  | encryptionKey
  deriving DecidableEq

/-- A source of random bytes: the byte at an index of a numbered draw. -/
structure RandomSource where
  byte : (purpose : Purpose) → (draw index : Nat) → UInt8

/-- The first bytes of a draw. -/
def RandomSource.bytes (source : RandomSource) (purpose : Purpose) (draw count : Nat) :
    List UInt8 :=
  (List.range count).map (source.byte purpose draw)

/-- A draw has as many bytes as are asked for. -/
@[simp] theorem RandomSource.length_bytes (source : RandomSource) (purpose : Purpose)
    (draw count : Nat) : (source.bytes purpose draw count).length = count := by
  simp [RandomSource.bytes]

end TenantAuth
