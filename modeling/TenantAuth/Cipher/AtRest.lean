import TenantAuth.Cipher.Gcm
import TenantAuth.Codec.Base64
import TenantAuth.Codec.Hex

/-!
Encryption of secrets that are stored.

A stored secret is the padded base 64 of a nonce of twelve bytes and the encrypted text with its
tag. The key has exactly thirty-two bytes and is configured as hexadecimal.
-/

namespace TenantAuth.Cipher

/-- Why encryption at rest fails. -/
inductive Fault
  | keyNotConfigured
  | invalidKeyLength (length : Nat)
  | invalidKeyFormat (reason : String)
  | encryptionFailed (reason : String)
  | decryptionFailed (reason : String)
  | malformedCiphertext (reason : String)
  deriving DecidableEq

/-- The variable that configures the key. -/
def keyVariable : String := "MFA_ENCRYPTION_KEY"

/-- The wording of a fault. -/
def Fault.message : Fault → String
  | .keyNotConfigured => s!"Encryption key not configured ({keyVariable} environment variable)"
  | .invalidKeyLength length => s!"Invalid encryption key length: expected 32 bytes, got {length}"
  | .invalidKeyFormat reason => s!"Invalid key format: {reason}"
  | .encryptionFailed reason => s!"Encryption failed: {reason}"
  | .decryptionFailed reason => s!"Decryption failed: {reason}"
  | .malformedCiphertext reason => s!"Ciphertext is malformed: {reason}"

/-- The code of a fault. -/
def Fault.code : Fault → String
  | .keyNotConfigured => "key_not_configured"
  | .invalidKeyLength _ => "invalid_key_length"
  | .invalidKeyFormat _ => "invalid_key_format"
  | .encryptionFailed _ => "encryption_failed"
  | .decryptionFailed _ => "decryption_failed"
  | .malformedCiphertext _ => "malformed_ciphertext"

/-- A key of the right size. -/
structure Key where
  bytes : List UInt8
  length_eq : bytes.length = 32

/-- Diagnostics never show a key. -/
def Key.display (_ : Key) : String := "AesGcmEncryptionService \x7b cipher: \"[REDACTED]\" \x7d"

/-- A key from its bytes. -/
def Key.ofBytes (bytes : List UInt8) : Except Fault Key :=
  if h : bytes.length = 32 then .ok ⟨bytes, h⟩ else .error (.invalidKeyLength bytes.length)

/-- A key from hexadecimal text, whose surrounding blanks do not count. -/
def Key.ofHex (text : String) : Except Fault Key :=
  match Codec.Hex.decode (Text.trimmed text) with
  | .ok bytes => Key.ofBytes bytes
  | .error fault => .error (.invalidKeyFormat fault.message)

/-- A key from the environment. -/
def Key.ofEnvironment (valueOf : String → Option String) : Except Fault Key :=
  match valueOf keyVariable with
  | some text => Key.ofHex text
  | none => .error .keyNotConfigured

/-- The length of a nonce in bytes. -/
def nonceLength : Nat := 12

/-- What is stored for a text, under a nonce that was never used before. -/
def Key.encrypt (key : Key) (nonce : List UInt8) (text : String) : String :=
  Codec.Base64.encode (nonce ++ Gcm.encrypt key.bytes nonce (Text.utf8 text))

/-- The text that was stored. -/
def Key.decrypt (key : Key) (stored : String) : Except Fault String :=
  match Codec.Base64.decode stored with
  | .error fault => .error (.malformedCiphertext fault.message)
  | .ok bytes =>
    if bytes.length ≤ nonceLength then
      .error (.malformedCiphertext s!"expected more than {nonceLength} bytes, got {bytes.length}")
    else
      match Gcm.decrypt? key.bytes (bytes.take nonceLength) (bytes.drop nonceLength) with
      | none => .error (.decryptionFailed "aead::Error")
      | some text => (Text.ofUtf8 text).mapError fun fault => .decryptionFailed fault.message

end TenantAuth.Cipher
