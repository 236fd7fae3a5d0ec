import TenantAuth.Config
import TenantAuth.Mfa.Services
import TenantAuth.Random
import TenantAuth.RecoveryCode
import TenantAuth.Token

/-!
The services that are used in earnest, given a configuration, a source of random bytes, and a clock.
-/

namespace TenantAuth

/-- A new identifier. -/
def RandomSource.identifier (random : RandomSource) (draw : Nat) : Uuid :=
  Uuid.ofRandom (random.bytes .identifier draw 16)

/-- A new token for a purpose. -/
def RandomSource.token (random : RandomSource) (purpose : Purpose) (draw : Nat) : String :=
  Token.ofBytes (random.bytes purpose draw Token.size)

/-- A new secret for time-based codes. -/
def RandomSource.otpSecret (random : RandomSource) (draw : Nat) : String :=
  Totp.secretOfBytes (random.bytes .otpSecret draw Totp.secretSize)

/-- The number of digits of a secret that answers an out-of-band challenge. -/
def oobSecretDigits : Nat := 6

/-- The secret that four random bytes select. -/
def oobSecretOfBytes (bytes : List UInt8) : String :=
  let number := bytes.foldl (fun n b => n * 256 + b.toNat) 0 % Nat.pow 10 oobSecretDigits
  let numeral := Text.numeral number
  String.ofList (List.replicate (oobSecretDigits - numeral.length) '0' ++ numeral)

/-- A new secret that answers an out-of-band challenge. -/
def RandomSource.oobSecret (random : RandomSource) (draw : Nat) : String :=
  oobSecretOfBytes (random.bytes .oobSecret draw 4)

/-- New recovery codes. -/
def RandomSource.recoveryCodes (random : RandomSource) (draw : Nat) : List String :=
  RecoveryCode.ofBytes (random.bytes .recoveryCodes draw (RecoveryCode.count * RecoveryCode.length))

/-- The text of a new key for encryption at rest. -/
def RandomSource.keyText (random : RandomSource) (draw : Nat) : String :=
  Codec.Hex.encode (random.bytes .encryptionKey draw 32)

namespace Services

/-- The services for a configuration whose key and lifetime were read. The clock gives the seconds
since 1970 at each use. -/
def standard (config : MfaConfig) (key : Cipher.Key) (lifetime : Span) (random : RandomSource)
    (clock : Nat → Nat) : Services where
  authenticatorId draw := ⟨random.identifier draw⟩
  otpSecret := random.otpSecret
  oobCode := random.token .oobCode
  oobSecret := random.oobSecret
  recoveryCodes := random.recoveryCodes
  signInToken := random.token .signInToken
  verificationToken := random.token .verificationToken
  barcodeUri _ secret account := Totp.address config.issuer secret account
  verifyTotp use secret recent typed := Totp.verify secret recent typed (clock use)
  encrypt use text := .ok (key.encrypt (random.bytes .nonce use Cipher.nonceLength) text)
  decrypt _ stored := key.decrypt stored
  hashPassword use password :=
    let salt := random.bytes .salt use Password.saltLength
    .ok ((Password.Hasher.mk Password.defaultCost).hash salt password)
  verifyPassword _ password stored := Password.verify password stored
  rememberedSteps := config.rememberedSteps
  tokenLifetime := lifetime

/-- The services for a configuration. -/
def ofConfig (config : MfaConfig) (random : RandomSource) (clock : Nat → Nat) :
    Except Fault Services := do
  let key ← unexpected Cipher.Fault.message (Cipher.Key.ofHex config.key)
  let lifetime ← demand config.tokenLifetime? .deadlineOutOfRange
  return standard config key lifetime random clock

/-- Services in diagnostics. -/
def display (s : Services) : String :=
  Text.shownPartly "CredentialServices" [("mfa_authentication_token_ttl",
    Text.shownRecord "TimeDelta" [("secs", toString s.tokenLifetime.seconds), ("nanos", "0")])]

end Services

end TenantAuth
