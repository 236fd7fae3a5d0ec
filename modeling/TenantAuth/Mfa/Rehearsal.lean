import TenantAuth.Mfa.Services

/-!
Services that answer by a script instead of by chance, so that a course of operations can be
foreseen.

Whatever is drawn shows its number. Encryption puts a text between marks and a hash is the password
backwards, so that both can be read back. The script says which codes count for which time steps,
and what is refused.
-/

namespace TenantAuth

/-- What services are to answer. -/
structure Script where
  otpSecrets : List String
  recoveryCodes : Option (List String)
  stepsOf : (typed : String) → List Nat
  withoutBarcode : Bool
  notEncrypted : List String
  notDecrypted : List String
  withoutHash : Bool
  withoutMatch : Bool
  rememberedSteps : Nat
  tokenLifetime : Span

namespace Script

/-- What faults in a script give as their reason. -/
def reason : String := "refused"

/-- A text between marks. -/
def marked (text : String) : String := "enc[" ++ text ++ "]"

/-- The text between marks. -/
def unmarked? (stored : String) : Option String :=
  match stored.toList with
  | 'e' :: 'n' :: 'c' :: '[' :: rest =>
    if rest.getLast? = some ']' then some (String.ofList rest.dropLast) else none
  | _ => none

/-- A password backwards. -/
def backwards (password : String) : String := "hash:" ++ String.ofList password.toList.reverse

/-- The identifier before the first that is drawn. -/
def identifierBase : Nat := 0xD5C3A1F76B2E4D908A4C000000000000

variable (script : Script)

/-- Encrypt a text. -/
def encrypt (text : String) : Except Cipher.Fault String :=
  if script.notEncrypted.contains text then .error (.encryptionFailed reason) else .ok (marked text)

/-- Decrypt a text. -/
def decrypt (stored : String) : Except Cipher.Fault String :=
  match unmarked? stored with
  | none => .error (.malformedCiphertext "not tagged")
  | some text =>
    if script.notDecrypted.contains text then .error (.decryptionFailed reason) else .ok text

/-- Check a time-based code: it counts for the first of its steps that was not used lately. -/
def verifyTotp (recent : List Nat) (typed : String) : Except Totp.Fault Totp.Verdict :=
  if typed = "explode" then .error .invalidSecret
  else
    match (script.stepsOf typed).find? fun step => !recent.contains step with
    | some step => .ok (.valid step)
    | none => .ok .invalid

/-- The services that follow a script. -/
def services : Services where
  authenticatorId draw := ⟨⟨BitVec.ofNat 128 (identifierBase + draw + 1)⟩⟩
  otpSecret draw :=
    (script.otpSecrets[draw % script.otpSecrets.length]?).getD s!"otpsecret{draw + 1}"
  oobCode draw := s!"oobcode{draw + 1}"
  oobSecret draw := s!"oobsecret{draw + 1}"
  recoveryCodes draw := script.recoveryCodes.getD ([1, 2, 3].map fun k => s!"REC{draw + 1}CODE{k}")
  signInToken draw := s!"mfatoken{draw + 1}"
  verificationToken draw := s!"verificationtoken{draw + 1}"
  barcodeUri _ secret account :=
    if script.withoutBarcode then .error (.refused "barcode refused")
    else .ok s!"uri:{secret}:{account}"
  verifyTotp _ _ recent typed := script.verifyTotp recent typed
  encrypt _ text := script.encrypt text
  decrypt _ stored := script.decrypt stored
  hashPassword _ password :=
    if script.withoutHash then .error (.hashingFailed reason) else .ok (backwards password)
  verifyPassword _ password stored :=
    if script.withoutMatch then .error .malformedHash else .ok (stored = backwards password)
  rememberedSteps := script.rememberedSteps
  tokenLifetime := script.tokenLifetime

end Script

end TenantAuth
