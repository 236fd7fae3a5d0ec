import TenantAuth.Cipher.AtRest
import TenantAuth.Fault
import TenantAuth.Identifier
import TenantAuth.Password.Hasher
import TenantAuth.Time.Instant
import TenantAuth.Totp

/-!
What a credential needs from outside: things that are drawn anew, encryption, and the hashing of
passwords.

Draws are numbered, each kind on its own, and a number is never used twice, not even after a
failure. Uses of a service that may fail are numbered as well, so that it may answer differently
each time.
-/

namespace TenantAuth

/-- How many draws were made of each kind, and how many uses of services. -/
structure Draws where
  authenticatorIds : Nat
  otpSecrets : Nat
  oobCodes : Nat
  oobSecrets : Nat
  recoveryCodes : Nat
  signInTokens : Nat
  verificationTokens : Nat
  uses : Nat
  deriving DecidableEq

/-- No draws were made yet. -/
def Draws.none : Draws := ⟨0, 0, 0, 0, 0, 0, 0, 0⟩

/-- What a credential needs from outside. The first argument of each function is the number of the
draw or of the use. -/
structure Services where
  authenticatorId : Nat → AuthenticatorId
  otpSecret : Nat → String
  oobCode : Nat → String
  oobSecret : Nat → String
  recoveryCodes : Nat → List String
  signInToken : Nat → String
  verificationToken : Nat → String
  barcodeUri : (use : Nat) → (secret account : String) → Except Totp.Fault String
  verifyTotp : (use : Nat) → (secret : String) → (recent : List Nat) → (typed : String) →
    Except Totp.Fault Totp.Verdict
  encrypt : (use : Nat) → (text : String) → Except Cipher.Fault String
  decrypt : (use : Nat) → (stored : String) → Except Cipher.Fault String
  hashPassword : (use : Nat) → (password : String) → Except Password.Fault String
  verifyPassword : (use : Nat) → (password stored : String) → Except Password.Fault Bool
  rememberedSteps : Nat
  tokenLifetime : Span

/-- Steps that draw and use services, and may be refused. -/
abbrev ServiceM := ExceptT Fault (StateM Draws)

/-- Refuse unless a condition holds. -/
def ensure {m : Type → Type} [Monad m] [MonadExceptOf Fault m] (condition : Bool)
    (fault : Fault) : m Unit :=
  if condition then pure () else throw fault

/-- The value that is there, or refuse. -/
def demand {α : Type} {m : Type → Type} [Monad m] [MonadExceptOf Fault m] (value : Option α)
    (fault : Fault) : m α :=
  match value with
  | some a => pure a
  | none => throw fault

/-- A fault of a service is not expected, and is passed on with its wording. -/
def unexpected {α ε : Type} {m : Type → Type} [Monad m] [MonadExceptOf Fault m]
    (wording : ε → String) (answer : Except ε α) : m α :=
  match answer with
  | .ok a => pure a
  | .error e => throw (.unexpected (wording e))

/-- A fault of checking a time-based code as a refusal. -/
def Totp.Fault.toFault : Totp.Fault → TenantAuth.Fault
  | .timeOutOfRange => .timeOutOfRange
  | f => .unexpected f.message

namespace Services

/-- The number of the next use of a service. -/
def nextUse : ServiceM Nat := modifyGet fun d => (d.uses, { d with uses := d.uses + 1 })

variable (s : Services)

/-- A new identifier for an authenticator. -/
def drawAuthenticatorId : ServiceM AuthenticatorId :=
  modifyGet fun d =>
    (s.authenticatorId d.authenticatorIds, { d with authenticatorIds := d.authenticatorIds + 1 })

/-- A new secret for time-based codes. -/
def drawOtpSecret : ServiceM String :=
  modifyGet fun d => (s.otpSecret d.otpSecrets, { d with otpSecrets := d.otpSecrets + 1 })

/-- A new code that names an out-of-band challenge. -/
def drawOobCode : ServiceM String :=
  modifyGet fun d => (s.oobCode d.oobCodes, { d with oobCodes := d.oobCodes + 1 })

/-- A new secret that answers an out-of-band challenge. -/
def drawOobSecret : ServiceM String :=
  modifyGet fun d => (s.oobSecret d.oobSecrets, { d with oobSecrets := d.oobSecrets + 1 })

/-- New recovery codes. -/
def drawRecoveryCodes : ServiceM (List String) :=
  modifyGet fun d =>
    (s.recoveryCodes d.recoveryCodes, { d with recoveryCodes := d.recoveryCodes + 1 })

/-- A new token for a sign-in that waits for the second factor. -/
def drawSignInToken : ServiceM String :=
  modifyGet fun d => (s.signInToken d.signInTokens, { d with signInTokens := d.signInTokens + 1 })

/-- A new token for the verification of a registration. -/
def drawVerificationToken : ServiceM String :=
  modifyGet fun d =>
    (s.verificationToken d.verificationTokens,
      { d with verificationTokens := d.verificationTokens + 1 })

/-- The address by which an app takes over a secret. -/
def requestBarcodeUri (secret account : String) : ServiceM String := do
  unexpected Totp.Fault.message (s.barcodeUri (← nextUse) secret account)

/-- Check a time-based code. -/
def requestVerdict (secret : String) (recent : List Nat) (typed : String) :
    ServiceM Totp.Verdict := do
  liftExcept ((s.verifyTotp (← nextUse) secret recent typed).mapError Totp.Fault.toFault)

/-- Encrypt a text that is to be stored. -/
def requestEncryption (text : String) : ServiceM String := do
  unexpected Cipher.Fault.message (s.encrypt (← nextUse) text)

/-- Decrypt a text that was stored. -/
def requestDecryption (stored : String) : ServiceM String := do
  unexpected Cipher.Fault.message (s.decrypt (← nextUse) stored)

/-- Hash a password. -/
def requestHash (password : String) : ServiceM String := do
  unexpected Password.Fault.message (s.hashPassword (← nextUse) password)

/-- Check a password against a stored hash. -/
def requestMatch (password stored : String) : ServiceM Bool := do
  unexpected Password.Fault.message (s.verifyPassword (← nextUse) password stored)

end Services

end TenantAuth
