import TenantAuth.Caller
import TenantAuth.Credential.Basic
import TenantAuth.Mfa.Services

/-!
What is done to a credential before and beside the second factors: password, registration, options.

An operation changes the credential on the desk. One that is refused may have changed it before,
which is why whoever works with credentials stores them after success only.
-/

namespace TenantAuth

/-- What an operation on a credential works on. -/
structure Desk where
  credential : Credential
  draws : Draws
  deriving DecidableEq

/-- Operations on a credential, which may be refused. -/
abbrev CredentialM := ExceptT Fault (StateM Desk)

namespace Credential

/-- The credential on the desk. -/
def current : CredentialM Credential := return (← get).credential

/-- Change the credential on the desk. -/
def update (change : Credential → Credential) : CredentialM Unit :=
  modify fun desk => { desk with credential := change desk.credential }

/-- Draw or use a service. -/
def use {α : Type} (step : ServiceM α) : CredentialM α := fun desk =>
  let (answer, draws) := step.run.run desk.draws
  (answer, { desk with draws })

/-! ### Password -/

/-- The least number of characters of a password. -/
def leastPasswordLength : Nat := 8

/-- Set the password. -/
def setPassword (s : Services) (password : String) : CredentialM Unit := do
  ensure (leastPasswordLength ≤ password.length)
    (.validation "password" s!"must be at least {leastPasswordLength} characters")
  let hash ← use (s.requestHash password)
  update fun c => { c with passwordHash := some hash }

/-- Whether a password is the one that was set. -/
def hasPassword (s : Services) (password : String) : CredentialM Bool := do
  let stored ← demand (← current).passwordHash (.preconditionViolation "Credential has no password")
  use (s.requestMatch password stored)

/-! ### Registration -/

/-- Set the address to sign in with, and the name to show. -/
def setDetails (email : EmailAddress) (displayName : String) : CredentialM Unit :=
  update fun c => { c with username := some email, displayName := some displayName }

/-- Begin to verify the registration. -/
def initiateRegistration (s : Services) : CredentialM String := do
  let c ← current
  ensure c.username.isSome (.preconditionViolation "Registration details have not been set")
  ensure (!c.isVerified) (.preconditionViolation "Registration is already verified")
  let token ← use s.drawVerificationToken
  update fun c => { c with registration := .pending token }
  return token

/-- Verify the registration. -/
def verifyRegistration (now : Instant) : CredentialM Unit := do
  ensure (← current).registration.isPending
    (.preconditionViolation "Registration verification has not been initiated")
  update fun c => { c with registration := .verified now }

/-! ### Options of the second factor -/

/-- Ask for the second factor, or no longer; for the owner and for operators. -/
def changeMfa (caller : Caller) (isEnabled : Bool) : CredentialM Unit := do
  let c ← current
  ensure (caller.userId = some c.userId || caller.isOperator) (.forbiddenAccess none)
  ensure (isEnabled || c.mfa.canBeDisabled) (.preconditionViolation "MFA cannot be disabled")
  update fun c => { c with mfa := { c.mfa with isEnabled } }

/-- Ask for the second factor for good; for operators. -/
def enforceMfa (caller : Caller) : CredentialM Unit := do
  ensure caller.isOperator (.forbiddenAccess (some "Only operators may enforce MFA"))
  update fun c => { c with mfa := { c.mfa with isEnabled := true, canBeDisabled := false } }

/-- Forget all about the second factor; for operators. -/
def resetMfa (caller : Caller) : CredentialM Unit := do
  ensure caller.isOperator (.forbiddenAccess (some "Only operators may reset MFA"))
  update fun c => { c with mfa := .initial, authenticators := [] }

/-- Refusal of what needs the second factor while it is not asked for. -/
def mfaNotEnabled : Fault := .preconditionViolation "MFA is not enabled"

/-- Hand out a token for the second factor of a sign-in. -/
def initiateMfa (s : Services) (now : Instant) : CredentialM String := do
  ensure (← current).mfa.isEnabled mfaNotEnabled
  let token ← use s.drawSignInToken
  let expiry ← demand (now.add? s.tokenLifetime) .deadlineOutOfRange
  update fun c => { c with mfa := c.mfa.bind token expiry }
  return token

end Credential

end TenantAuth
