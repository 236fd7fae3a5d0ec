import TenantAuth.Contact
import TenantAuth.Mfa.Authenticator
import TenantAuth.Mfa.Options

/-!
The credential of a person: password, registration, and second factors.

A registration is verified by a token that was sent to the address it is for. The authenticators
stand in the order in which they were added; the recovery codes, made along with the first one, come
first.
-/

namespace TenantAuth

/-- Where a registration stands. -/
inductive Registration
  | unverified
  | pending (token : String)
  | verified (verifiedAt : Instant)
  deriving DecidableEq

namespace Registration

/-- Whether the registration was verified. -/
def isVerified : Registration → Bool
  | .verified _ => true
  | _ => false

/-- Whether the verification has begun and not ended. -/
def isPending : Registration → Bool
  | .pending _ => true
  | _ => false

/-- The token that verifies the registration. -/
def token? : Registration → Option String
  | .pending token => some token
  | _ => none

/-- A registration in diagnostics. -/
def display : Registration → String
  | .unverified => "Unverified"
  | .pending token => Text.shownRecord "Pending" [("token", Text.quoted token)]
  | .verified verifiedAt => Text.shownRecord "Verified" [("verified_at", verifiedAt.text)]

end Registration

/-- The credential of a person. -/
structure Credential where
  id : CredentialId
  userId : UserId
  username : Option EmailAddress
  displayName : Option String
  passwordHash : Option String
  registration : Registration
  mfa : MfaOptions
  authenticators : List Authenticator
  deriving DecidableEq

namespace Credential

/-- The credential of a user about whom nothing else is known. -/
def create (id : CredentialId) (user : UserId) : Credential :=
  ⟨id, user, none, none, none, .unverified, .initial, []⟩

/-- Whether the registration was verified. -/
def isVerified (c : Credential) : Bool := c.registration.isVerified

/-- The authenticator of recovery codes. -/
def recoveryCodes? (c : Credential) : Option Authenticator :=
  c.authenticators.find? fun a => a.kind = .recoveryCodes

/-- The pending authenticator of a kind. -/
def pending? (c : Credential) (kind : AuthenticatorKind) : Option Authenticator :=
  c.authenticators.find? fun a => a.kind = kind && !a.isActive

/-- The active authenticator of a kind. -/
def active? (c : Credential) (kind : AuthenticatorKind) : Option Authenticator :=
  c.authenticators.find? fun a => a.kind = kind && a.isActive

/-- The authenticator of an identifier. -/
def authenticator? (c : Credential) (id : AuthenticatorId) : Option Authenticator :=
  c.authenticators.find? fun a => a.id = id

/-- A credential in diagnostics, without its password. -/
def display (c : Credential) : String :=
  Text.shownRecord "PersonCredentialRoot" [
    ("id", Text.shownAround "CredentialId" c.id.uuid.text),
    ("user_id", Text.shownAround "UserId" c.userId.uuid.text),
    ("username", Text.shownOption EmailAddress.display c.username),
    ("password_hash", Text.redacted),
    ("registration", c.registration.display),
    ("mfa_options", c.mfa.display),
    ("authenticators", Text.shownList Authenticator.display c.authenticators)]

end Credential

end TenantAuth
