import TenantAuth.Contact
import TenantAuth.Identifier
import TenantAuth.Text.Diagnostic

/-!
Authenticators, the second factors that a credential has.

An authenticator is pending until its owner proves to hold it. Whatever is secret about it is kept
encrypted. What was used up of it is kept as a text: recovery codes that were consumed, or time
steps whose codes were used. One that is reached out-of-band, by message or mail, has a challenge
outstanding while an answer is awaited.
-/

namespace TenantAuth

/-- The kinds of authenticators. -/
inductive AuthenticatorKind
  | recoveryCodes
  | totp
  | oobSms
  | oobEmail
  deriving DecidableEq

namespace AuthenticatorKind

/-- The name of a kind. -/
def name : AuthenticatorKind → String
  | .recoveryCodes => "recovery_codes"
  | .totp => "totp_authenticator"
  | .oobSms => "oob_sms"
  | .oobEmail => "oob_email"

/-- The kind of a name. -/
def ofName? : String → Option AuthenticatorKind
  | "recovery_codes" => some .recoveryCodes
  | "totp_authenticator" => some .totp
  | "oob_sms" => some .oobSms
  | "oob_email" => some .oobEmail
  | _ => none

/-- Whether authenticators of a kind are reached out-of-band. -/
def isOutOfBand : AuthenticatorKind → Bool
  | .oobSms => true
  | .oobEmail => true
  | _ => false

end AuthenticatorKind

/-- Where an out-of-band secret is sent. -/
inductive Contact
  | sms (number : PhoneNumber)
  | email (address : EmailAddress)
  deriving DecidableEq

/-- The kind of authenticators that are reached at a contact. -/
def Contact.kind : Contact → AuthenticatorKind
  | .sms _ => .oobSms
  | .email _ => .oobEmail

/-- The text of a contact. -/
def Contact.text : Contact → String
  | .sms number => number.text
  | .email address => address.text

/-- A challenge that awaits its answer: a code that names it and the encrypted secret that answers
it. -/
structure Challenge where
  code : String
  secret : String
  deriving DecidableEq

/-- What makes an authenticator, by its kind. -/
inductive Material
  | recoveryCodes (codes : String)
  | totp (secret barcodeUri : String)
  | outOfBand (contact : Contact) (challenge : Option Challenge)
  deriving DecidableEq

/-- The kind of authenticator that a material makes. -/
def Material.kind : Material → AuthenticatorKind
  | .recoveryCodes _ => .recoveryCodes
  | .totp _ _ => .totp
  | .outOfBand contact _ => contact.kind

/-- An authenticator. -/
structure Authenticator where
  id : AuthenticatorId
  isActive : Bool
  usedUp : Option String
  material : Material
  deriving DecidableEq

namespace Authenticator

/-- The kind of an authenticator. -/
def kind (a : Authenticator) : AuthenticatorKind := a.material.kind

/-- The outstanding challenge. -/
def challenge? (a : Authenticator) : Option Challenge :=
  match a.material with
  | .outOfBand _ challenge => challenge
  | _ => none

/-- The code of the outstanding challenge. -/
def oobCode? (a : Authenticator) : Option String := a.challenge?.map Challenge.code

/-- The address from which an app takes over the secret. -/
def barcodeUri? (a : Authenticator) : Option String :=
  match a.material with
  | .totp _ uri => some uri
  | _ => none

end Authenticator

/-! ### In diagnostics -/

/-- A challenge in diagnostics. -/
def Challenge.display (c : Challenge) : String :=
  Text.shownRecord "OobChallenge"
    [("oob_code", Text.quoted c.code), ("secret", Text.quoted c.secret)]

/-- A material in diagnostics. -/
def Material.display : Material → String
  | .recoveryCodes codes => Text.shownRecord "RecoveryCodes" [("codes", Text.quoted codes)]
  | .totp secret uri =>
    Text.shownRecord "TotpAuthenticator"
      [("secret", Text.quoted secret), ("barcode_uri", Text.quoted uri)]
  | .outOfBand (.sms number) challenge =>
    Text.shownRecord "OobSms" [("phone_number", number.display),
      ("challenge", Text.shownOption Challenge.display challenge)]
  | .outOfBand (.email address) challenge =>
    Text.shownRecord "OobEmail" [("email_address", address.display),
      ("challenge", Text.shownOption Challenge.display challenge)]

/-- An authenticator in diagnostics. -/
def Authenticator.display (a : Authenticator) : String :=
  Text.shownRecord "MfaAuthenticator" [("id", Text.shownAround "AuthenticatorId" a.id.uuid.text),
    ("is_active", Text.shownBool a.isActive),
    ("verified_state", Text.shownOption Text.quoted a.usedUp),
    ("material", a.material.display)]

end TenantAuth
