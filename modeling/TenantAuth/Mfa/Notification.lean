import TenantAuth.Mfa.Authenticator

/-!
Messages that carry an out-of-band secret to its contact.

A message is sent once the credential that it belongs to is saved. The first one also carries the
recovery codes that were made along with the authenticator.
-/

namespace TenantAuth

/-- A message to a contact. -/
structure Notification where
  contact : Contact
  secret : String
  recoveryCodes : Option (List String)
  deriving DecidableEq

/-- A message in diagnostics, without its secret. -/
def Notification.display (n : Notification) : String :=
  let rest :=
    [("secret", Text.redacted), ("has_recovery_codes", Text.shownBool n.recoveryCodes.isSome)]
  match n.contact with
  | .sms number => Text.shownRecord "OobSms" (("phone_number", number.display) :: rest)
  | .email address => Text.shownRecord "OobEmail" (("email_address", address.display) :: rest)

end TenantAuth
