import TenantAuth.Credential.Json
import TenantAuth.SignIn.Tokens

/-!
What callers are shown of credentials and authenticators. Secrets are shown once, to whoever adds
the authenticator.
-/

namespace TenantAuth

/-- A credential as callers see it. -/
structure CredentialView where
  id : CredentialId
  userId : UserId
  isMfaEnabled : Bool
  isVerified : Bool
  deriving DecidableEq

/-- What callers see of a credential. -/
def Credential.view (c : Credential) : CredentialView :=
    ⟨c.id, c.userId, c.mfa.isEnabled, c.isVerified⟩

/-- An authenticator as callers see it. -/
structure AuthenticatorView where
  id : AuthenticatorId
  kind : AuthenticatorKind
  isActive : Bool
  deriving DecidableEq

/-- What callers see of an authenticator. -/
def Authenticator.view (a : Authenticator) : AuthenticatorView := ⟨a.id, a.kind, a.isActive⟩

/-- What a caller needs to finish setting up an authenticator. -/
structure AssociationView where
  kind : AuthenticatorKind
  recoveryCodes : Option (List String)
  oobCode : Option String
  barcodeUri : Option String
  secret : Option String
  deriving DecidableEq

/-- What a caller gets for confirming an authenticator: tokens in the middle of a sign-in, and
otherwise their authenticators. -/
structure ConfirmationView where
  tokens : Option SignInTokens
  authenticators : Option (List AuthenticatorView)
  deriving DecidableEq

/-- What a caller needs to answer a challenge. -/
structure ChallengeView where
  kind : AuthenticatorKind
  oobCode : Option String
  deriving DecidableEq

/-- A machine with its first key; nobody made it if the caller had not signed in. -/
structure MachineView where
  id : UserId
  apiKey : String
  createdById : Option UserId
  description : String
  expiresOn : Option Instant
  deriving DecidableEq

/-! ### As JSON -/

/-- A credential as callers see it, as JSON. -/
def CredentialView.toJson (c : CredentialView) : Json :=
  Json.ofFields [("id", c.id.uuid.toJson), ("user_id", c.userId.uuid.toJson),
    ("is_mfa_enabled", .bool c.isMfaEnabled), ("is_verified", .bool c.isVerified)]

/-- A credential as callers see it, from JSON. -/
def CredentialView.ofJson? (v : Json) : Option CredentialView := do
  let fields ← Json.record? ["id", "user_id", "is_mfa_enabled", "is_verified"] v
  let id ← Json.required? Uuid.ofJson? "id" fields
  let userId ← Json.required? Uuid.ofJson? "user_id" fields
  let isMfaEnabled ← Json.required? Json.bool? "is_mfa_enabled" fields
  let isVerified ← Json.required? Json.bool? "is_verified" fields
  return ⟨⟨id⟩, ⟨userId⟩, isMfaEnabled, isVerified⟩

/-- An authenticator as callers see it, as JSON. -/
def AuthenticatorView.toJson (a : AuthenticatorView) : Json :=
  Json.ofFields [("id", a.id.uuid.toJson), ("type", a.kind.toJson), ("is_active", .bool a.isActive)]

/-- An authenticator as callers see it, from JSON. -/
def AuthenticatorView.ofJson? (v : Json) : Option AuthenticatorView := do
  let fields ← Json.record? ["id", "type", "is_active"] v
  let id ← Json.required? Uuid.ofJson? "id" fields
  let kind ← Json.required? AuthenticatorKind.ofJson? "type" fields
  let isActive ← Json.required? Json.bool? "is_active" fields
  return ⟨⟨id⟩, kind, isActive⟩

/-- A list of texts as JSON. -/
def Json.ofTexts (texts : List String) : Json := Json.ofList Json.string texts

/-- An added authenticator as JSON. -/
def AssociationView.toJson (a : AssociationView) : Json :=
  Json.ofFields
    [("type", a.kind.toJson), ("recovery_codes", Json.ofOption Json.ofTexts a.recoveryCodes),
      ("oob_code", Json.ofOption Json.string a.oobCode),
    ("barcode_uri", Json.ofOption Json.string a.barcodeUri),
      ("secret", Json.ofOption Json.string a.secret)]

/-- An added authenticator from JSON. -/
def AssociationView.ofJson? (v : Json) : Option AssociationView := do
  let fields ← Json.record? ["type", "recovery_codes", "oob_code", "barcode_uri", "secret"] v
  let kind ← Json.required? AuthenticatorKind.ofJson? "type" fields
  let recoveryCodes ← Json.optional? (Json.list? Json.string?) "recovery_codes" fields
  let oobCode ← Json.optional? Json.string? "oob_code" fields
  let barcodeUri ← Json.optional? Json.string? "barcode_uri" fields
  let secret ← Json.optional? Json.string? "secret" fields
  return ⟨kind, recoveryCodes, oobCode, barcodeUri, secret⟩

/-- A confirmation as JSON. -/
def ConfirmationView.toJson (c : ConfirmationView) : Json :=
  Json.ofFields [("tokens", Json.ofOption SignInTokens.toJson c.tokens),
    ("authenticators", Json.ofOption (Json.ofList AuthenticatorView.toJson) c.authenticators)]

/-- A confirmation from JSON. -/
def ConfirmationView.ofJson? (v : Json) : Option ConfirmationView := do
  let fields ← Json.record? ["tokens", "authenticators"] v
  let tokens ← Json.optional? SignInTokens.ofJson? "tokens" fields
  let authenticators ← Json.optional? (Json.list? AuthenticatorView.ofJson?) "authenticators" fields
  return ⟨tokens, authenticators⟩

/-- A challenge as callers see it, as JSON. -/
def ChallengeView.toJson (c : ChallengeView) : Json :=
  Json.ofFields [("type", c.kind.toJson), ("oob_code", Json.ofOption Json.string c.oobCode)]

/-- A challenge as callers see it, from JSON. -/
def ChallengeView.ofJson? (v : Json) : Option ChallengeView := do
  let fields ← Json.record? ["type", "oob_code"] v
  let kind ← Json.required? AuthenticatorKind.ofJson? "type" fields
  let oobCode ← Json.optional? Json.string? "oob_code" fields
  return ⟨kind, oobCode⟩

/-- A machine as JSON. -/
def MachineView.toJson (m : MachineView) : Json :=
  Json.ofFields [("id", m.id.uuid.toJson), ("api_key", .string m.apiKey),
    ("created_by_id", Json.ofOption (fun (id : UserId) => id.uuid.toJson) m.createdById),
    ("description", .string m.description),
    ("expires_on", Json.ofOption Instant.toJson m.expiresOn)]

/-- A machine from JSON. -/
def MachineView.ofJson? (v : Json) : Option MachineView := do
  let fields ← Json.record? ["id", "api_key", "created_by_id", "description", "expires_on"] v
  let id ← Json.required? Uuid.ofJson? "id" fields
  let apiKey ← Json.required? Json.string? "api_key" fields
  let createdById ← Json.optional? Uuid.ofJson? "created_by_id" fields
  let description ← Json.required? Json.string? "description" fields
  let expiresOn ← Json.optional? Instant.ofJson? "expires_on" fields
  return ⟨⟨id⟩, apiKey, createdById.map UserId.mk, description, expiresOn⟩

end TenantAuth
