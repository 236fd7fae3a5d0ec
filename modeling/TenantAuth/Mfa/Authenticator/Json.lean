import TenantAuth.Json.Record
import TenantAuth.Mfa.Authenticator

/-!
Authenticators as JSON. The kind of an authenticator stands beside its material, as the tag of it.
-/

namespace TenantAuth

/-- A kind as JSON. -/
def AuthenticatorKind.toJson (kind : AuthenticatorKind) : Json := .string kind.name

/-- A kind from JSON. -/
def AuthenticatorKind.ofJson? (v : Json) : Option AuthenticatorKind := (Json.name? v).bind ofName?

/-- A challenge as JSON. -/
def Challenge.toJson (c : Challenge) : Json :=
  Json.ofFields [("oob_code", .string c.code), ("secret", .string c.secret)]

/-- A challenge from JSON. -/
def Challenge.ofJson? (v : Json) : Option Challenge := do
  let fields ← Json.record? ["oob_code", "secret"] v
  let code ← Json.required? Json.string? "oob_code" fields
  let secret ← Json.required? Json.string? "secret" fields
  return ⟨code, secret⟩

/-- A contact as the field that holds it. -/
def Contact.toField : Contact → String × Json
  | .sms number => ("phone_number", .string number.text)
  | .email address => ("email_address", .string address.text)

/-- The parts of a material. -/
def Material.parts : Material → List (String × Json)
  | .recoveryCodes codes => [("codes", .string codes)]
  | .totp secret uri => [("secret", .string secret), ("barcode_uri", .string uri)]
  | .outOfBand contact challenge =>
    [contact.toField, ("challenge", Json.ofOption Challenge.toJson challenge)]

/-- A material as JSON. -/
def Material.toJson (m : Material) : Json :=
  Json.ofFields (("type", m.kind.toJson) :: m.parts)

/-- A material from JSON. -/
def Material.ofJson? (v : Json) : Option Material := do
  let (tag, body) ← Json.tagged? "type" v
  match ← AuthenticatorKind.ofName? tag with
  | .recoveryCodes => do
    let fields ← Json.record? ["codes"] body
    return .recoveryCodes (← Json.required? Json.string? "codes" fields)
  | .totp => do
    let fields ← Json.record? ["secret", "barcode_uri"] body
    let secret ← Json.required? Json.string? "secret" fields
    let uri ← Json.required? Json.string? "barcode_uri" fields
    return .totp secret uri
  | .oobSms => do
    let fields ← Json.record? ["phone_number", "challenge"] body
    let number ← Json.required? Json.string? "phone_number" fields
    let challenge ← Json.optional? Challenge.ofJson? "challenge" fields
    return .outOfBand (.sms ⟨number⟩) challenge
  | .oobEmail => do
    let fields ← Json.record? ["email_address", "challenge"] body
    let address ← Json.required? Json.string? "email_address" fields
    let challenge ← Json.optional? Challenge.ofJson? "challenge" fields
    return .outOfBand (.email ⟨address⟩) challenge

/-- An authenticator as JSON. -/
def Authenticator.toJson (a : Authenticator) : Json :=
  Json.ofFields [("id", a.id.uuid.toJson), ("is_active", .bool a.isActive),
    ("verified_state", Json.ofOption Json.string a.usedUp), ("material", a.material.toJson)]

/-- An authenticator from JSON. -/
def Authenticator.ofJson? (v : Json) : Option Authenticator := do
  let fields ← Json.record? ["id", "is_active", "verified_state", "material"] v
  let id ← Json.required? Uuid.ofJson? "id" fields
  let isActive ← Json.required? Json.bool? "is_active" fields
  let usedUp ← Json.optional? Json.string? "verified_state" fields
  let material ← Json.required? Material.ofJson? "material" fields
  return ⟨⟨id⟩, isActive, usedUp, material⟩

end TenantAuth
