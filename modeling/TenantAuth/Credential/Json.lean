import TenantAuth.Credential.Basic
import TenantAuth.Mfa.Authenticator.Json

/-!
Credentials as JSON, the form in which they are stored. Where a registration stands is the tag of
it.
-/

namespace TenantAuth

/-- A registration as JSON. -/
def Registration.toJson : Registration → Json
  | .unverified => Json.ofFields [("state", .string "unverified")]
  | .pending token => Json.ofFields [("state", .string "pending"), ("token", .string token)]
  | .verified verifiedAt =>
    Json.ofFields [("state", .string "verified"), ("verified_at", verifiedAt.toJson)]

/-- A registration from JSON. -/
def Registration.ofJson? (v : Json) : Option Registration := do
  let (tag, body) ← Json.tagged? "state" v
  match tag with
  | "unverified" => (Json.record? [] body).map fun _ => .unverified
  | "pending" => do
    let fields ← Json.record? ["token"] body
    return .pending (← Json.required? Json.string? "token" fields)
  | "verified" => do
    let fields ← Json.record? ["verified_at"] body
    return .verified (← Json.required? Instant.ofJson? "verified_at" fields)
  | _ => none

/-- The names of the fields of a credential. -/
def Credential.fieldNames : List String :=
  ["id", "user_id", "username", "display_name", "password_hash", "registration", "mfa_options",
   "authenticators"]

/-- A credential as JSON. -/
def Credential.toJson (c : Credential) : Json :=
  Json.ofFields [
    ("id", c.id.uuid.toJson),
    ("user_id", c.userId.uuid.toJson),
    ("username", Json.ofOption (fun (e : EmailAddress) => .string e.text) c.username),
    ("display_name", Json.ofOption Json.string c.displayName),
    ("password_hash", Json.ofOption Json.string c.passwordHash),
    ("registration", c.registration.toJson),
    ("mfa_options", c.mfa.toJson),
    ("authenticators", Json.ofList Authenticator.toJson c.authenticators)]

/-- A credential from JSON. -/
def Credential.ofJson? (v : Json) : Option Credential := do
  let fields ← Json.record? fieldNames v
  let id ← Json.required? Uuid.ofJson? "id" fields
  let userId ← Json.required? Uuid.ofJson? "user_id" fields
  let username ← Json.optional? Json.string? "username" fields
  let displayName ← Json.optional? Json.string? "display_name" fields
  let passwordHash ← Json.optional? Json.string? "password_hash" fields
  let registration ← Json.required? Registration.ofJson? "registration" fields
  let mfa ← Json.required? MfaOptions.ofJson? "mfa_options" fields
  let authenticators ← Json.required? (Json.list? Authenticator.ofJson?) "authenticators" fields
  return ⟨⟨id⟩, ⟨userId⟩, username.map EmailAddress.mk, displayName, passwordHash,
    registration, mfa, authenticators⟩

end TenantAuth
