import TenantAuth.Identifier
import TenantAuth.Time.Rfc3339

/-!
The tokens of someone who has signed in, and the two ways in which a sign-in by password may end:
with tokens, or with a token that waits for the second factor.
-/

namespace TenantAuth

/-- Tokens as they are issued. -/
structure AccessTokens where
  accessToken : String
  accessTokenExpiresOn : Instant
  refreshToken : String
  refreshTokenExpiresOn : Instant
  deriving DecidableEq

/-- A token that expires. -/
structure AuthToken where
  value : String
  expiresOn : Instant
  deriving DecidableEq

/-- The tokens of a user who has signed in. -/
structure SignInTokens where
  userId : UserId
  accessToken : AuthToken
  refreshToken : AuthToken
  deriving DecidableEq

/-- Issued tokens as those of a user. -/
def AccessTokens.ofUser (t : AccessTokens) (user : UserId) : SignInTokens :=
  ⟨user, ⟨t.accessToken, t.accessTokenExpiresOn⟩, ⟨t.refreshToken, t.refreshTokenExpiresOn⟩⟩

/-- The outcome of a sign-in by password. -/
inductive SignInOutcome
  | authenticated (tokens : SignInTokens)
  | mfaRequired (token : String)
  deriving DecidableEq

/-! ### As JSON -/

/-- Issued tokens as JSON. -/
def AccessTokens.toJson (t : AccessTokens) : Json :=
  Json.ofFields [("access_token", .string t.accessToken),
    ("access_token_expires_on", t.accessTokenExpiresOn.toJson),
    ("refresh_token", .string t.refreshToken),
    ("refresh_token_expires_on", t.refreshTokenExpiresOn.toJson)]

/-- Issued tokens from JSON. -/
def AccessTokens.ofJson? (v : Json) : Option AccessTokens := do
  let fields ← Json.record? ["access_token", "access_token_expires_on", "refresh_token",
    "refresh_token_expires_on"] v
  let accessToken ← Json.required? Json.string? "access_token" fields
  let accessTokenExpiresOn ← Json.required? Instant.ofJson? "access_token_expires_on" fields
  let refreshToken ← Json.required? Json.string? "refresh_token" fields
  let refreshTokenExpiresOn ← Json.required? Instant.ofJson? "refresh_token_expires_on" fields
  return ⟨accessToken, accessTokenExpiresOn, refreshToken, refreshTokenExpiresOn⟩

/-- A token as JSON. -/
def AuthToken.toJson (t : AuthToken) : Json :=
  Json.ofFields [("value", .string t.value), ("expires_on", t.expiresOn.toJson)]

/-- A token from JSON. -/
def AuthToken.ofJson? (v : Json) : Option AuthToken := do
  let fields ← Json.record? ["value", "expires_on"] v
  let value ← Json.required? Json.string? "value" fields
  let expiresOn ← Json.required? Instant.ofJson? "expires_on" fields
  return ⟨value, expiresOn⟩

/-- The fields of the tokens of a user. -/
def SignInTokens.fields (t : SignInTokens) : List (String × Json) :=
  [("user_id", t.userId.uuid.toJson), ("access_token", t.accessToken.toJson),
   ("refresh_token", t.refreshToken.toJson)]

/-- The tokens of a user as JSON. -/
def SignInTokens.toJson (t : SignInTokens) : Json := Json.ofFields t.fields

/-- The tokens of a user from JSON. -/
def SignInTokens.ofJson? (v : Json) : Option SignInTokens := do
  let fields ← Json.record? ["user_id", "access_token", "refresh_token"] v
  let userId ← Json.required? Uuid.ofJson? "user_id" fields
  let accessToken ← Json.required? AuthToken.ofJson? "access_token" fields
  let refreshToken ← Json.required? AuthToken.ofJson? "refresh_token" fields
  return ⟨⟨userId⟩, accessToken, refreshToken⟩

/-- An outcome as JSON. -/
def SignInOutcome.toJson : SignInOutcome → Json
  | .authenticated tokens => Json.ofFields (("outcome", .string "authenticated") :: tokens.fields)
  | .mfaRequired token =>
    Json.ofFields [("outcome", .string "mfa_required"), ("mfa_token", .string token)]

/-- An outcome from JSON. -/
def SignInOutcome.ofJson? (v : Json) : Option SignInOutcome := do
  let (tag, body) ← Json.tagged? "outcome" v
  match tag with
  | "authenticated" => return .authenticated (← SignInTokens.ofJson? body)
  | "mfa_required" => do
    let fields ← Json.record? ["mfa_token"] body
    return .mfaRequired (← Json.required? Json.string? "mfa_token" fields)
  | _ => none

end TenantAuth
