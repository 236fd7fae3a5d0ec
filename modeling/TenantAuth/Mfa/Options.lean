import TenantAuth.Json.Record
import TenantAuth.Text.Diagnostic
import TenantAuth.Time.Rfc3339
import TenantAuth.Token

/-!
Whether a credential asks for a second factor, and the token of a sign-in that waits for it.

At most one sign-in token is outstanding. Its hash and its expiry are stored; binding a token
replaces the one before, and a token counts only before its expiry.
-/

namespace TenantAuth

/-- The settings of the second factor of one credential. -/
structure MfaOptions where
  isEnabled : Bool
  canBeDisabled : Bool
  tokenHash : Option String
  tokenExpiry : Option Instant
  deriving DecidableEq

namespace MfaOptions

/-- A second factor is neither asked for nor enforced until someone says so. -/
def initial : MfaOptions := ⟨false, true, none, none⟩

/-- Whether a sign-in token is outstanding. -/
def hasToken (o : MfaOptions) : Bool := o.tokenHash.isSome

/-- Whether a text is the outstanding token, expired or not. -/
def isBoundTo (o : MfaOptions) (token : String) : Bool := o.tokenHash.any (Token.hasHash token)

/-- Whether a text is the outstanding token and has not expired. -/
def isValid (o : MfaOptions) (token : String) (now : Instant) : Bool :=
  o.isBoundTo token && o.tokenExpiry.any now.isBefore

/-- Make a token the outstanding one. -/
def bind (o : MfaOptions) (token : String) (expiry : Instant) : MfaOptions :=
  { o with tokenHash := some (Token.hash token), tokenExpiry := some expiry }

/-- Leave no token outstanding. -/
def clearToken (o : MfaOptions) : MfaOptions := { o with tokenHash := none, tokenExpiry := none }

/-- Options as JSON. -/
def toJson (o : MfaOptions) : Json :=
  Json.ofFields [("is_enabled", .bool o.isEnabled), ("can_be_disabled", .bool o.canBeDisabled),
    ("authentication_token_hash", Json.ofOption Json.string o.tokenHash),
    ("authentication_token_expires_at", Json.ofOption Instant.toJson o.tokenExpiry)]

/-- Options from JSON. -/
def ofJson? (v : Json) : Option MfaOptions := do
  let fields ← Json.record? ["is_enabled", "can_be_disabled", "authentication_token_hash",
    "authentication_token_expires_at"] v
  let isEnabled ← Json.required? Json.bool? "is_enabled" fields
  let canBeDisabled ← Json.required? Json.bool? "can_be_disabled" fields
  let tokenHash ← Json.optional? Json.string? "authentication_token_hash" fields
  let tokenExpiry ← Json.optional? Instant.ofJson? "authentication_token_expires_at" fields
  return ⟨isEnabled, canBeDisabled, tokenHash, tokenExpiry⟩

/-- Options in diagnostics. -/
def display (o : MfaOptions) : String :=
  Text.shownRecord "MfaOptions" [("is_enabled", Text.shownBool o.isEnabled),
    ("can_be_disabled", Text.shownBool o.canBeDisabled),
    ("authentication_token_hash", Text.shownOption Text.quoted o.tokenHash),
    ("authentication_token_expires_at", Text.shownOption Instant.text o.tokenExpiry)]

end MfaOptions

end TenantAuth
