import TenantAuth.Cipher.AtRest
import TenantAuth.Text.Diagnostic
import TenantAuth.Text.Numeral
import TenantAuth.Time.Instant

/-!
How the second factor is configured: the issuer that apps show, the key of what is stored encrypted,
the number of time steps that are remembered, and the lifetime of sign-in tokens.

Only the key has to be given. A configuration comes from a draft, or from the environment by way of
one.
-/

namespace TenantAuth

/-- The configuration of the second factor. -/
structure MfaConfig where
  issuer : String
  key : String
  rememberedSteps : Nat
  tokenLifetimeSeconds : Int
  deriving DecidableEq

/-- What is known so far of a configuration. -/
structure MfaConfigDraft where
  issuer : Option String
  key : Option String
  rememberedSteps : Option Nat
  tokenLifetimeSeconds : Option Int
  deriving DecidableEq

/-- What is wrong with a configured value. -/
inductive ConfigProblem
  | numeral (fault : Text.NumeralFault)
  | belowOne
  | notPositive
  deriving DecidableEq

/-- The wording of a problem. -/
def ConfigProblem.message : ConfigProblem → String
  | .numeral fault => fault.message
  | .belowOne => "must be at least 1"
  | .notPositive => "must be positive"

/-- Why there is no configuration. -/
inductive ConfigFault
  | missingVariable (name : String)
  | invalidValue (name : String) (problem : ConfigProblem)
  deriving DecidableEq

/-- The wording of a fault. -/
def ConfigFault.message : ConfigFault → String
  | .missingVariable name => s!"Missing required environment variable: {name}"
  | .invalidValue name problem => s!"Invalid value for {name}: {problem.message}"

/-- The code of a fault. -/
def ConfigFault.code : ConfigFault → String
  | .missingVariable _ => "missing_var"
  | .invalidValue _ _ => "invalid_value"

namespace MfaConfig

/-- The variable that holds the issuer. -/
def issuerVariable : String := "MFA_ISSUER"

/-- The variable that holds the number of remembered steps. -/
def stepsVariable : String := "MFA_TOTP_MAX_TIME_STEPS"

/-- The variable that holds the lifetime of sign-in tokens in seconds. -/
def lifetimeVariable : String := "MFA_AUTHENTICATION_TOKEN_TTL_SECS"

/-- The issuer, unless another is given. -/
def defaultIssuer : String := "SaaStack"

/-- The number of remembered steps, unless another is given. -/
def defaultSteps : Nat := 3

/-- The lifetime of sign-in tokens in seconds, unless another is given. -/
def defaultLifetimeSeconds : Int := 600

/-- The configuration of a draft. -/
def ofDraft (draft : MfaConfigDraft) : Except ConfigFault MfaConfig :=
  match draft.key with
  | none => .error (.missingVariable Cipher.keyVariable)
  | some key =>
    let steps := draft.rememberedSteps.getD defaultSteps
    let lifetime := draft.tokenLifetimeSeconds.getD defaultLifetimeSeconds
    if steps = 0 then .error (.invalidValue stepsVariable .belowOne)
    else if lifetime ≤ 0 then .error (.invalidValue lifetimeVariable .notPositive)
    else .ok ⟨draft.issuer.getD defaultIssuer, key, steps, lifetime⟩

/-- The number in a variable, if it holds anything but blanks. -/
def number? {α : Type} (read : List Char → Except Text.NumeralFault α)
    (valueOf : String → Option String) (name : String) : Except ConfigFault (Option α) :=
  match Text.trim ((valueOf name).getD "").toList with
  | [] => .ok none
  | cs =>
    match read cs with
    | .ok n => .ok (some n)
    | .error fault => .error (.invalidValue name (.numeral fault))

/-- The configuration that the environment holds. -/
def ofEnvironment (valueOf : String → Option String) : Except ConfigFault MfaConfig :=
  match valueOf Cipher.keyVariable with
  | none => .error (.missingVariable Cipher.keyVariable)
  | some key => do
    let steps ← number? Text.readUnsigned valueOf stepsVariable
    let lifetime ← number? Text.readSigned valueOf lifetimeVariable
    ofDraft ⟨valueOf issuerVariable, some key, steps, lifetime⟩

/-- The lifetime of sign-in tokens, unless it is too long to be a span. -/
def tokenLifetime? (c : MfaConfig) : Option Span := Span.ofSeconds? c.tokenLifetimeSeconds

/-- A configuration in diagnostics, without its key. -/
def display (c : MfaConfig) : String :=
  Text.shownRecord "IdentityConfig" [("mfa_issuer", Text.quoted c.issuer),
    ("mfa_encryption_key", Text.redacted), ("totp_max_time_steps", toString c.rememberedSteps),
    ("mfa_authentication_token_ttl_secs", toString c.tokenLifetimeSeconds)]

end MfaConfig

end TenantAuth
