import TenantAuth.Mfa.Notification
import TenantAuth.Mfa.Services
import TenantAuth.RecoveryCode
import TenantAuth.Totp.Memory

/-!
Making authenticators, and proving to hold one.

Whatever an authenticator can be used for once is used up by a successful proof: the time step of a
code, the outstanding challenge, the recovery code. Proofs and challenges change the authenticator
in hand, and what they changed before a refusal would stay changed.
-/

namespace TenantAuth

/-- What proofs and challenges of an authenticator work on. -/
structure Held where
  authenticator : Authenticator
  draws : Draws
  deriving DecidableEq

/-- Steps that work on an authenticator, and may be refused. -/
abbrev AuthenticatorM := ExceptT Fault (StateM Held)

namespace Authenticator

/-- Refusal of what a person typed as proof. -/
def mismatch : Fault := .validation "confirmation_code" "does not match the authenticator"

/-! ### In hand -/

/-- The authenticator in hand. -/
def current : AuthenticatorM Authenticator := return (← get).authenticator

/-- Change the authenticator in hand. -/
def update (change : Authenticator → Authenticator) : AuthenticatorM Unit :=
  modify fun held => { held with authenticator := change held.authenticator }

/-- Draw or use a service. -/
def use {α : Type} (step : ServiceM α) : AuthenticatorM α := fun held =>
  let (answer, draws) := step.run.run held.draws
  (answer, { held with draws })

/-! ### Making -/

/-- A new authenticator. -/
def create (s : Services) (isActive : Bool) (material : Material) : ServiceM Authenticator := do
  return ⟨← s.drawAuthenticatorId, isActive, none, material⟩

/-- An authenticator of recovery codes, which needs no proof to be usable. -/
def ofRecoveryCodes (s : Services) (codes : List String) : ServiceM Authenticator := do
  create s true (.recoveryCodes (← s.requestEncryption (RecoveryCode.join codes)))

/-- A pending authenticator of time-based codes. -/
def ofSecret (s : Services) (secret barcodeUri : String) : ServiceM Authenticator := do
  create s false (.totp (← s.requestEncryption secret) barcodeUri)

/-- A pending authenticator that is reached out-of-band, with its first challenge. -/
def ofContact (s : Services) (contact : Contact) (code secret : String) :
    ServiceM Authenticator := do
  create s false (.outOfBand contact (some ⟨code, ← s.requestEncryption secret⟩))

/-! ### Proving -/

/-- The codes that an authenticator of recovery codes holds. -/
def decryptRecoveryCodes (s : Services) (a : Authenticator) : ServiceM (List String) :=
  match a.material with
  | .recoveryCodes codes => return RecoveryCode.split (← s.requestDecryption codes)
  | _ => throw (.preconditionViolation s!"{a.kind.name} authenticator holds no recovery codes")

/-- Prove to hold an authenticator of time-based codes, by the code of a step that was not used
lately. -/
def proveTotp (s : Services) (typed : String) : AuthenticatorM Unit := do
  let a ← current
  match a.material with
  | .totp stored _ => do
    let secret ← use (s.requestDecryption stored)
    let recent := Totp.Memory.read a.usedUp
    match ← use (s.requestVerdict secret recent typed) with
    | .valid step =>
      let steps := Totp.Memory.record recent step s.rememberedSteps
      update fun a => { a with usedUp := some (Totp.Memory.toText steps) }
    | .invalid => throw mismatch
  | _ => throw (.preconditionViolation s!"{a.kind.name} authenticator has no TOTP secret")

/-- Prove to be reached out-of-band, by the code and the secret of the outstanding challenge. -/
def proveContact (s : Services) (code typed : String) : AuthenticatorM Unit := do
  let a ← current
  match a.material with
  | .outOfBand contact (some challenge) => do
    let secret ← use (s.requestDecryption challenge.secret)
    ensure (challenge.code = code && secret = Text.trimmed typed) mismatch
    update fun a => { a with material := .outOfBand contact none }
  | .outOfBand _ none =>
    throw (.preconditionViolation s!"{a.kind.name} authenticator has no outstanding challenge")
  | _ => throw (.preconditionViolation s!"{a.kind.name} authenticator is not out-of-band")

/-- The recovery codes that were consumed. -/
def consumedCodes (a : Authenticator) : List String := (a.usedUp.map RecoveryCode.pieces).getD []

/-- What is used up after one more recovery code was consumed. -/
def withConsumed (usedUp : Option String) (code : String) : String :=
  match usedUp with
  | some text =>
    if text.isEmpty then code else text ++ String.singleton RecoveryCode.separator ++ code
  | none => code

/-- Prove to hold recovery codes, by one that was not consumed before. -/
def consumeRecoveryCode (s : Services) (typed : String) : AuthenticatorM Unit := do
  let code := RecoveryCode.normalize typed
  let a ← current
  let codes ← use (a.decryptRecoveryCodes s)
  ensure (codes.contains code && !a.consumedCodes.contains code)
    (.validation "confirmation_code" "is not a valid recovery code")
  update fun a => { a with usedUp := some (withConsumed a.usedUp code) }

/-- Prove to hold an authenticator other than recovery codes. -/
def provePossession (s : Services) (oobCode : Option String) (typed : String) :
    AuthenticatorM Unit := do
  if (← current).kind.isOutOfBand then do
    let code ← demand oobCode (.validation "oob_code" "is required")
    proveContact s code typed
  else proveTotp s typed

/-! ### Challenging -/

/-- A new challenge for an authenticator that is reached out-of-band, and the message that carries
its secret; others need none. -/
def rechallenge (s : Services) : AuthenticatorM (Option (String × Notification)) := do
  match (← current).material with
  | .outOfBand contact _ => do
    let code ← use s.drawOobCode
    let secret ← use s.drawOobSecret
    let stored ← use (s.requestEncryption secret)
    update fun a => { a with material := .outOfBand contact (some ⟨code, stored⟩) }
    return some (code, ⟨contact, secret, none⟩)
  | _ => return none

end Authenticator

end TenantAuth
