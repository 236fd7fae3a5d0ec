import TenantAuth.Credential.Registering
import TenantAuth.Mfa.Caller
import TenantAuth.Mfa.Possession

/-!
What is done to the authenticators of a credential.

Everyone has to be authorized first: as the owner and, in the middle of a sign-in, by its token.
There is at most one authenticator of a kind. It is added as pending, confirmed by a proof,
challenged when it is reached out-of-band, and verified by further proofs. The recovery codes come
with the first authenticator and go with the last.
-/

namespace TenantAuth

/-- The outcome of adding an authenticator. -/
structure Association where
  authenticator : Authenticator
  recoveryCodes : Option (List String)
  secret : Option String
  notifications : List Notification
  deriving DecidableEq

/-- The outcome of challenging an authenticator. -/
structure ChallengeOutcome where
  id : AuthenticatorId
  kind : AuthenticatorKind
  oobCode : Option String
  notifications : List Notification
  deriving DecidableEq

/-- The list with the first element that satisfies a condition replaced. -/
def replaceFirst {α : Type} (condition : α → Bool) (new : α) : List α → List α
  | [] => []
  | a :: rest => if condition a then new :: rest else a :: replaceFirst condition new rest

namespace Credential

/-- Refusal of a token that is not outstanding or has expired. -/
def tokenNotValid : Fault :=
    .notAuthenticated (some "MFA authentication token is invalid or has expired")

/-- Why someone may not act on the authenticators of a credential. -/
def unauthorized? (c : Credential) (caller : MfaCaller) (now : Instant) : Option Fault :=
  if caller.token.any fun token => !c.mfa.isValid token now then some tokenNotValid
  else if caller.userId ≠ c.userId then some (.forbiddenAccess none)
  else none

/-- Refuse whoever may not act on the authenticators. -/
def authorize (caller : MfaCaller) (now : Instant) : CredentialM Unit := do
  match (← current).unauthorized? caller now with
  | some fault => throw fault
  | none => return ()

/-- The authenticators, for whoever may act on them. -/
def viewAuthenticators (caller : MfaCaller) (now : Instant) : CredentialM (List Authenticator) := do
  authorize caller now
  return (← current).authenticators

/-- Work on the first authenticator that satisfies a condition, and put it back in its place,
however the steps end. -/
def onFirst {α : Type} (condition : Authenticator → Bool) (missing : Fault)
    (steps : AuthenticatorM α) :
    CredentialM α := fun desk =>
  match desk.credential.authenticators.find? condition with
  | none => (.error missing, desk)
  | some a =>
    let (answer, held) := steps.run.run ⟨a, desk.draws⟩
    (answer, ⟨{ desk.credential with
      authenticators := replaceFirst condition held.authenticator desk.credential.authenticators },
        held.draws⟩)

/-- Refuse unless the second factor is asked for. -/
def ensureMfaEnabled : CredentialM Unit := do
  ensure (← current).mfa.isEnabled mfaNotEnabled

/-! ### Adding -/

/-- Where a new authenticator of a kind is reached out-of-band: at the number given, or at the
address given or else known; other kinds are not. -/
def contactFor (kind : AuthenticatorKind) (phone : Option PhoneNumber)
    (email profileEmail : Option EmailAddress) : Except Fault (Option Contact) :=
  match kind with
  | .oobSms =>
    match phone with
    | some number => .ok (some (.sms number))
    | none => .error (.validation "phone_number" "is required")
  | .oobEmail =>
    match email.orElse fun _ => profileEmail with
    | some address => .ok (some (.email address))
    | none => .error (.validation "email_address" "is required")
  | _ => .ok none

/-- The recovery codes that have to be made, because there are none. -/
def makeRecoveryCodes (s : Services) : CredentialM (Option (List String)) := do
  if (← current).recoveryCodes?.isSome then return none
  else do
    let codes ← use s.drawRecoveryCodes
    let authenticator ← use (Authenticator.ofRecoveryCodes s codes)
    update fun c => { c with authenticators := c.authenticators ++ [authenticator] }
    return some codes

/-- The name of an account in an app: the address to sign in with, or else the one known, or else
the user. -/
def accountLabel (c : Credential) (profileEmail : Option EmailAddress) : String :=
  match c.username.orElse fun _ => profileEmail with
  | some email => email.text
  | none => c.userId.uuid.text

/-- Make an authenticator of time-based codes. -/
def makeTotp (s : Services) (account : String) (recoveryCodes : Option (List String)) :
    CredentialM Association := do
  let secret ← use s.drawOtpSecret
  let uri ← use (s.requestBarcodeUri secret account)
  let authenticator ← use (Authenticator.ofSecret s secret uri)
  return ⟨authenticator, recoveryCodes, some secret, []⟩

/-- Make an authenticator that is reached out-of-band. -/
def makeOutOfBand (s : Services) (contact : Contact) (recoveryCodes : Option (List String)) :
    CredentialM Association := do
  let code ← use s.drawOobCode
  let secret ← use s.drawOobSecret
  let authenticator ← use (Authenticator.ofContact s contact code secret)
  return ⟨authenticator, recoveryCodes, none, [⟨contact, secret, recoveryCodes⟩]⟩

/-- Add a pending authenticator, in the place of a pending one of its kind. -/
def associate (s : Services) (now : Instant) (caller : MfaCaller) (kind : AuthenticatorKind)
    (phone : Option PhoneNumber) (email profileEmail : Option EmailAddress) :
    CredentialM Association := do
  authorize caller now
  ensure (← current).isVerified (.preconditionViolation "Registration is not verified")
  ensureMfaEnabled
  ensure (kind ≠ .recoveryCodes) (.validation "type" "recovery codes cannot be associated directly")
  ensure ((← current).active? kind).isNone
    (.preconditionViolation s!"A {kind.name} authenticator is already associated")
  let contact ← liftExcept (contactFor kind phone email profileEmail)
  update fun c =>
    { c with authenticators := c.authenticators.filter fun a => !(a.kind = kind && !a.isActive) }
  let recoveryCodes ← makeRecoveryCodes s
  let association ←
    match contact with
    | none => do makeTotp s ((← current).accountLabel profileEmail) recoveryCodes
    | some contact => makeOutOfBand s contact recoveryCodes
  update fun c => { c with authenticators := c.authenticators ++ [association.authenticator] }
  return association

/-! ### Proving -/

/-- Activate the pending authenticator of a kind by a proof; in the middle of a sign-in, this ends
it. -/
def confirm (s : Services) (now : Instant) (caller : MfaCaller) (kind : AuthenticatorKind)
    (oobCode : Option String) (typed : String) : CredentialM Unit := do
  authorize caller now
  ensureMfaEnabled
  ensure (kind ≠ .recoveryCodes) (.validation "type" "recovery codes do not need confirmation")
  onFirst (fun a => a.kind = kind && !a.isActive)
    (.preconditionViolation s!"No pending {kind.name} authenticator to confirm") do
      Authenticator.provePossession s oobCode typed
      Authenticator.update fun a => { a with isActive := true }
  update fun c => { c with mfa := if caller.isAnonymous then c.mfa.clearToken else c.mfa }

/-- Refusal of an identifier that no authenticator has. -/
def noAuthenticator (id : AuthenticatorId) : Fault :=
    .entityNotFound "MfaAuthenticator" (some id.uuid.text)

/-- Challenge an active authenticator. -/
def challenge (s : Services) (now : Instant) (caller : MfaCaller) (id : AuthenticatorId) :
    CredentialM ChallengeOutcome := do
  authorize caller now
  ensureMfaEnabled
  onFirst (fun a => a.id = id) (noAuthenticator id) do
    let a ← Authenticator.current
    ensure a.isActive (.preconditionViolation "Authenticator has not been confirmed")
    let sent ← Authenticator.rechallenge s
    return ⟨id, a.kind, sent.map Prod.fst, (sent.map Prod.snd).toList⟩

/-- End a sign-in by a proof for the active authenticator of a kind. -/
def verify (s : Services) (now : Instant) (caller : MfaCaller) (kind : AuthenticatorKind)
    (oobCode : Option String) (typed : String) : CredentialM Unit := do
  authorize caller now
  ensureMfaEnabled
  onFirst (fun a => a.kind = kind && a.isActive)
    (.preconditionViolation s!"No active {kind.name} authenticator")
    (if kind = .recoveryCodes then Authenticator.consumeRecoveryCode s typed
     else Authenticator.provePossession s oobCode typed)
  update fun c => { c with mfa := c.mfa.clearToken }

/-! ### Removing -/

/-- Authenticators without one of them; recovery codes do not stay alone. -/
def removed (id : AuthenticatorId) (authenticators : List Authenticator) : List Authenticator :=
  let rest := authenticators.eraseP fun a => a.id = id
  if rest.all fun a => a.kind = .recoveryCodes then [] else rest

/-- Remove an authenticator. -/
def disassociate (now : Instant) (caller : MfaCaller) (id : AuthenticatorId) :
    CredentialM Unit := do
  authorize caller now
  let authenticator ← demand ((← current).authenticator? id) (noAuthenticator id)
  ensure (authenticator.kind ≠ .recoveryCodes)
    (.validation "id" "recovery codes cannot be disassociated")
  update fun c => { c with authenticators := removed id c.authenticators }

end Credential

end TenantAuth
